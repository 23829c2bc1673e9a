import MarkerLint.Text.IdentifierChars
import MarkerLint.Text.Scan
import MarkerLint.Text.Span
import MarkerLint.Text.WordChars

-- Tokens of a script. What a character begins depends on where it stands: a slash may begin a regular expression, a
-- brace may go on with a template, and markup has rules of its own. `Cursor.next` reads tokens by the plain rules,
-- and the other readers here are for the grammar to choose.

namespace MarkerLint.Script

inductive Token where
  | name (text : String)
  -- An identifier with an escape in it, which is never a keyword.
  | escapedName (text : String)
  | privateName (text : String)
  -- A punctuator by its spelling. `>` always stands alone.
  | mark (text : String)
  | number
  | bigint
  | string (value : String)
  -- A template up to its end if it is `closed`, and else up to its first substitution.
  | template (closed : Bool)
  | eof
  | invalid
  deriving DecidableEq, Inhabited, Repr

structure Cursor where
  rest : List Char
  offset : Nat
  deriving Inhabited, Repr

namespace Cursor

def ofText (text : List Char) : Cursor :=
  ⟨text, 0⟩

def past (c : Cursor) (taken rest : List Char) : Cursor :=
  ⟨rest, c.offset + Text.bytes taken⟩

end Cursor

def isLineEnd (c : Char) : Bool :=
  c = '\n' || c = '\r' || c = '\u2028' || c = '\u2029'

-- Blanks between tokens; a byte order mark is one.
def isSpace (c : Char) : Bool :=
  c = ' ' || c = '\t' || c = '\x0b' || c = '\x0c' || c = '\ufeff' ||
    (c.val ≥ 128 && c != '\u0085' && !isLineEnd c && Text.isBlank c)

def isNameStart (c : Char) : Bool :=
  c = '$' || c = '_' || Text.isIdStart c

def isNamePart (c : Char) : Bool :=
  c = '$' || c = '\u200c' || c = '\u200d' || Text.isIdContinue c

inductive GapMode where
  | code
  | lineComment
  | blockComment

structure Gap where
  cursor : Cursor
  newline : Bool
  unclosed : Bool

def skipGap (mode : GapMode) (newline : Bool) (offset : Nat) : List Char → Gap
  | [] => ⟨⟨[], offset⟩, newline, mode matches .blockComment⟩
  | '/' :: '/' :: cs =>
    match mode with
    | .code => skipGap .lineComment newline (offset + 2) cs
    | .lineComment => skipGap .lineComment newline (offset + 2) cs
    | .blockComment => skipGap .blockComment newline (offset + 1) ('/' :: cs)
  | '/' :: '*' :: cs =>
    match mode with
    | .code => skipGap .blockComment newline (offset + 2) cs
    | .lineComment => skipGap .lineComment newline (offset + 2) cs
    | .blockComment => skipGap .blockComment newline (offset + 1) ('*' :: cs)
  | '*' :: '/' :: cs =>
    match mode with
    | .code => ⟨⟨'*' :: '/' :: cs, offset⟩, newline, false⟩
    | .lineComment => skipGap .lineComment newline (offset + 1) ('/' :: cs)
    | .blockComment => skipGap .code newline (offset + 2) cs
  | c :: cs =>
    match mode with
    | .code =>
      if isLineEnd c then skipGap .code true (offset + c.utf8Size) cs
      else if isSpace c then skipGap .code newline (offset + c.utf8Size) cs
      else ⟨⟨c :: cs, offset⟩, newline, false⟩
    | .lineComment =>
      if isLineEnd c then skipGap .code true (offset + c.utf8Size) cs
      else skipGap .lineComment newline (offset + c.utf8Size) cs
    | .blockComment => skipGap .blockComment (newline || isLineEnd c) (offset + c.utf8Size) cs

inductive NameMode where
  | plain
  | digits (left value : Nat)
  | braced (value : Nat)

-- Reads a name with its escapes. The characters read so far come last one first.
def readName (mode : NameMode) (read : List Char) (escaped : Bool) (offset : Nat) : List Char → Token × Cursor
  | [] =>
    match mode with
    | .plain => (finish read escaped, ⟨[], offset⟩)
    | _ => (.invalid, ⟨[], offset⟩)
  | c :: cs =>
    let next := offset + c.utf8Size
    match mode with
    | .plain =>
      if c = '\\' then
        match cs with
        | 'u' :: '{' :: cs => readName (.braced 0) read true (next + 2) cs
        | 'u' :: cs => readName (.digits 4 0) read true (next + 1) cs
        | cs => (.invalid, ⟨cs, next⟩)
      else if allowed read c then readName .plain (c :: read) escaped next cs
      else (finish read escaped, ⟨c :: cs, offset⟩)
    | .digits left value =>
      match Text.hexDigit? c with
      | none => (.invalid, ⟨c :: cs, offset⟩)
      | some d =>
        let value := value * 16 + d
        if left ≤ 1 then
          if allowed read (Char.ofNat value) then readName .plain (Char.ofNat value :: read) true next cs
          else (.invalid, ⟨cs, next⟩)
        else readName (.digits (left - 1) value) read true next cs
    | .braced value =>
      if c = '}' then
        if allowed read (Char.ofNat value) then readName .plain (Char.ofNat value :: read) true next cs
        else (.invalid, ⟨cs, next⟩)
      else
        match Text.hexDigit? c with
        | none => (.invalid, ⟨c :: cs, offset⟩)
        | some d => readName (.braced (value * 16 + d)) read true next cs
where
  allowed (read : List Char) (c : Char) : Bool :=
    if read.isEmpty then isNameStart c else isNamePart c
  finish (read : List Char) (escaped : Bool) : Token :=
    if read.isEmpty then .invalid
    else if escaped then .escapedName (String.ofList read.reverse)
    else .name (String.ofList read.reverse)

-- Joins two halves of a character that are written apart, in a list that has its last unit first.
def pushUnit (units : List Nat) (n : Nat) : List Nat :=
  match units with
  | high :: before =>
    if 0xd800 ≤ high ∧ high ≤ 0xdbff ∧ 0xdc00 ≤ n ∧ n ≤ 0xdfff then
      (0x10000 + (high - 0xd800) * 0x400 + (n - 0xdc00)) :: before
    else
      n :: units
  | [] => [n]

def isSurrogate (n : Nat) : Bool :=
  0xd800 ≤ n && n ≤ 0xdfff

def hex4 (n : Nat) : List Char :=
  let digits := Nat.toDigits 16 n
  List.replicate (4 - digits.length) '0' ++ digits

-- The text of some units. A half without its other half is written as a replacement character and its four digits;
-- then a replacement character itself is written that way too.
def textOfUnits (units : List Nat) : String :=
  let marked := fun (n : Nat) => '\ufffd' :: hex4 n
  let lone := units.any isSurrogate
  String.ofList (units.flatMap fun n =>
    if isSurrogate n then marked n
    else if lone && n == 0xfffd then marked n
    else [Char.ofNat n])

inductive StringMode where
  | plain
  | digits (left value : Nat)
  | braced (value : Nat) (empty : Bool)
  | octal (left value : Nat)

def escapeValue (c : Char) : Nat :=
  match c with
  | 'n' => 0xa
  | 't' => 0x9
  | 'r' => 0xd
  | 'b' => 0x8
  | 'f' => 0xc
  | 'v' => 0xb
  | c => c.toNat

def octalDigit? (c : Char) : Option Nat :=
  if '0' ≤ c ∧ c ≤ '7' then some (c.toNat - '0'.toNat) else none

def readString (quote : Char) (mode : StringMode) (units : List Nat) (offset : Nat) : List Char → Token × Cursor
  | [] => (.invalid, ⟨[], offset⟩)
  | c :: cs =>
    let next := offset + c.utf8Size
    let plain : List Nat → Token × Cursor := fun units =>
      if c = quote then (.string (textOfUnits units.reverse), ⟨cs, next⟩)
      else if c = '\n' || c = '\r' then (.invalid, ⟨cs, next⟩)
      else if c = '\\' then
        match cs with
        | [] => (.invalid, ⟨[], next⟩)
        | '\r' :: '\n' :: cs => readString quote .plain units (next + 2) cs
        | 'x' :: cs => readString quote (.digits 2 0) units (next + 1) cs
        | 'u' :: '{' :: cs => readString quote (.braced 0 true) units (next + 2) cs
        | 'u' :: cs => readString quote (.digits 4 0) units (next + 1) cs
        | e :: cs =>
          let behind := next + e.utf8Size
          if isLineEnd e then readString quote .plain units behind cs
          else
            match octalDigit? e with
            | some d => readString quote (.octal (if d ≤ 3 then 2 else 1) d) units behind cs
            | none => readString quote .plain (escapeValue e :: units) behind cs
      else readString quote .plain (c.toNat :: units) next cs
    match mode with
    | .plain => plain units
    | .octal left value =>
      match left, octalDigit? c with
      | left + 1, some d => readString quote (.octal left (value * 8 + d)) units next cs
      | _, _ => plain (value :: units)
    | .digits left value =>
      match Text.hexDigit? c with
      | none => (.invalid, ⟨c :: cs, offset⟩)
      | some d =>
        let value := value * 16 + d
        if left ≤ 1 then readString quote .plain (pushUnit units value) next cs
        else readString quote (.digits (left - 1) value) units next cs
    | .braced value empty =>
      if c = '}' then
        if empty || value > 0x10ffff then (.invalid, ⟨cs, next⟩)
        else readString quote .plain (pushUnit units value) next cs
      else
        match Text.hexDigit? c with
        | none => (.invalid, ⟨c :: cs, offset⟩)
        | some d => readString quote (.braced (value * 16 + d) false) units next cs

def readTemplate (offset : Nat) : List Char → Token × Cursor
  | [] => (.invalid, ⟨[], offset⟩)
  | '\\' :: c :: cs => readTemplate (offset + 1 + c.utf8Size) cs
  | '$' :: '{' :: cs => (.template false, ⟨cs, offset + 2⟩)
  | c :: cs => if c = '\x60' then (.template true, ⟨cs, offset + 1⟩) else readTemplate (offset + c.utf8Size) cs

-- Reads a regular expression up to its closing slash. A slash in a class does not close it.
def readRegexBody (inClass : Bool) (offset : Nat) : List Char → Option Cursor
  | [] => none
  | '\\' :: c :: cs => if isLineEnd c then none else readRegexBody inClass (offset + 1 + c.utf8Size) cs
  | c :: cs =>
    let next := offset + c.utf8Size
    if isLineEnd c then none
    else if c = '/' && !inClass then some ⟨cs, next⟩
    else if c = '[' then readRegexBody true next cs
    else if c = ']' then readRegexBody false next cs
    else readRegexBody inClass next cs

def takeDigits (isDigit : Char → Bool) : List Char → List Char × List Char
  | [] => ([], [])
  | c :: cs =>
    if isDigit c then
      match cs with
      | '_' :: d :: rest =>
        if isDigit d then
          let (digits, rest) := takeDigits isDigit (d :: rest)
          (c :: '_' :: digits, rest)
        else
          ([c], cs)
      | cs =>
        let (digits, rest) := takeDigits isDigit cs
        (c :: digits, rest)
    else
      ([], c :: cs)

def isHexDigit (c : Char) : Bool :=
  (Text.hexDigit? c).isSome

def numberTail (cursor : Cursor) : Option Cursor :=
  let afterPoint :=
    match cursor.rest with
    | '.' :: cs =>
      let (digits, rest) := takeDigits Char.isDigit cs
      cursor.past ('.' :: digits) rest
    | _ => cursor
  match afterPoint.rest with
  | e :: cs =>
    if e = 'e' || e = 'E' then
      let (sign, cs) := match cs with
        | '+' :: cs => (['+'], cs)
        | '-' :: cs => (['-'], cs)
        | cs => ([], cs)
      let (digits, rest) := takeDigits Char.isDigit cs
      if digits.isEmpty then none else some (afterPoint.past (e :: sign ++ digits) rest)
    else some afterPoint
  | [] => some afterPoint

-- A number must not run into a name or another digit.
def endNumber (token : Token) (cursor : Cursor) : Token × Cursor :=
  match cursor.rest with
  | c :: _ => if isNamePart c || c = '\\' then (.invalid, cursor) else (token, cursor)
  | [] => (token, cursor)

def endInteger (cursor : Cursor) : Token × Cursor :=
  match cursor.rest with
  | 'n' :: cs => endNumber .bigint (cursor.past ['n'] cs)
  | _ => endNumber .number cursor

def readNumber (cursor : Cursor) : Token × Cursor :=
  let based := fun (isDigit : Char → Bool) (lead cs : List Char) =>
    let (digits, rest) := takeDigits isDigit cs
    if digits.isEmpty then (Token.invalid, cursor) else endInteger (cursor.past (lead ++ digits) rest)
  match cursor.rest with
  | '0' :: x :: cs =>
    if x = 'x' || x = 'X' then based isHexDigit ['0', x] cs
    else if x = 'b' || x = 'B' then based (fun c => c = '0' || c = '1') ['0', x] cs
    else if x = 'o' || x = 'O' then based (fun c => (octalDigit? c).isSome) ['0', x] cs
    else decimal
  | _ => decimal
where
  decimal : Token × Cursor :=
    let (digits, rest) := takeDigits Char.isDigit cursor.rest
    let behind := cursor.past digits rest
    match rest with
    | 'n' :: _ => endInteger behind
    | _ =>
      match numberTail behind with
      | some behind => endNumber .number behind
      | none => (.invalid, behind)

-- The punctuators, longer ones before those that begin them.
def marks : List String :=
  [ "...", "===", "!==", "**=", "<<=", "&&=", "||=", "??=",
    "=>", "==", "!=", "<=", "<<", "**", "++", "--", "+=", "-=", "*=", "/=", "%=", "&=", "|=", "^=", "&&", "||",
    "??", "?.",
    "\x7b", "\x7d", "(", ")", "[", "]", ";", ",", "<", ">", "+", "-", "*", "/", "%", "&", "|", "^", "!", "~",
    "?", ":", "=", ".", "@" ]

def markTable : List (String × List Char) :=
  marks.map fun m => (m, m.toList)

-- Reads a punctuator. A question mark and a point before a digit are two.
def readMark (cursor : Cursor) : Token × Cursor :=
  let found := markTable.findSome? fun (m, cs) =>
    match Text.dropPrefix? cs cursor.rest with
    | none => none
    | some rest =>
      if m == "?." && rest.head?.any Char.isDigit then none else some (m, cursor.past cs rest)
  match found with
  | some (m, behind) => (.mark m, behind)
  | none => (.invalid, cursor)

def readToken (cursor : Cursor) : Token × Cursor :=
  match cursor.rest with
  | [] => (.eof, cursor)
  | c :: cs =>
    if isNameStart c || c = '\\' then readName .plain [] false cursor.offset (c :: cs)
    else if c = '"' || c = '\x27' then readString c .plain [] (cursor.offset + 1) cs
    else if c = '\x60' then readTemplate (cursor.offset + 1) cs
    else if c.isDigit then readNumber cursor
    else if c = '.' && cs.head?.any Char.isDigit then readNumber cursor
    else if c = '#' then
      match readName .plain [] false (cursor.offset + 1) cs with
      | (.name text, behind) | (.escapedName text, behind) => (.privateName text, behind)
      | (_, behind) => (.invalid, behind)
    else readMark cursor

structure Lexeme where
  token : Token
  span : Span
  newlineBefore : Bool
  start : Cursor
  behind : Cursor
  deriving Inhabited

def Cursor.next (cursor : Cursor) : Lexeme :=
  let gap := skipGap .code false cursor.offset cursor.rest
  let start := gap.cursor
  let (token, behind) := readToken start
  let token := if gap.unclosed then .invalid else token
  ⟨token, ⟨start.offset, behind.offset⟩, gap.newline, start, behind⟩

def Cursor.skipHashbang (cursor : Cursor) : Cursor :=
  match cursor.rest with
  | '#' :: '!' :: _ =>
    let (line, rest) := cursor.rest.span fun c => !isLineEnd c
    cursor.past line rest
  | _ => cursor

def readTagWord (cursor : Cursor) : Option (String × Cursor) :=
  match cursor.rest with
  | c :: _ =>
    if isNameStart c then
      let (word, rest) := cursor.rest.span fun c => isNamePart c || c = '-'
      some (String.ofList word, cursor.past word rest)
    else none
  | [] => none

def readRawString (cursor : Cursor) : Option (String × Cursor) :=
  match cursor.rest with
  | q :: cs =>
    if q = '"' || q = '\x27' then
      let (inside, rest) := cs.span (· != q)
      match rest with
      | _ :: rest => some (String.ofList inside, cursor.past (q :: inside ++ [q]) rest)
      | [] => none
    else none
  | [] => none

def takeMarkupText (cursor : Cursor) : List Char × Cursor :=
  let (text, rest) := cursor.rest.span fun c => !(c = '<' || c = '{' || c = '>' || c = '}')
  (text, cursor.past text rest)

def readRegex (cursor : Cursor) : Option Cursor :=
  match cursor.rest with
  | '/' :: cs =>
    (readRegexBody false (cursor.offset + 1) cs).map fun behind =>
      let (flags, rest) := behind.rest.span isNamePart
      behind.past flags rest
  | _ => none

end MarkerLint.Script
