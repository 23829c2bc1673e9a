import MarkerLint.Pattern.Expr
import MarkerLint.Text.Scan

-- Reading a regular expression. Groups and flags keep a stack, so the text is read once from the front.

namespace MarkerLint.Pattern

inductive PatternError where
  | unclosedGroup
  | unopenedGroup
  | unclosedClass
  | invalidRange
  | nothingToRepeat
  | invalidRepetition
  | unknownEscape
  | unfinishedEscape
  | invalidCodePoint
  | lookAround
  | backreference
  | invalidFlag
  | invalidGroupName
  | duplicateGroupName
  | beyondAscii
  | unknownProperty
  | stuck
  deriving DecidableEq, Inhabited, Repr

structure Flags where
  ignoreCase : Bool := false
  multiLine : Bool := false
  dotAll : Bool := false
  ignoreSpace : Bool := false
  crlf : Bool := false
  unicode : Bool := true
  deriving Inhabited, Repr

abbrev Read (α : Type) := α × List Char

def Flags.skipSpace (flags : Flags) (cs : List Char) : List Char :=
  if flags.ignoreSpace then go false cs else cs
where
  go (inComment : Bool) : List Char → List Char
    | [] => []
    | c :: cs =>
      if inComment then go (c != '\n') cs
      else if c = '#' then go true cs
      else if Text.isBlank c then go false cs
      else c :: cs

def Flags.adapt (flags : Flags) (set : CharSet) : CharSet :=
  if !flags.ignoreCase then set
  else if flags.unicode then .folded set
  else .asciiFolded set

def Flags.checked (flags : Flags) (set : CharSet) : Except PatternError CharSet :=
  if flags.unicode then .ok set
  else if set.exceedsAscii then .error .beyondAscii
  else .ok (.inter set (.range 0 127))

def Flags.literal (flags : Flags) (n : Nat) : Except PatternError Expr :=
  if !flags.unicode && n ≥ 128 then .error .beyondAscii
  else .ok (.chars (flags.adapt (.single n)))

inductive Escape where
  -- A character; `byte` tells that it was given by two digits.
  | literal (n : Nat) (byte : Bool)
  | set (s : CharSet)
  | assertion (a : Assertion)

def asciiDigits : CharSet := .range 0x30 0x39

def asciiWordChars : CharSet := .ofRanges [(0x30, 0x39), (0x41, 0x5a), (0x5f, 0x5f), (0x61, 0x7a)]

def asciiBlanks : CharSet := .ofRanges [(0x9, 0xd), (0x20, 0x20)]

-- A code point in hexadecimal: a fixed number of digits, or any number of them in braces.
def readHex (flags : Flags) (digits : Nat) : List Char → Except PatternError (Read Nat)
  | '{' :: cs =>
    let cs := flags.skipSpace cs
    let (inside, rest) := cs.span (· != '}')
    match rest with
    | [] => .error .unfinishedEscape
    | _ :: rest =>
      let inside := if flags.ignoreSpace then inside.filter (!Text.isBlank ·) else inside
      if inside.isEmpty then .error .invalidCodePoint
      else
        match (Text.hexValue? inside).bind Text.char? with
        | some c => .ok (c.toNat, rest)
        | none => .error .invalidCodePoint
  | cs =>
    match Text.takeExactly? digits cs with
    | none => .error .unfinishedEscape
    | some (taken, rest) =>
      match (Text.hexValue? taken).bind Text.char? with
      | some c => .ok (c.toNat, rest)
      | none => .error .invalidCodePoint

-- A word boundary, with a kind of boundary in braces if letters follow the opening brace.
def readBoundary (ascii : Bool) (cs : List Char) : Except PatternError (Read Escape) :=
  let isNameChar := fun (c : Char) => c.isAlpha || c = '-'
  match cs with
  | '{' :: inside =>
    match inside with
    | [] => .error .unfinishedEscape
    | c :: _ =>
      if isNameChar c then
        let (name, rest) := inside.span isNameChar
        match rest with
        | '}' :: rest =>
          match String.ofList name with
          | "start" => .ok (.assertion (.wordStart ascii), rest)
          | "end" => .ok (.assertion (.wordEnd ascii), rest)
          | "start-half" => .ok (.assertion (.wordStartHalf ascii), rest)
          | "end-half" => .ok (.assertion (.wordEndHalf ascii), rest)
          | _ => .error .unknownEscape
        | _ => .error .unknownEscape
      else
        .ok (.assertion (.wordBoundary ascii), cs)
  | _ => .ok (.assertion (.wordBoundary ascii), cs)

def readEscape (flags : Flags) : List Char → Except PatternError (Read Escape)
  | [] => .error .unfinishedEscape
  | c :: cs =>
    let ascii := !flags.unicode
    let negated := fun (s : CharSet) => CharSet.compl s
    let digit := if ascii then asciiDigits else CharSet.digits
    let blank := if ascii then asciiBlanks else CharSet.blanks
    let word := if ascii then asciiWordChars else CharSet.wordChars
    match c with
    | 'x' => do
      let (n, rest) ← readHex flags 2 cs
      .ok (.literal n (cs.head? != some '{'), rest)
    | 'u' => do
      let (n, rest) ← readHex flags 4 cs
      .ok (.literal n false, rest)
    | 'U' => do
      let (n, rest) ← readHex flags 8 cs
      .ok (.literal n false, rest)
    | 'p' | 'P' => .error .unknownProperty
    | 'd' => .ok (.set digit, cs)
    | 'D' => .ok (.set (negated digit), cs)
    | 's' => .ok (.set blank, cs)
    | 'S' => .ok (.set (negated blank), cs)
    | 'w' => .ok (.set word, cs)
    | 'W' => .ok (.set (negated word), cs)
    | 'a' => .ok (.literal 0x7 false, cs)
    | 'f' => .ok (.literal 0xc false, cs)
    | 't' => .ok (.literal 0x9 false, cs)
    | 'n' => .ok (.literal 0xa false, cs)
    | 'r' => .ok (.literal 0xd false, cs)
    | 'v' => .ok (.literal 0xb false, cs)
    | 'A' => .ok (.assertion .startOfText, cs)
    | 'z' => .ok (.assertion .endOfText, cs)
    | 'b' => readBoundary ascii cs
    | 'B' => .ok (.assertion (.notWordBoundary ascii), cs)
    | '<' => .ok (.assertion (.wordStart ascii), cs)
    | '>' => .ok (.assertion (.wordEnd ascii), cs)
    | _ =>
      if c.isDigit then .error .backreference
      else if c.val < 128 && !c.isAlpha then .ok (.literal c.toNat false, cs)
      else .error .unknownEscape

def namedClass? : String → Option CharSet
  | "alnum" => some (.ofRanges [(0x30, 0x39), (0x41, 0x5a), (0x61, 0x7a)])
  | "alpha" => some (.ofRanges [(0x41, 0x5a), (0x61, 0x7a)])
  | "ascii" => some (.range 0 0x7f)
  | "blank" => some (.ofRanges [(0x9, 0x9), (0x20, 0x20)])
  | "cntrl" => some (.ofRanges [(0, 0x1f), (0x7f, 0x7f)])
  | "digit" => some asciiDigits
  | "graph" => some (.range 0x21 0x7e)
  | "lower" => some (.range 0x61 0x7a)
  | "print" => some (.range 0x20 0x7e)
  | "punct" => some (.ofRanges [(0x21, 0x2f), (0x3a, 0x40), (0x5b, 0x60), (0x7b, 0x7e)])
  | "space" => some asciiBlanks
  | "upper" => some (.range 0x41 0x5a)
  | "word" => some asciiWordChars
  | "xdigit" => some (.ofRanges [(0x30, 0x39), (0x41, 0x46), (0x61, 0x66)])
  | _ => none

def readNamedClass? : List Char → Option (CharSet × List Char)
  | ':' :: cs =>
    let (negated, cs) := match cs with
      | '^' :: cs => (true, cs)
      | cs => (false, cs)
    let (name, rest) := cs.span (· != ':')
    match rest with
    | ':' :: ']' :: rest =>
      (namedClass? (String.ofList name)).map fun s => (if negated then .compl s else s, rest)
    | _ => none
  | _ => none

inductive SetOp where
  | inter
  | diff
  | symmDiff

def SetOp.apply : SetOp → CharSet → CharSet → CharSet
  | inter => .inter
  | diff => .diff
  | symmDiff => .symmDiff

structure OpenClass where
  negated : Bool
  left : Option (CharSet × SetOp) := none
  operand : CharSet := .empty

namespace OpenClass

def add (c : OpenClass) (s : CharSet) : OpenClass :=
  { c with operand := .union c.operand s }

def joined (c : OpenClass) : CharSet :=
  match c.left with
  | none => c.operand
  | some (left, op) => op.apply left c.operand

def operator (c : OpenClass) (op : SetOp) : OpenClass :=
  { c with left := some (c.joined, op), operand := .empty }

def close (c : OpenClass) : CharSet :=
  if c.negated then .compl c.joined else c.joined

end OpenClass

-- Opens a class behind its bracket. Leading hyphens, and then a bracket right at the front, are literal.
def openClass (flags : Flags) (cs : List Char) : Except PatternError (OpenClass × List Char) :=
  let (negated, cs) := match flags.skipSpace cs with
    | '^' :: cs => (true, flags.skipSpace cs)
    | cs => (false, cs)
  let (hyphens, cs) := cs.span (· == '-')
  let cs := flags.skipSpace cs
  let base : OpenClass := { negated }
  let base := if hyphens.isEmpty then base else base.add (flags.adapt (.single '-'.toNat))
  match cs with
  | [] => .error .unclosedClass
  | ']' :: rest =>
    if hyphens.isEmpty then .ok (base.add (flags.adapt (.single ']'.toNat)), rest) else .ok (base, cs)
  | _ => .ok (base, cs)

def readClassItem (flags : Flags) : List Char → Except PatternError (Read Escape)
  | [] => .error .unclosedClass
  | '\\' :: cs => readEscape flags cs
  | c :: cs => .ok (.literal c.toNat false, cs)

-- A character of a class. Without Unicode it must be ASCII or a byte given by its digits.
def classLiteral (flags : Flags) : Escape → Except PatternError Nat
  | .literal n byte => if !flags.unicode && n ≥ 128 && !byte then .error .beyondAscii else .ok n
  | .set _ | .assertion _ => .error .invalidRange

def readClassRange (flags : Flags) (cs : List Char) : Except PatternError (Read CharSet) := do
  let (first, rest) ← readClassItem flags cs
  let rest := flags.skipSpace rest
  let alone : Except PatternError (Read CharSet) :=
    match first with
    | .set s => .ok (s, rest)
    | .assertion _ => .error .unknownEscape
    | .literal .. => do .ok (.single (← classLiteral flags first), rest)
  match rest with
  | [] => .error .unclosedClass
  | '-' :: behind =>
    match flags.skipSpace behind with
    | [] => .error .unclosedClass
    | ']' :: _ | '-' :: _ => alone
    | behind => do
      let (second, rest) ← readClassItem flags behind
      let low ← classLiteral flags first
      let high ← classLiteral flags second
      if low ≤ high then .ok (.range low high, rest) else .error .invalidRange
  | _ => alone

def classStep (flags : Flags) (stack : OpenClass × List OpenClass) (cs : List Char) :
    Except PatternError (Text.ScanStep (OpenClass × List OpenClass) CharSet) :=
  let (inner, outer) := stack
  let item : Except PatternError (Text.ScanStep (OpenClass × List OpenClass) CharSet) := do
    let (s, rest) ← readClassRange flags (flags.skipSpace cs)
    .ok (.more (inner.add (flags.adapt s), outer) rest)
  match flags.skipSpace cs with
  | [] => .error .unclosedClass
  | '[' :: rest =>
    match readNamedClass? rest with
    | some (s, rest) => .ok (.more (inner.add (flags.adapt s), outer) rest)
    | none => do
      let (nested, rest) ← openClass flags rest
      .ok (.more (nested, inner :: outer) rest)
  | ']' :: rest =>
    match outer with
    | [] => .ok (.done inner.close rest)
    | parent :: outer => .ok (.more (parent.add inner.close, outer) rest)
  | '&' :: '&' :: rest => .ok (.more (inner.operator .inter, outer) rest)
  | '-' :: '-' :: rest => .ok (.more (inner.operator .diff, outer) rest)
  | '~' :: '~' :: rest => .ok (.more (inner.operator .symmDiff, outer) rest)
  | _ => item

def readClass (flags : Flags) (cs : List Char) : Except PatternError (Read Expr) := do
  let (first, rest) ← openClass flags cs
  let (set, rest) ← Text.scan .stuck (classStep flags) (first, []) rest
  .ok (.chars (← flags.checked set), rest)

def Flags.set? (flags : Flags) (on : Bool) : Char → Option Flags
  | 'i' => some { flags with ignoreCase := on }
  | 'm' => some { flags with multiLine := on }
  | 's' => some { flags with dotAll := on }
  | 'x' => some { flags with ignoreSpace := on }
  | 'R' => some { flags with crlf := on }
  | 'u' => some { flags with unicode := on }
  -- Swapping greed changes which match is found, and never whether there is one.
  | 'U' => some flags
  | _ => none

-- Reads flags up to a colon or a closing bracket. A letter, or a minus, must not come twice.
def readFlags (flags : Flags) (seen : List Char) : List Char → Except PatternError (Read (Flags × List Char))
  | [] => .error .invalidFlag
  | c :: cs =>
    if c = ':' || c = ')' then
      if seen.head? = some '-' then .error .invalidFlag else .ok ((flags, seen), c :: cs)
    else if seen.contains c then .error .invalidFlag
    else if c = '-' then readFlags flags (c :: seen) cs
    else
      match flags.set? (!seen.contains '-') c with
      | some flags => readFlags flags (c :: seen) cs
      | none => .error .invalidFlag

structure OpenGroup where
  flags : Flags
  branches : List Expr
  -- The items before the group, last one first. A flag setting is an item that cannot be repeated.
  items : List (Option Expr)

structure Reading where
  flags : Flags := {}
  branches : List Expr := []
  items : List (Option Expr) := []
  groups : List OpenGroup := []
  names : List String := []

namespace Reading

def push (r : Reading) (e : Expr) : Reading :=
  { r with items := some e :: r.items }

def branch (items : List (Option Expr)) : Expr :=
  match items.filterMap id with
  | [] => .empty
  | last :: before => before.foldl (fun acc e => .seq e acc) last

def alternatives (r : Reading) : Expr :=
  r.branches.foldl (fun acc e => .alt e acc) (branch r.items)

def bar (r : Reading) : Reading :=
  { r with branches := branch r.items :: r.branches, items := [] }

def openGroup (r : Reading) (flags : Flags) : Reading :=
  { r with flags, branches := [], items := [], groups := ⟨r.flags, r.branches, r.items⟩ :: r.groups }

def repeatLast (r : Reading) (low : Nat) (high : Option Nat) : Except PatternError Reading :=
  match r.items with
  | some e :: items => .ok { r with items := some (.repetition e low high) :: items }
  | _ => .error .nothingToRepeat

end Reading

def readGroupName (cs : List Char) : Except PatternError (Read String) :=
  let (name, rest) := cs.span (· != '>')
  match name, rest with
  | first :: others, _ :: rest =>
    let isLetter := fun (c : Char) => Text.isWordChar c && !Text.isDecimalDigit c
    if isLetter first && others.all fun c => Text.isWordChar c || c = '.' || c = '[' || c = ']' then
      .ok (String.ofList name, rest)
    else
      .error .invalidGroupName
  | _, _ => .error .invalidGroupName

def readGroup (r : Reading) (cs : List Char) : Except PatternError (Read Reading) :=
  let named := fun (cs : List Char) => do
    let (name, rest) ← readGroupName cs
    if r.names.contains name then .error PatternError.duplicateGroupName
    else .ok ({ r.openGroup r.flags with names := name :: r.names }, rest)
  match r.flags.skipSpace cs with
  | '?' :: '=' :: _ | '?' :: '!' :: _ | '?' :: '<' :: '=' :: _ | '?' :: '<' :: '!' :: _ => .error .lookAround
  | '?' :: 'P' :: '<' :: cs => named cs
  | '?' :: '<' :: cs => named cs
  | '?' :: cs => do
    let ((flags, seen), rest) ← readFlags r.flags [] cs
    match rest with
    | ':' :: rest => .ok (r.openGroup flags, rest)
    | rest =>
      if seen.isEmpty then .error .nothingToRepeat
      else .ok ({ r with flags, items := none :: r.items }, rest.drop 1)
  | cs => .ok (r.openGroup r.flags, cs)

def closeGroup (r : Reading) : Except PatternError Reading :=
  match r.groups with
  | [] => .error .unopenedGroup
  | g :: groups =>
    .ok { r with flags := g.flags, branches := g.branches, items := some r.alternatives :: g.items, groups }

def countLimit : Nat := 4294967295

def readCount (cs : List Char) : Except PatternError (Read Nat) :=
  let (digits, rest) := (cs.dropWhile Text.isBlank).span Char.isDigit
  if digits.isEmpty || countLimit < Text.decimalValue digits then .error .invalidRepetition
  else .ok (Text.decimalValue digits, rest.dropWhile Text.isBlank)

-- A question mark behind a repetition makes it lazy, which does not change whether there is a match.
def skipLazy : List Char → List Char
  | '?' :: cs => cs
  | cs => cs

def readBounds (flags : Flags) (cs : List Char) : Except PatternError (Read (Nat × Option Nat)) := do
  let (low, rest) ← readCount (flags.skipSpace cs)
  match rest with
  | '}' :: rest => .ok ((low, some low), skipLazy (flags.skipSpace rest))
  | ',' :: rest =>
    match flags.skipSpace rest with
    | '}' :: rest => .ok ((low, none), skipLazy (flags.skipSpace rest))
    | rest => do
      let (high, rest) ← readCount rest
      match rest with
      | '}' :: rest =>
        if low ≤ high then .ok ((low, some high), skipLazy (flags.skipSpace rest)) else .error .invalidRepetition
      | _ => .error .invalidRepetition
  | _ => .error .invalidRepetition

def Flags.dot (flags : Flags) : Except PatternError Expr :=
  let all := CharSet.range 0 0x10ffff
  let set :=
    if flags.dotAll then all
    else if flags.crlf then .diff all (.ofRanges [(0xa, 0xa), (0xd, 0xd)])
    else .diff all (.single 0xa)
  do .ok (.chars (← flags.checked set))

def readStep (r : Reading) (cs : List Char) : Except PatternError (Text.ScanStep Reading Expr) :=
  let more := fun (r : Reading) (rest : List Char) => Except.ok (Text.ScanStep.more (α := Expr) r rest)
  match r.flags.skipSpace cs with
  | [] => if r.groups.isEmpty then .ok (.done r.alternatives []) else .error .unclosedGroup
  | '(' :: cs => do
    let (r, rest) ← readGroup r cs
    more r rest
  | ')' :: cs => do more (← closeGroup r) cs
  | '|' :: cs => more r.bar cs
  | '[' :: cs => do
    let (e, rest) ← readClass r.flags cs
    more (r.push e) rest
  | '?' :: cs => do more (← r.repeatLast 0 (some 1)) (skipLazy cs)
  | '*' :: cs => do more (← r.repeatLast 0 none) (skipLazy cs)
  | '+' :: cs => do more (← r.repeatLast 1 none) (skipLazy cs)
  | '{' :: cs => do
    let _ ← r.repeatLast 0 none
    let ((low, high), rest) ← readBounds r.flags cs
    more (← r.repeatLast low high) rest
  | '.' :: cs => do more (r.push (← r.flags.dot)) cs
  | '^' :: cs =>
    more (r.push (.assertion (if r.flags.multiLine then .startOfLine r.flags.crlf else .startOfText))) cs
  | '$' :: cs =>
    more (r.push (.assertion (if r.flags.multiLine then .endOfLine r.flags.crlf else .endOfText))) cs
  | '\\' :: cs => do
    let (e, rest) ← readEscape r.flags cs
    match e with
    | .literal n _ => more (r.push (← r.flags.literal n)) rest
    | .set s => more (r.push (.chars (← r.flags.checked s))) rest
    | .assertion a => more (r.push (.assertion a)) rest
  | c :: cs => do more (r.push (← r.flags.literal c.toNat)) cs

def ofText (text : List Char) : Except PatternError Expr := do
  let (e, _) ← Text.scan .stuck readStep {} text
  pure e

-- Turns the text of a pattern into a test of texts, or refuses it. Which patterns there are is up to the engine.
abbrev Engine := List Char → Except PatternError (List Char → Bool)

-- The engine of this library. It has no classes by property, and no bound on the size of a pattern.
def standard : Engine := fun text => (ofText text).map Expr.isMatch

end MarkerLint.Pattern
