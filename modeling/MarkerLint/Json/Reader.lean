import MarkerLint.Text.Bytes
import MarkerLint.Text.Scan

-- Reading JSON text piece by piece. A reader takes a piece off the front of the text and fails at the first thing
-- that is wrong: the text ends too early, it is no JSON, or a value is of the wrong type.

namespace MarkerLint.Json

inductive ReadError where
  | truncated
  | malformed
  | mismatch
  deriving DecidableEq, Inhabited, Repr

abbrev Read (α : Type) := α × List Char

def isBlank (c : Char) : Bool :=
  c = ' ' || c = '\n' || c = '\t' || c = '\r'

def skipBlanks (cs : List Char) : List Char :=
  cs.dropWhile isBlank

def readHex4 (cs : List Char) : Except ReadError (Read Nat) :=
  if Text.bytes cs < 4 then .error .truncated
  else
    match Text.takeExactly? 4 cs with
    | none => .error .malformed
    | some (digits, rest) =>
      match Text.hexValue? digits with
      | some n => .ok (n, rest)
      | none => .error .malformed

-- A character from behind `\u`. One outside the basic plane is written as two surrogates.
def readUnicode (cs : List Char) : Except ReadError (Read Char) := do
  let (n, rest) ← readHex4 cs
  if 0xdc00 ≤ n ∧ n ≤ 0xdfff then
    .error .malformed
  else if 0xd800 ≤ n ∧ n ≤ 0xdbff then
    match rest with
    | [] => .error .truncated
    | ['\\'] => .error .truncated
    | '\\' :: 'u' :: rest => do
      let (m, rest) ← readHex4 rest
      if 0xdc00 ≤ m ∧ m ≤ 0xdfff then
        .ok (Char.ofNat (0x10000 + (n - 0xd800) * 0x400 + (m - 0xdc00)), rest)
      else
        .error .malformed
    | _ => .error .malformed
  else
    .ok (Char.ofNat n, rest)

def shortEscape? : Char → Option Char
  | '"' => some '"'
  | '\\' => some '\\'
  | '/' => some '/'
  | 'b' => some '\x08'
  | 'f' => some '\x0c'
  | 'n' => some '\n'
  | 'r' => some '\r'
  | 't' => some '\t'
  | _ => none

def stringStep (read : List Char) : List Char → Except ReadError (Text.ScanStep (List Char) String)
  | [] => .error .truncated
  | '"' :: rest => .ok (.done (String.ofList read.reverse) rest)
  | ['\\'] => .error .truncated
  | '\\' :: 'u' :: rest => do
    let (c, rest) ← readUnicode rest
    .ok (.more (c :: read) rest)
  | '\\' :: e :: rest =>
    match shortEscape? e with
    | some c => .ok (.more (c :: read) rest)
    | none => .error .malformed
  | c :: rest => if c.toNat < 0x20 then .error .malformed else .ok (.more (c :: read) rest)

def readString (cs : List Char) : Except ReadError (Read String) :=
  Text.scan .malformed stringStep [] cs

-- One step over a string that is not needed: its escapes must be in form, but not stand for anything.
def skipStringStep (_ : Unit) : List Char → Except ReadError (Text.ScanStep Unit Unit)
  | [] => .error .truncated
  | '"' :: rest => .ok (.done () rest)
  | ['\\'] => .error .truncated
  | '\\' :: 'u' :: rest => do
    let (_, rest) ← readHex4 rest
    .ok (.more () rest)
  | '\\' :: e :: rest => if (shortEscape? e).isSome then .ok (.more () rest) else .error .malformed
  | c :: rest => if c.toNat < 0x20 then .error .malformed else .ok (.more () rest)

def skipString (cs : List Char) : Except ReadError (List Char) := do
  let (_, rest) ← Text.scan .malformed skipStringStep () cs
  .ok rest

def readWord : List Char → List Char → Except ReadError (List Char)
  | [], cs => .ok cs
  | _ :: _, [] => .error .truncated
  | p :: ps, c :: cs => if p = c then readWord ps cs else .error .malformed

structure NumberText where
  digits : List Char
  places : Nat
  negativeExponent : Bool
  exponent : Nat

-- The digits that begin here, at least one. `early` is what is wrong with a text that ends before them: in a value
-- that is not needed that counts as malformed.
def readDigits (early : ReadError) (cs : List Char) : Except ReadError (Read (List Char)) :=
  let (digits, rest) := cs.span Char.isDigit
  if digits.isEmpty then .error (if rest.isEmpty then early else .malformed) else .ok (digits, rest)

-- The digits before the point. Only the number zero begins with a zero.
def readWhole (early : ReadError) : List Char → Except ReadError (Read (List Char))
  | '0' :: rest => if rest.head?.any Char.isDigit then .error .malformed else .ok (['0'], rest)
  | cs => readDigits early cs

def readFraction (early : ReadError) : List Char → Except ReadError (Read (List Char))
  | '.' :: rest => readDigits early rest
  | cs => .ok ([], cs)

def readSign : List Char → Read Bool
  | '-' :: rest => (true, rest)
  | '+' :: rest => (false, rest)
  | cs => (false, cs)

def readExponent (early : ReadError) : List Char → Except ReadError (Read (Bool × Nat))
  | [] => .ok ((false, 0), [])
  | e :: rest =>
    if e = 'e' || e = 'E' then do
      let (digits, rest') ← readDigits early (readSign rest).2
      .ok (((readSign rest).1, Text.decimalValue digits), rest')
    else
      .ok ((false, 0), e :: rest)

def readNumber (early : ReadError) (cs : List Char) : Except ReadError (Read NumberText) := do
  let (whole, rest) ← readWhole early cs
  let (fraction, rest) ← readFraction early rest
  let ((negative, exponent), rest) ← readExponent early rest
  .ok (⟨whole ++ fraction, fraction.length, negative, exponent⟩, rest)

-- The number is too large for a double.
def NumberText.overflows (n : NumberText) : Bool :=
  let value := Text.decimalValue n.digits
  let low := n.places + if n.negativeExponent then n.exponent else 0
  let high := if n.negativeExponent then 0 else n.exponent
  if value = 0 then false
  else if n.digits.length + high < low + 300 then false
  else if low + 700 + n.digits.length < high then true
  else Nat.pow 2 1024 - Nat.pow 2 970 ≤ value * Nat.pow 10 (high - low) / Nat.pow 10 (low - high)

-- Explains why no value of some type begins here: a well-formed scalar, or a bracket, is of another type, and
-- anything else is an error of its own.
def mismatchAt (cs : List Char) : ReadError :=
  let ofWord := fun (word : String) (rest : List Char) =>
    match readWord word.toList rest with
    | .ok _ => .mismatch
    | .error e => e
  let ofNumber := fun (rest : List Char) =>
    match readNumber .truncated rest with
    | .ok (n, _) => if n.overflows then ReadError.malformed else .mismatch
    | .error e => e
  match cs with
  | [] => .truncated
  | 'n' :: rest => ofWord "ull" rest
  | 't' :: rest => ofWord "rue" rest
  | 'f' :: rest => ofWord "alse" rest
  | '-' :: rest => ofNumber rest
  | '"' :: rest =>
    match readString rest with
    | .ok _ => .mismatch
    | .error e => e
  | '[' :: _ | '{' :: _ => .mismatch
  | c :: rest => if c.isDigit then ofNumber (c :: rest) else .malformed

def readStringValue (cs : List Char) : Except ReadError (Read String) :=
  match skipBlanks cs with
  | '"' :: rest => readString rest
  | cs => .error (mismatchAt cs)

def readOptionalString (cs : List Char) : Except ReadError (Read (Option String)) :=
  match skipBlanks cs with
  | 'n' :: rest => do .ok (none, ← readWord "ull".toList rest)
  | cs => do
    let (s, rest) ← readStringValue cs
    .ok (some s, rest)

-- Whether another element of an array follows; the first one has no comma before it.
def nextElement (first : Bool) (cs : List Char) : Except ReadError (Read Bool) :=
  match skipBlanks cs with
  | [] => .error .truncated
  | ']' :: rest => .ok (false, ']' :: rest)
  | c :: rest =>
    if first then .ok (true, c :: rest)
    else if c = ',' then
      match skipBlanks rest with
      | [] => .error .truncated
      | ']' :: _ => .error .malformed
      | rest => .ok (true, rest)
    else .error .malformed

def endArray (cs : List Char) : Except ReadError (List Char) :=
  match skipBlanks cs with
  | ']' :: rest => .ok rest
  | [] => .error .truncated
  | _ => .error .malformed

-- Whether another member of an object follows; its opening quote is taken off.
def nextMember (first : Bool) (cs : List Char) : Except ReadError (Read Bool) :=
  match skipBlanks cs with
  | [] => .error .truncated
  | '}' :: rest => .ok (false, rest)
  | c :: rest =>
    if first then
      if c = '"' then .ok (true, rest) else .error .malformed
    else if c = ',' then
      match skipBlanks rest with
      | [] => .error .truncated
      | '"' :: rest => .ok (true, rest)
      | _ => .error .malformed
    else .error .malformed

def readColon (cs : List Char) : Except ReadError (List Char) :=
  match skipBlanks cs with
  | ':' :: rest => .ok rest
  | [] => .error .truncated
  | _ => .error .malformed

def stringsStep (read : List String × Bool) (cs : List Char) :
    Except ReadError (Text.ScanStep (List String × Bool) (List String)) := do
  let (more, rest) ← nextElement read.2 cs
  if more then
    let (s, rest) ← readStringValue rest
    .ok (.more (s :: read.1, false) rest)
  else
    .ok (.done read.1.reverse (← endArray rest))

def readStrings (cs : List Char) : Except ReadError (Read (List String)) :=
  match skipBlanks cs with
  | '[' :: rest => Text.scan .malformed stringsStep ([], true) rest
  | cs => .error (mismatchAt cs)

inductive Bracket where
  | array
  | object

def enterItem (bracket : Bracket) (cs : List Char) : Except ReadError (List Char) :=
  match bracket with
  | .array => .ok cs
  | .object =>
    match skipBlanks cs with
    | '"' :: rest => do readColon (← skipString rest)
    | [] => .error .truncated
    | _ => .error .malformed

-- Goes on behind a value: closes brackets, or enters the next item of the innermost one.
def afterItem : List Bracket → List Char → Except ReadError (Text.ScanStep (List Bracket) Unit)
  | [], cs => .ok (.done () cs)
  | bracket :: outer, cs =>
    match bracket, skipBlanks cs with
    | _, [] => .error .truncated
    | bracket, ',' :: rest => do .ok (.more (bracket :: outer) (← enterItem bracket rest))
    | .array, ']' :: rest => afterItem outer rest
    | .object, '}' :: rest => afterItem outer rest
    | _, _ => .error .malformed

def afterOpening (bracket : Bracket) (outer : List Bracket) (cs : List Char) :
    Except ReadError (Text.ScanStep (List Bracket) Unit) :=
  match bracket, skipBlanks cs with
  | _, [] => .error .truncated
  | .array, ']' :: rest => afterItem outer rest
  | .object, '}' :: rest => afterItem outer rest
  | bracket, rest => do .ok (.more (bracket :: outer) (← enterItem bracket rest))

def skipStep (brackets : List Bracket) (cs : List Char) :
    Except ReadError (Text.ScanStep (List Bracket) Unit) :=
  match skipBlanks cs with
  | [] => .error .truncated
  | 'n' :: rest => do afterItem brackets (← readWord "ull".toList rest)
  | 't' :: rest => do afterItem brackets (← readWord "rue".toList rest)
  | 'f' :: rest => do afterItem brackets (← readWord "alse".toList rest)
  | '"' :: rest => do afterItem brackets (← skipString rest)
  | '-' :: rest => do
    let (_, rest) ← readNumber .malformed rest
    afterItem brackets rest
  | '[' :: rest => afterOpening .array brackets rest
  | '{' :: rest => afterOpening .object brackets rest
  | c :: rest =>
    if c.isDigit then do
      let (_, rest) ← readNumber .malformed (c :: rest)
      afterItem brackets rest
    else
      .error .malformed

def skipValue (cs : List Char) : Except ReadError (List Char) := do
  let (_, rest) ← Text.scan .malformed skipStep [] cs
  .ok rest

end MarkerLint.Json
