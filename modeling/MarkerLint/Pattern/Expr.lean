import MarkerLint.Text.CaseFold
import MarkerLint.Text.WordChars

-- Regular expressions over characters, and what they match. An expression means, for every place in a text, the
-- places where a match that begins there can end. Whether a repetition is greedy does not matter to whether there
-- is a match, so it is not recorded.

namespace MarkerLint.Pattern

inductive CharSet where
  | range (low high : Nat)
  | digits
  | blanks
  | wordChars
  | empty
  | union (a b : CharSet)
  | inter (a b : CharSet)
  | diff (a b : CharSet)
  | compl (a : CharSet)
  | folded (a : CharSet)
  | asciiFolded (a : CharSet)
  deriving Inhabited, Repr

namespace CharSet

def single (n : Nat) : CharSet :=
  range n n

def ofRanges (ranges : List (Nat × Nat)) : CharSet :=
  ranges.foldr (fun r s => union (range r.1 r.2) s) empty

def symmDiff (a b : CharSet) : CharSet :=
  union (diff a b) (diff b a)

def contains : CharSet → Nat → Bool
  | range low high, n => low ≤ n && n ≤ high
  | digits, n => Text.isDecimalDigit (Char.ofNat n)
  | blanks, n => Text.isBlank (Char.ofNat n)
  | wordChars, n => Text.isWordChar (Char.ofNat n)
  | empty, _ => false
  | union a b, n => a.contains n || b.contains n
  | inter a b, n => a.contains n && b.contains n
  | diff a b, n => a.contains n && !b.contains n
  | compl a, n => !a.contains n
  | folded a, n => (Text.CaseFold.variants n).any a.contains
  | asciiFolded a, n =>
    a.contains n || ((Char.ofNat n).isUpper && a.contains (n + 32)) || ((Char.ofNat n).isLower && a.contains (n - 32))

def exceedsAscii (s : CharSet) : Bool :=
  (List.range 128).any fun k => s.contains (128 + k)

end CharSet

inductive Assertion where
  | startOfText
  | endOfText
  -- At the start of the text or behind a line feed; a carriage return counts too if `crlf` is set.
  | startOfLine (crlf : Bool)
  | endOfLine (crlf : Bool)
  | wordBoundary (ascii : Bool)
  | notWordBoundary (ascii : Bool)
  | wordStart (ascii : Bool)
  | wordEnd (ascii : Bool)
  | wordStartHalf (ascii : Bool)
  | wordEndHalf (ascii : Bool)
  deriving Inhabited, Repr

inductive Expr where
  | empty
  | chars (set : CharSet)
  | assertion (a : Assertion)
  | seq (a b : Expr)
  | alt (a b : Expr)
  | repetition (e : Expr) (low : Nat) (high : Option Nat)
  deriving Inhabited, Repr

namespace Assertion

-- A character of a word, by Unicode or by ASCII. There is none beyond the ends of the text.
def isWord (ascii : Bool) : Option Char → Bool
  | none => false
  | some c => if ascii then c.isAlphanum || c = '_' else Text.isWordChar c

def holds (before after : Option Char) : Assertion → Bool
  | startOfText => before.isNone
  | endOfText => after.isNone
  | startOfLine crlf =>
    match before with
    | none => true
    | some c => c = '\n' || (crlf && c = '\r' && after != some '\n')
  | endOfLine crlf =>
    match after with
    | none => true
    | some c => if crlf then c = '\r' || (c = '\n' && before != some '\r') else c = '\n'
  | wordBoundary ascii => isWord ascii before != isWord ascii after
  | notWordBoundary ascii => isWord ascii before == isWord ascii after
  | wordStart ascii => !isWord ascii before && isWord ascii after
  | wordEnd ascii => isWord ascii before && !isWord ascii after
  | wordStartHalf ascii => !isWord ascii before
  | wordEndHalf ascii => !isWord ascii after

end Assertion

def addPlaces (seen new : List Nat) : List Nat :=
  new.foldl (fun acc i => if acc.contains i then acc else acc ++ [i]) seen

def stepPlaces (step : Nat → List Nat) (places : List Nat) : List Nat :=
  addPlaces [] (places.flatMap step)

def exactly (step : Nat → List Nat) : Nat → List Nat → List Nat
  | 0, places => places
  | n + 1, places => exactly step n (stepPlaces step places)

def atMost (step : Nat → List Nat) : Nat → List Nat → List Nat
  | 0, places => places
  | n + 1, places => atMost step n (addPlaces places (stepPlaces step places))

def before? (text : Array Char) : Nat → Option Char
  | 0 => none
  | i + 1 => text[i]?

namespace Expr

-- The places where a match that begins at a place can end. No more than the number of places in the text steps are
-- ever needed: further ones reach nothing new, or nothing at all.
def ends (text : Array Char) : Expr → Nat → List Nat
  | empty, i => [i]
  | chars set, i =>
    match text[i]? with
    | some c => if set.contains c.toNat then [i + 1] else []
    | none => []
  | assertion a, i => if a.holds (before? text i) text[i]? then [i] else []
  | seq a b, i => stepPlaces (ends text b) (ends text a i)
  | alt a b, i => addPlaces (ends text a i) (ends text b i)
  | repetition e low high, i =>
    let places := text.size + 2
    let more :=
      match high with
      | some high => min (high - low) places
      | none => places
    atMost (ends text e) more (exactly (ends text e) (min low places) [i])

def isMatch (e : Expr) (text : List Char) : Bool :=
  let text := text.toArray
  (List.range (text.size + 1)).any fun i => !(ends text e i).isEmpty

def isFullMatch (e : Expr) (text : List Char) : Bool :=
  let text := text.toArray
  (ends text e 0).contains text.size

def literal (c : Char) : Expr :=
  chars (.single c.toNat)

def sequence (es : List Expr) : Expr :=
  es.foldr seq empty

def star (e : Expr) : Expr :=
  repetition e 0 none

end Expr
end MarkerLint.Pattern
