
namespace MarkerLint.Text

inductive ScanStep (σ α : Type) where
  | more (state : σ) (rest : List Char)
  | done (result : α) (rest : List Char)

-- Repeats a step until it is done. A step that takes nothing off and is not done is `stuck`.
def scan {σ α ε : Type} (stuck : ε) (step : σ → List Char → Except ε (ScanStep σ α)) (state : σ)
    (text : List Char) : Except ε (α × List Char) :=
  match step state text with
  | .error e => .error e
  | .ok (.done result rest) => .ok (result, rest)
  | .ok (.more state rest) => if rest.length < text.length then scan stuck step state rest else .error stuck
termination_by text.length

def hexDigit? (c : Char) : Option Nat :=
  if c.isDigit then some (c.toNat - '0'.toNat)
  else if 'a' ≤ c ∧ c ≤ 'f' then some (c.toNat - 'a'.toNat + 10)
  else if 'A' ≤ c ∧ c ≤ 'F' then some (c.toNat - 'A'.toNat + 10)
  else none

def hexValue? (cs : List Char) : Option Nat :=
  cs.foldlM (fun acc c => (hexDigit? c).map (acc * 16 + ·)) 0

def decimalValue (cs : List Char) : Nat :=
  cs.foldl (fun acc c => acc * 10 + (c.toNat - '0'.toNat)) 0

def takeExactly? : Nat → List Char → Option (List Char × List Char)
  | 0, cs => some ([], cs)
  | _ + 1, [] => none
  | n + 1, c :: cs => (takeExactly? n cs).map fun (taken, rest) => (c :: taken, rest)

def dropPrefix? : List Char → List Char → Option (List Char)
  | [], cs => some cs
  | _ :: _, [] => none
  | p :: ps, c :: cs => if p = c then dropPrefix? ps cs else none

-- A code point that is a character, and no surrogate.
def char? (n : Nat) : Option Char :=
  if h : n.isValidChar then some (Char.ofNatAux n h) else none

end MarkerLint.Text
