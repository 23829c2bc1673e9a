import MarkerLint.Text.Bytes

namespace MarkerLint

-- The bytes from `start` up to, and without, `stop`.
structure Span where
  start : Nat := 0
  stop : Nat := 0
  deriving DecidableEq, Inhabited, Repr

namespace Span

def length (s : Span) : Nat :=
  s.stop - s.start

def isEmpty (s : Span) : Bool :=
  s.start == s.stop

-- The text a span covers. A span that is reversed, leaves the text or cuts a character covers none.
def slice? (s : Span) (text : List Char) : Option (List Char) := do
  let (_, rest) ← Text.splitAt? s.start text
  if s.start ≤ s.stop then
    let (inside, _) ← Text.splitAt? (s.stop - s.start) rest
    pure inside
  else
    none

end Span
end MarkerLint
