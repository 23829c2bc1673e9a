import MarkerLint.Text.Bytes

-- Lines and columns of byte offsets. A line ends with a line feed; columns count characters.

namespace MarkerLint

structure Position where
  line : Nat
  column : Nat
  deriving DecidableEq, Inhabited, Repr

structure LineIndex where
  text : List Char
  starts : Array Nat

namespace LineIndex

def startsAfter (offset : Nat) : List Char → List Nat
  | [] => []
  | c :: cs =>
    let next := offset + c.utf8Size
    if c = '\n' then next :: startsAfter next cs else startsAfter next cs

def ofText (text : List Char) : LineIndex where
  text := text
  starts := (0 :: startsAfter 0 text).toArray

def lineCount (index : LineIndex) : Nat :=
  index.starts.size

-- The number of leading entries of the ascending `starts` that are at most `offset`, by halving the stretch from
-- `low` to `high`.
def countUpTo (starts : Array Nat) (offset low high : Nat) : Nat :=
  if low < high then
    let middle := (low + high) / 2
    if starts.getD middle 0 ≤ offset then
      countUpTo starts offset (middle + 1) high
    else
      countUpTo starts offset low middle
  else
    low
termination_by high - low

def charsBefore (start offset : Nat) : List Char → Nat
  | [] => 0
  | c :: cs => if start < offset then charsBefore (start + c.utf8Size) offset cs + 1 else 0

-- The part of a text from a byte offset on, skipping the rest of a character that is cut.
def dropBytes : Nat → List Char → List Char
  | 0, cs => cs
  | _ + 1, [] => []
  | n + 1, c :: cs => dropBytes (n + 1 - c.utf8Size) cs

-- Offsets past the end stand for the end.
def position (index : LineIndex) (offset : Nat) : Position :=
  let offset := min offset (Text.bytes index.text)
  let line := countUpTo index.starts offset 0 index.starts.size
  let start := index.starts.getD (line - 1) 0
  { line, column := charsBefore start offset (dropBytes start index.text) + 1 }

-- Offsets, lines and columns are words of 32 bits.
def wordBound : Nat := 4294967296

-- The position as it is shown. One more than the largest word is zero.
def lineCol (index : LineIndex) (offset : Nat) : Position :=
  let p := index.position offset
  { line := p.line % wordBound, column := p.column % wordBound }

end LineIndex
end MarkerLint
