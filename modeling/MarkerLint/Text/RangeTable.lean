
namespace MarkerLint.Text

-- Ranges of code points, both ends included, in ascending order and apart from each other.
structure RangeTable where
  ranges : Array (Nat × Nat)
  deriving Inhabited

namespace RangeTable

def ofList (ranges : List (Nat × Nat)) : RangeTable :=
  ⟨ranges.toArray⟩

def containsFrom (t : RangeTable) (n low high : Nat) : Bool :=
  if low < high then
    let middle := (low + high) / 2
    let range := t.ranges.getD middle (0, 0)
    if n < range.1 then
      t.containsFrom n low middle
    else if range.2 < n then
      t.containsFrom n (middle + 1) high
    else
      true
  else
    false
termination_by high - low

def contains (t : RangeTable) (c : Char) : Bool :=
  t.containsFrom c.toNat 0 t.ranges.size

end RangeTable
end MarkerLint.Text
