import MarkerLint.Text.Span

-- Edits of a text. A list of edits is applied from the back to the front, so that the offsets of the edits still to
-- come stay valid; an edit that overlaps one already made is left out.

namespace MarkerLint

structure Edit where
  span : Span
  newText : String
  deriving DecidableEq, Inhabited, Repr

namespace Edit

def insertion (offset : Nat) (newText : String) : Edit :=
  ⟨⟨offset, offset⟩, newText⟩

def isInsertion (e : Edit) : Bool :=
  e.span.isEmpty

def le (a b : Edit) : Bool :=
  a.span.start < b.span.start || (a.span.start == b.span.start && a.span.stop ≤ b.span.stop)

structure Fits (text : List Char) (e : Edit) : Prop where
  ordered : e.span.start ≤ e.span.stop
  start : Text.IsBoundary text e.span.start
  stop : Text.IsBoundary text e.span.stop

instance (text : List Char) (e : Edit) : Decidable (Fits text e) :=
  if h : e.span.start ≤ e.span.stop ∧ Text.IsBoundary text e.span.start ∧ Text.IsBoundary text e.span.stop then
    isTrue ⟨h.1, h.2.1, h.2.2⟩
  else
    isFalse fun ⟨h₁, h₂, h₃⟩ => h ⟨h₁, h₂, h₃⟩

-- Makes one edit; a span that cannot be cut out leaves the text alone.
def splice (e : Edit) (text : List Char) : List Char :=
  match Text.splitAt? e.span.start text with
  | none => text
  | some (before, rest) =>
    match Text.splitAt? (e.span.stop - e.span.start) rest with
    | none => text
    | some (_, after) => before ++ e.newText.toList ++ after

-- A text being edited: edits must end at or before `floor`.
structure Progress where
  text : List Char
  floor : Nat

def step (source : List Char) (e : Edit) (p : Progress) : Progress :=
  if e.span.stop ≤ p.floor ∧ e.Fits source then
    ⟨e.splice p.text, e.span.start⟩
  else
    p

-- Applies the edits, last one first. Insertions at one place keep their order.
def applyAll (edits : List Edit) (source : List Char) : List Char :=
  ((edits.mergeSort le).foldr (step source) ⟨source, Text.bytes source⟩).text

end Edit
end MarkerLint
