import MarkerLint.Text.Edit

namespace MarkerLint

namespace Text

variable {before after : List Char} {n : Nat}

theorem splitAt?_append (before after : List Char) :
    splitAt? (bytes before) (before ++ after) = some (before, after) := by
  induction before
  case nil => simp [splitAt?]
  case cons c before hi =>
    have hc := c.utf8Size_pos
    have hn : c.utf8Size + bytes before = (c.utf8Size + bytes before - 1) + 1 := by omega
    rw [bytes_cons, List.cons_append, hn, splitAt?, ← hn, if_pos (Nat.le_add_right ..), Nat.add_sub_cancel_left, hi]
    rfl

theorem isBoundary_append (before after : List Char) : IsBoundary (before ++ after) (bytes before) := by
  rw [IsBoundary, splitAt?_append]
  rfl

-- Two cuts of a text: the one further on cuts what the other leaves.
theorem exists_of_append_eq {before' after' : List Char} (h : before ++ after = before' ++ after')
    (hle : bytes before ≤ bytes before') : ∃ kept, before' = before ++ kept ∧ after = kept ++ after' := by
  obtain ⟨kept, rfl, rfl⟩ | ⟨more, rfl, rfl⟩ := List.append_eq_append_iff.mp h
  · exact ⟨kept, rfl, rfl⟩
  · cases more
    case nil => exact ⟨[], by simp, by simp⟩
    case cons c more =>
      have := c.utf8Size_pos
      simp only [bytes_append, bytes_cons] at hle
      omega

theorem IsBoundary.cut (h : IsBoundary (before ++ after) n) (hle : bytes before ≤ n) :
    ∃ kept rest, after = kept ++ rest ∧ bytes (before ++ kept) = n := by
  have ⟨⟨before', after'⟩, hs⟩ := Option.isSome_iff_exists.mp h
  obtain ⟨he, rfl⟩ := splitAt?_eq_some hs
  obtain ⟨kept, rfl, rfl⟩ := exists_of_append_eq he hle
  exact ⟨kept, after', rfl, rfl⟩

end Text

namespace Edit

open Text

-- Makes all edits at once, in a text that starts at an offset. What lies between two edits is kept.
def spliceAll : Nat → List Edit → List Char → Option (List Char)
  | _, [], text => some text
  | offset, e :: edits, text => do
    let (kept, text) ← splitAt? (e.span.start - offset) text
    let (_, text) ← splitAt? (e.span.stop - e.span.start) text
    let text ← spliceAll e.span.stop edits text
    pure (kept ++ e.newText.toList ++ text)

-- Takes inserted texts out again, in a text that starts at an offset. They must be found where they were put.
def removeInserted : Nat → List Edit → List Char → Option (List Char)
  | _, [], text => some text
  | offset, e :: edits, text => do
    let (kept, text) ← splitAt? (e.span.start - offset) text
    let (inserted, text) ← splitAt? (bytes e.newText.toList) text
    if inserted = e.newText.toList then
      let text ← removeInserted e.span.stop edits text
      pure (kept ++ text)
    else
      none

-- Edits that fit a text from an offset on, each behind the one before.
inductive InOrder (source : List Char) : Nat → List Edit → Prop
  | nil {offset} : InOrder source offset []
  | cons {offset e edits} : offset ≤ e.span.start → e.Fits source → InOrder source e.span.stop edits →
    InOrder source offset (e :: edits)

theorem isInsertion_iff {e : Edit} : e.isInsertion ↔ e.span.start = e.span.stop := by
  simp [isInsertion, Span.isEmpty]

section

variable {source before after : List Char} {edits : List Edit} {offset : Nat}

theorem splice_append (e : Edit) (before gone after : List Char) (hstart : bytes before = e.span.start)
    (hstop : bytes (before ++ gone) = e.span.stop) :
    e.splice (before ++ gone ++ after) = before ++ e.newText.toList ++ after := by
  have hgone : e.span.stop - e.span.start = bytes gone := by
    rw [← hstop, ← hstart, bytes_append, Nat.add_sub_cancel_left]
  rw [splice, ← hstart, List.append_assoc, splitAt?_append]
  simp only [hstart, hgone, splitAt?_append]

theorem step_eq {e : Edit} {p : Progress} (hfloor : e.span.stop ≤ p.floor) (hfits : e.Fits source) :
    step source e p = ⟨e.splice p.text, e.span.start⟩ :=
  if_pos ⟨hfloor, hfits⟩

-- From the back to the front, every edit finds its own part of the text as it was at first.
theorem foldr_step_eq (h : InOrder source offset edits) (hs : source = before ++ after)
    (ho : bytes before = offset) :
    let p := edits.foldr (step source) ⟨source, bytes source⟩
    ∃ text, spliceAll offset edits after = some text ∧ p.text = before ++ text ∧ offset ≤ p.floor := by
  induction h generalizing before after
  case nil offset => exact ⟨after, rfl, hs, by simp [hs, ← ho]⟩
  case cons offset e edits hle hfits _ hi =>
    subst ho
    have ⟨kept, rest, hrest, hstart⟩ := IsBoundary.cut (hs ▸ hfits.start) hle
    rw [hrest, ← List.append_assoc] at hs
    have ⟨gone, rest', hrest', hstop⟩ := IsBoundary.cut (hs ▸ hfits.stop) (hstart ▸ hfits.ordered)
    rw [hrest', ← List.append_assoc] at hs
    have ⟨text, hsplice, htext, hfloor⟩ := hi hs hstop
    have hkept : e.span.start - bytes before = bytes kept := by
      rw [← hstart, bytes_append, Nat.add_sub_cancel_left]
    have hgone : e.span.stop - e.span.start = bytes gone := by
      rw [← hstop, ← hstart, bytes_append, Nat.add_sub_cancel_left]
    simp only [List.foldr_cons, step_eq hfloor hfits, htext]
    refine ⟨kept ++ e.newText.toList ++ text, ?_, ?_, hle⟩
    · simp [spliceAll, hrest, hrest', hkept, hgone, splitAt?_append, hsplice]
    · rw [splice_append e _ gone text hstart hstop]
      simp

-- What was inserted all at once can be taken out again.
theorem removeInserted_spliceAll {text result : List Char} (hi : ∀ e ∈ edits, e.isInsertion)
    (h : spliceAll offset edits text = some result) : removeInserted offset edits result = some text := by
  induction edits generalizing offset text result
  case nil => simpa [spliceAll, removeInserted, eq_comm] using h
  case cons e edits hrec =>
    have ⟨he, hi⟩ := List.forall_mem_cons.mp hi
    simp only [spliceAll, Option.bind_eq_bind, Option.bind_eq_some_iff, Prod.exists] at h
    obtain ⟨kept, rest, hcut, gone, rest', hgone, result', hr, h⟩ := h
    obtain ⟨rfl, hkept⟩ := splitAt?_eq_some hcut
    rw [isInsertion_iff.mp he, Nat.sub_self] at hgone
    obtain ⟨rfl, rfl⟩ : gone = [] ∧ rest' = rest := by simpa [splitAt?, eq_comm] using hgone
    obtain rfl := Option.some.inj h
    simp [removeInserted, ← hkept, splitAt?_append, hrec hi hr]

end

-- By start, then by end.
theorem le_iff {a b : Edit} :
    a.le b ↔ a.span.start < b.span.start ∨ a.span.start = b.span.start ∧ a.span.stop ≤ b.span.stop := by
  simp [le]

theorem le_trans (a b c : Edit) (h₁ : a.le b) (h₂ : b.le c) : a.le c := by
  rw [le_iff] at *
  omega

theorem le_total (a b : Edit) : a.le b || b.le a := by
  rw [Bool.or_eq_true, le_iff, le_iff]
  omega

-- Edits of which none must stand before another stay in the order in which they were given.
theorem filter_mergeSort {edits : List Edit} {p : Edit → Bool}
    (h : ∀ a ∈ edits.filter p, ∀ b ∈ edits.filter p, a.le b) :
    (edits.mergeSort le).filter p = edits.filter p := by
  have hsorted : (edits.filter p).Pairwise fun a b => a.le b := List.pairwise_iff_forall_sublist.mpr fun hs =>
    h _ (hs.subset (by simp)) _ (hs.subset (by simp))
  have hsub := (List.sublist_mergeSort le_trans le_total hsorted List.filter_sublist).filter p
  have hlen := ((List.mergeSort_perm edits le).filter p).length_eq
  simp only [List.filter_filter, Bool.and_self] at hsub
  exact (hsub.eq_of_length hlen.symm).symm

section

variable {source : List Char} {edits : List Edit}

theorem applyAll_eq (h : InOrder source 0 (edits.mergeSort le)) :
    spliceAll 0 (edits.mergeSort le) source = some (applyAll edits source) := by
  have ⟨text, hs, ht, _⟩ := @foldr_step_eq source [] source _ 0 h rfl rfl
  rw [hs, applyAll, ht, List.nil_append]

-- Insertions never overlap, not even at one offset.
theorem inOrder_of_insertions {offset : Nat} (hs : edits.Pairwise fun a b => a.le b)
    (hi : ∀ e ∈ edits, e.isInsertion ∧ Text.IsBoundary source e.span.start)
    (ho : ∀ e ∈ edits, offset ≤ e.span.start) : InOrder source offset edits := by
  induction edits generalizing offset
  case nil => exact .nil
  case cons e edits hrec =>
    have ⟨hle, hs⟩ := List.pairwise_cons.mp hs
    have ⟨⟨he, hb⟩, hi⟩ := List.forall_mem_cons.mp hi
    have he := isInsertion_iff.mp he
    refine .cons (ho e List.mem_cons_self) ⟨Nat.le_of_eq he, hb, he ▸ hb⟩ (hrec hs hi fun b hb => ?_)
    have := le_iff.mp (hle b hb)
    omega

-- Insertions at boundaries are all made.
theorem applyAll_insertions (hi : ∀ e ∈ edits, e.isInsertion ∧ Text.IsBoundary source e.span.start) :
    spliceAll 0 (edits.mergeSort le) source = some (applyAll edits source) := by
  have hm : ∀ e ∈ edits.mergeSort le, e.isInsertion ∧ Text.IsBoundary source e.span.start :=
    fun e he => hi e ((List.mergeSort_perm edits le).mem_iff.mp he)
  have hsorted := List.pairwise_mergeSort le_trans le_total edits
  exact applyAll_eq (inOrder_of_insertions hsorted hm fun _ _ => Nat.zero_le _)

end

end Edit
end MarkerLint
