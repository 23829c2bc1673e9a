import Mathlib.Data.List.Pairwise
import MarkerLint.Proofs.Text.Splicing

-- Which edits of a list are made. Edits are gone through from the back, and one is made if it fits the text and
-- ends at or before the floor, which is where the last one that was made begins. The edits that are made lie apart,
-- so making them one by one is making them all at once; and an edit that fits is left out only if it overlaps one
-- of them.

namespace MarkerLint

namespace Text

-- A cut at or before the end of a part of a text does not depend on what follows.
theorem IsBoundary.of_append {before after after' : List Char} {n : Nat} (h : IsBoundary (before ++ after) n)
    (hle : n ≤ bytes before) : IsBoundary (before ++ after') n := by
  have ⟨⟨first, rest⟩, hcut⟩ := Option.isSome_iff_exists.mp h
  obtain ⟨he, rfl⟩ := splitAt?_eq_some hcut
  obtain ⟨kept, rfl, _⟩ := exists_of_append_eq he.symm hle
  rw [IsBoundary, List.append_assoc, splitAt?_append]
  rfl

theorem IsBoundary.le_bytes {text : List Char} {n : Nat} (h : IsBoundary text n) : n ≤ bytes text := by
  have ⟨⟨before, after⟩, hcut⟩ := Option.isSome_iff_exists.mp h
  obtain ⟨rfl, rfl⟩ := splitAt?_eq_some hcut
  simp

end Text

namespace Edit

open Text

-- The text and the floor after some edits, which are given in ascending order.
def progress (source : List Char) (edits : List Edit) : Progress :=
  edits.foldr (step source) ⟨source, bytes source⟩

-- The edit is made when its turn comes.
def Accepts (source : List Char) (p : Progress) (e : Edit) : Prop :=
  e.span.stop ≤ p.floor ∧ e.Fits source

instance (source : List Char) (p : Progress) (e : Edit) : Decidable (Accepts source p e) :=
  inferInstanceAs (Decidable (_ ∧ _))

-- The edits that are made, of edits in ascending order.
def accepted (source : List Char) : List Edit → List Edit
  | [] => []
  | e :: edits =>
    if Accepts source (progress source edits) e then e :: accepted source edits else accepted source edits

-- A byte is in both, or the other one is an insertion strictly inside.
def Overlaps (e other : Edit) : Prop :=
  (∃ byte, (e.span.start ≤ byte ∧ byte < e.span.stop) ∧ other.span.start ≤ byte ∧ byte < other.span.stop) ∨
    other.isInsertion ∧ e.span.start < other.span.start ∧ other.span.stop < e.span.stop

theorem overlaps_iff {e other : Edit} :
    e.Overlaps other ↔ max e.span.start other.span.start < min e.span.stop other.span.stop ∨
      other.isInsertion ∧ e.span.start < other.span.start ∧ other.span.stop < e.span.stop := by
  refine or_congr ⟨?_, fun h => ⟨max e.span.start other.span.start, by omega, by omega⟩⟩ Iff.rfl
  rintro ⟨byte, h₁, h₂⟩
  omega

instance (e other : Edit) : Decidable (e.Overlaps other) :=
  decidable_of_iff' _ overlaps_iff

section

variable {source : List Char} {edits : List Edit} {e : Edit}

theorem progress_accepts (h : Accepts source (progress source edits) e) :
    progress source (e :: edits) = ⟨e.splice (progress source edits).text, e.span.start⟩ :=
  if_pos h

theorem progress_refuses (h : ¬Accepts source (progress source edits) e) :
    progress source (e :: edits) = progress source edits :=
  if_neg h

theorem accepted_sublist (source : List Char) (edits : List Edit) : (accepted source edits).Sublist edits := by
  fun_induction accepted source edits
  case case1 => exact .slnil
  case case2 hi => exact hi.cons_cons _
  case case3 hi => exact hi.cons _

theorem fits_of_mem_accepted (h : e ∈ accepted source edits) : e.Fits source := by
  fun_induction accepted source edits
  case case1 => contradiction
  case case2 ha hi =>
    cases h
    case head => exact ha.right
    case tail h => exact hi h
  case case3 hi => exact hi h

-- The edits that were left out have changed nothing.
theorem progress_accepted (source : List Char) (edits : List Edit) :
    progress source (accepted source edits) = progress source edits := by
  fun_induction accepted source edits
  case case1 => rfl
  case case2 e edits ha hi => rw [progress_accepts (hi ▸ ha), progress_accepts ha, hi]
  case case3 ha hi => rw [hi, progress_refuses ha]

-- The text is what the edits make of it one after the other.
theorem progress_text (source : List Char) (edits : List Edit) :
    (progress source edits).text = (accepted source edits).foldr splice source := by
  fun_induction accepted source edits
  case case1 => rfl
  case case2 ha hi => rw [progress_accepts ha, List.foldr_cons, hi]
  case case3 ha hi => rw [progress_refuses ha, hi]

-- The floor lies below all that was done.
theorem floor_le (h : e ∈ accepted source edits) : (progress source edits).floor ≤ e.span.start := by
  fun_induction accepted source edits
  case case1 => contradiction
  case case2 e' edits ha hi =>
    rw [progress_accepts ha]
    cases h
    case head => exact Nat.le_refl _
    case tail h =>
      calc e'.span.start
        _ ≤ e'.span.stop := ha.right.ordered
        _ ≤ (progress source edits).floor := ha.left
        _ ≤ e.span.start := hi h
  case case3 ha hi => exact progress_refuses ha ▸ hi h

-- The floor is the end of the text until something is done.
theorem floor_eq (source : List Char) (edits : List Edit) :
    (progress source edits).floor = bytes source ∨
      ∃ a ∈ accepted source edits, (progress source edits).floor = a.span.start := by
  fun_induction accepted source edits
  case case1 => exact .inl rfl
  case case2 e edits ha _ => exact .inr ⟨e, List.mem_cons_self, by rw [progress_accepts ha]⟩
  case case3 ha hi => rwa [progress_refuses ha]

theorem pairwise_accepted (source : List Char) (edits : List Edit) :
    (accepted source edits).Pairwise fun a b => a.span.stop ≤ b.span.start := by
  fun_induction accepted source edits
  case case1 => exact .nil
  case case2 ha hi => exact .cons (fun _ hm => Nat.le_trans ha.left (floor_le hm)) hi
  case case3 hi => exact hi

theorem inOrder_of_pairwise {offset : Nat} (hp : edits.Pairwise fun a b => a.span.stop ≤ b.span.start)
    (hf : ∀ e ∈ edits, e.Fits source) (ho : ∀ e ∈ edits, offset ≤ e.span.start) : InOrder source offset edits := by
  induction edits generalizing offset
  case nil => exact .nil
  case cons e edits hi =>
    have ⟨hle, hp⟩ := List.pairwise_cons.mp hp
    have ⟨he, hf⟩ := List.forall_mem_cons.mp hf
    exact .cons (ho e List.mem_cons_self) he (hi hp hf hle)

theorem inOrder_accepted {offset : Nat} (h : ∀ e ∈ accepted source edits, offset ≤ e.span.start) :
    InOrder source offset (accepted source edits) :=
  inOrder_of_pairwise (pairwise_accepted source edits) (fun _ => fits_of_mem_accepted) h

-- Up to the floor the text is still the one that was there at first, so that an edit which ends there
-- finds its boundaries in the text as it is.
theorem fits_progress (h : Accepts source (progress source edits) e) : e.Fits (progress source edits).text := by
  have ⟨hfloor, hfits⟩ := h
  have hin : InOrder source e.span.stop (accepted source edits) :=
    inOrder_accepted fun a ha => Nat.le_trans hfloor (floor_le ha)
  have ⟨⟨before, after⟩, hcut⟩ := Option.isSome_iff_exists.mp hfits.stop
  have ⟨hs, hb⟩ := splitAt?_eq_some hcut
  have ⟨text, _, htext, _⟩ := foldr_step_eq hin hs hb
  have htext : (progress source edits).text = before ++ text := by
    rw [← progress_accepted]
    exact htext
  rw [htext]
  exact {
    ordered := hfits.ordered
    start := IsBoundary.of_append (hs ▸ hfits.start) (hb ▸ hfits.ordered)
    stop := IsBoundary.of_append (hs ▸ hfits.stop) (Nat.le_of_eq hb.symm) }

theorem spliceAll_accepted (source : List Char) (edits : List Edit) :
    spliceAll 0 (accepted source edits) source = some (progress source edits).text := by
  have hin : InOrder source 0 (accepted source edits) := inOrder_accepted fun _ _ => Nat.zero_le _
  have ⟨text, hs, ht, _⟩ := foldr_step_eq hin (List.nil_append source).symm rfl
  rw [hs, ← progress_accepted]
  exact congrArg some ht.symm

-- An edit that is left out reaches beyond the floor, and what begins at the floor is behind it in the order.
theorem overlaps_of_refuses (hs : ∀ a ∈ edits, e.le a) (hf : e.Fits source)
    (h : ¬Accepts source (progress source edits) e) : ∃ a ∈ accepted source edits, e.Overlaps a := by
  have hstop : (progress source edits).floor < e.span.stop := Nat.lt_of_not_le fun hle => h ⟨hle, hf⟩
  obtain hfloor | ⟨a, ha, hfloor⟩ := floor_eq source edits
  · have := hf.stop.le_bytes
    omega
  · have hle := le_iff.mp (hs a ((accepted_sublist source edits).subset ha))
    have hord := (fits_of_mem_accepted ha).ordered
    refine ⟨a, ha, ?_⟩
    by_cases hi : a.isInsertion
    case pos =>
      have he := isInsertion_iff.mp hi
      exact .inr ⟨hi, by omega, by omega⟩
    case neg =>
      have he := isInsertion_iff.not.mp hi
      exact .inl ⟨a.span.start, by omega, by omega⟩

theorem overlaps_of_count_lt (hs : edits.Pairwise fun a b => a.le b) (hf : e.Fits source)
    (h : (accepted source edits).count e < edits.count e) : ∃ a ∈ accepted source edits, e.Overlaps a := by
  fun_induction accepted source edits
  case case1 => simp at h
  case case2 e' edits ha hi =>
    rw [List.count_cons, List.count_cons] at h
    obtain ⟨a, hm, ho⟩ := hi hs.of_cons (by omega)
    exact ⟨a, .tail _ hm, ho⟩
  case case3 e' edits ha hi =>
    by_cases he : e' = e
    case pos =>
      subst he
      exact overlaps_of_refuses (List.pairwise_cons.mp hs).left hf ha
    case neg => exact hi hs.of_cons (by rwa [List.count_cons_of_ne he] at h)

theorem not_overlaps_of_isInsertion {a : Edit} (h : e.isInsertion) : ¬e.Overlaps a := by
  have he := isInsertion_iff.mp h
  rintro (⟨byte, hb, _⟩ | ⟨ha, hb⟩)
  · omega
  · have ha := isInsertion_iff.mp ha
    omega

theorem accepted_eq_self (hs : edits.Pairwise fun a b => a.le b) (hf : ∀ e ∈ edits, e.Fits source)
    (ho : edits.Pairwise fun a b => ¬a.Overlaps b) : accepted source edits = edits := by
  fun_induction accepted source edits
  case case1 => rfl
  case case2 hi =>
    rw [hi hs.of_cons (List.forall_mem_cons.mp hf).right ho.of_cons]
  case case3 e edits ha _ =>
    obtain ⟨a, hm, h⟩ := overlaps_of_refuses (List.pairwise_cons.mp hs).left (hf e List.mem_cons_self) ha
    exact absurd h ((List.pairwise_cons.mp ho).left a ((accepted_sublist source edits).subset hm))

end

theorem span_eq_of_le {a b : Edit} (h₁ : a.le b) (h₂ : b.le a) : a.span = b.span := by
  rw [le_iff] at h₁ h₂
  have hstart : a.span.start = b.span.start := by omega
  have hstop : a.span.stop = b.span.stop := by omega
  cases ha : a.span
  cases hb : b.span
  simp_all

theorem head_le {a e : Edit} {as : List Edit} (h : (a :: as).Pairwise fun a b => a.le b) (he : e ∈ a :: as) :
    a.le e := by
  cases he
  case head => exact le_iff.mpr (.inr ⟨rfl, Nat.le_refl _⟩)
  case tail he => exact (List.pairwise_cons.mp h).left e he

theorem mem_of_filter_span_eq {as bs : List Edit} {e : Edit}
    (h : ∀ span, as.filter (·.span = span) = bs.filter (·.span = span)) (he : e ∈ as) : e ∈ bs := by
  have hf : e ∈ as.filter (·.span = e.span) := by simp [he]
  rw [h] at hf
  exact (List.mem_filter.mp hf).left

-- Lists in ascending order that agree on every span are the same.
theorem eq_of_filter_span_eq {as bs : List Edit} (ha : as.Pairwise fun a b => a.le b)
    (hb : bs.Pairwise fun a b => a.le b)
    (h : ∀ span, as.filter (·.span = span) = bs.filter (·.span = span)) : as = bs := by
  induction as generalizing bs
  case nil =>
    cases bs
    case nil => rfl
    case cons b bs => simpa using mem_of_filter_span_eq (fun span => (h span).symm) (e := b) List.mem_cons_self
  case cons a as hi =>
    cases bs
    case nil => simpa using mem_of_filter_span_eq h (e := a) List.mem_cons_self
    case cons b bs =>
      have hab := head_le ha (mem_of_filter_span_eq (fun span => (h span).symm) List.mem_cons_self)
      have hba := head_le hb (mem_of_filter_span_eq h List.mem_cons_self)
      have hfirst := h b.span
      simp only [List.filter_cons, span_eq_of_le hab hba, decide_true, ↓reduceIte, List.cons.injEq] at hfirst
      obtain ⟨rfl, _⟩ := hfirst
      congr 1
      refine hi ha.of_cons hb.of_cons fun span => ?_
      have hs := h span
      simp only [List.filter_cons] at hs
      split at hs
      · exact (List.cons.inj hs).right
      · exact hs

theorem pairwise_sorted (edits : List Edit) : (edits.mergeSort le).Pairwise fun a b => a.le b :=
  List.pairwise_mergeSort le_trans le_total edits

theorem filter_span_mergeSort (edits : List Edit) (span : Span) :
    (edits.mergeSort le).filter (·.span = span) = edits.filter (·.span = span) := by
  refine filter_mergeSort fun a ha b hb => le_iff.mpr (.inr ?_)
  have ha := of_decide_eq_true (List.mem_filter.mp ha).right
  have hb := of_decide_eq_true (List.mem_filter.mp hb).right
  simp [ha, hb]

-- Every replacement is made at boundaries of the text as it is then, and what comes out is what the edits
-- that are made give all at once: the source is cut at their spans, and the new texts go in between. They
-- are in ascending order, those with one span in the order given, and they fit the source and lie apart.
theorem applyAll_splices_accepted (source : List Char) (edits : List Edit) :
    let sorted := edits.mergeSort le
    let made := accepted source sorted
    (∀ front e back, sorted = front ++ e :: back → Accepts source (progress source back) e →
        e.Fits (progress source back).text) ∧
      applyAll edits source = made.foldr splice source ∧
      spliceAll 0 made source = some (applyAll edits source) ∧
      made.Sublist sorted ∧
      made.Pairwise (fun a b => a.le b) ∧
      (∀ span, (made.filter (·.span = span)).Sublist (edits.filter (·.span = span))) ∧
      (∀ e ∈ made, e.Fits source ∧ e.span.stop ≤ bytes source) ∧
      made.Pairwise (fun a b => a.span.stop ≤ b.span.start) := by
  intro sorted made
  have hsub : made.Sublist sorted := accepted_sublist source sorted
  refine ⟨?_, progress_text source sorted, spliceAll_accepted source sorted, hsub, ?_, ?_, ?_, ?_⟩
  · intro front e back _ h
    exact fits_progress h
  · exact (pairwise_sorted edits).sublist hsub
  · intro span
    rw [← filter_span_mergeSort edits]
    exact hsub.filter _
  · intro e he
    have hf := fits_of_mem_accepted he
    exact ⟨hf, hf.stop.le_bytes⟩
  · exact pairwise_accepted source sorted

-- The second edit cuts a character, the fifth is reversed and the last one leaves the text.
theorem applyAll_splices_accepted_accents :
    let source := "aé😀b".toList
    let edits : List Edit := [⟨⟨1, 3⟩, "e"⟩, ⟨⟨2, 3⟩, "x"⟩, .insertion 3 "!", ⟨⟨3, 7⟩, ""⟩, ⟨⟨5, 1⟩, "x"⟩, ⟨⟨7, 99⟩, "x"⟩]
    accepted source edits = [⟨⟨1, 3⟩, "e"⟩, .insertion 3 "!", ⟨⟨3, 7⟩, ""⟩] ∧
      applyAll edits source = "ae!b".toList := by
  intro source edits
  have hsort : edits.mergeSort le = edits := List.mergeSort_of_pairwise (by decide)
  have hmade : accepted source edits = [⟨⟨1, 3⟩, "e"⟩, .insertion 3 "!", ⟨⟨3, 7⟩, ""⟩] := by decide
  have h := (applyAll_splices_accepted source edits).right.right.left
  rw [hsort, hmade] at h
  exact ⟨hmade, Option.some.inj (h.symm.trans (by decide))⟩

-- An edit that fits is left out only where it overlaps one that is made. So insertions are all made, and so
-- are edits that do not overlap each other. Only the order of edits with one span matters: lists that
-- agree on every span, which makes one a permutation of the other, lead to the same text.
theorem applyAll_drops_only_overlapping (source : List Char) (edits : List Edit) :
    let made := accepted source (edits.mergeSort le)
    (∀ e, e.Fits source → made.count e < edits.count e → ∃ a ∈ made, e.Overlaps a) ∧
      (∀ e, e.Fits source → e.isInsertion → made.count e = edits.count e) ∧
      ((∀ e ∈ edits, e.Fits source) → edits.Pairwise (fun a b => ¬a.Overlaps b ∧ ¬b.Overlaps a) →
        made = edits.mergeSort le ∧ spliceAll 0 (edits.mergeSort le) source = some (applyAll edits source)) ∧
      ∀ edits', (∀ span, edits'.filter (·.span = span) = edits.filter (·.span = span)) →
        applyAll edits' source = applyAll edits source := by
  intro made
  have hperm : (edits.mergeSort le).Perm edits := List.mergeSort_perm edits le
  have hdropped : ∀ e, e.Fits source → made.count e < edits.count e → ∃ a ∈ made, e.Overlaps a := by
    intro e hf hlt
    rw [← hperm.count_eq] at hlt
    exact overlaps_of_count_lt (pairwise_sorted edits) hf hlt
  refine ⟨hdropped, ?insertions, ?apart, ?order⟩
  case insertions =>
    intro e hf hi
    apply Nat.le_antisymm
    · rw [← hperm.count_eq]
      exact (accepted_sublist ..).count_le e
    · apply Nat.le_of_not_lt
      intro hlt
      have ⟨a, _, ho⟩ := hdropped e hf hlt
      exact not_overlaps_of_isInsertion hi ho
  case apart =>
    intro hf ho
    have hf : ∀ e ∈ edits.mergeSort le, e.Fits source := fun e he => hf e (hperm.mem_iff.mp he)
    have ho := (hperm.pairwise_iff And.symm).mpr ho
    have hmade : made = edits.mergeSort le := accepted_eq_self (pairwise_sorted edits) hf (ho.imp And.left)
    exact ⟨hmade, hmade ▸ spliceAll_accepted source (edits.mergeSort le)⟩
  case order =>
    intro edits' h
    have hsort : edits'.mergeSort le = edits.mergeSort le := by
      refine eq_of_filter_span_eq (pairwise_sorted edits') (pairwise_sorted edits) fun span => ?_
      rw [filter_span_mergeSort, filter_span_mergeSort, h]
    rw [applyAll, applyAll, hsort]

theorem applyAll_drops_only_overlapping_letters :
    let source := "abcdef".toList
    let wide : Edit := ⟨⟨1, 4⟩, "X"⟩
    let edits : List Edit := [wide, ⟨⟨2, 5⟩, "Y"⟩, .insertion 5 "Z"]
    let touching : List Edit := [⟨⟨1, 3⟩, "x"⟩, .insertion 3 "i", .insertion 3 "j", ⟨⟨3, 5⟩, "y"⟩]
    let shuffled : List Edit := [⟨⟨3, 5⟩, "y"⟩, .insertion 3 "i", ⟨⟨1, 3⟩, "x"⟩, .insertion 3 "j"]
    (∃ a ∈ accepted source edits, wide.Overlaps a) ∧
      (accepted source edits).count (.insertion 5 "Z") = 1 ∧
      spliceAll 0 touching source = some (applyAll touching source) ∧
      applyAll shuffled source = applyAll touching source := by
  intro source wide edits touching shuffled
  have hedits : edits.mergeSort le = edits := List.mergeSort_of_pairwise (by decide)
  have htouching : touching.mergeSort le = touching := List.mergeSort_of_pairwise (by decide)
  have ⟨hdropped, hinsertion, _⟩ := applyAll_drops_only_overlapping source edits
  have ⟨_, _, hall, horder⟩ := applyAll_drops_only_overlapping source touching
  rw [hedits] at hdropped hinsertion
  rw [htouching] at hall
  refine ⟨hdropped wide (by decide) (by decide), hinsertion _ (by decide) (by decide), ?_, ?_⟩
  · exact (hall (by decide) (by decide)).right
  · refine horder shuffled fun span => ?_
    by_cases hspan : span ∈ touching.map (·.span)
    case pos =>
      revert span
      decide
    case neg =>
      have hnone : ∀ e : Edit, e.span ∈ touching.map (·.span) → ¬decide (e.span = span) := by
        simp only [decide_eq_true_eq]
        rintro e he rfl
        exact hspan he
      rw [List.filter_eq_nil_iff.mpr fun e he => hnone e ?_, List.filter_eq_nil_iff.mpr fun e he => hnone e ?_]
      · exact List.mem_map_of_mem he
      · revert e
        decide

end Edit
end MarkerLint
