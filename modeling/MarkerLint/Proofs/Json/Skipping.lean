import MarkerLint.Proofs.Json.Reading

-- Passing over values that are not needed. The scan keeps the brackets that are open, and behind a value it goes on
-- in the innermost one. So a value is passed over inside of any brackets if the scan can go on behind it, and this
-- holds for every value by induction over the grammar.

namespace MarkerLint.Json

def Bracket.opening : Bracket → Char
  | array => '['
  | object => '{'

def Bracket.closing : Bracket → Char
  | array => ']'
  | object => '}'

def skipFrom (brackets : List Bracket) (cs : List Char) : Except ReadError (Read Unit) :=
  Text.scan .malformed skipStep brackets cs

-- The scan goes on behind a value, and leaves `final` in the end.
inductive Resumes (brackets : List Bracket) (rest final : List Char) : Prop
  | done : afterItem brackets rest = .ok (.done () final) → Resumes brackets rest final
  | more {brackets' rest'} : afterItem brackets rest = .ok (.more brackets' rest') → rest'.length ≤ rest.length →
    skipFrom brackets' rest' = .ok ((), final) → Resumes brackets rest final

-- A value is passed over inside of any brackets.
def Skips (t : List Char) : Prop :=
  ∀ w brackets rest final, Blanks w → EndsNumber rest → Resumes brackets rest final →
    skipFrom brackets (w ++ (t ++ rest)) = .ok ((), final)

-- An item of a bracket is passed over: in an object, there is a key before the value.
def SkipsItem (bracket : Bracket) (item : List Char) : Prop :=
  ∀ w outer rest final, Blanks w → EndsNumber rest → Resumes (bracket :: outer) rest final →
    ∃ cs, enterItem bracket (w ++ (item ++ rest)) = .ok cs ∧ cs.length ≤ (w ++ (item ++ rest)).length ∧
      skipFrom (bracket :: outer) cs = .ok ((), final)

variable {w t item rest final text : List Char} {items : List (List Char)}
variable {bracket : Bracket} {brackets outer : List Bracket}

theorem skipFrom_of_afterItem (hs : skipStep brackets text = afterItem brackets rest) (hl : rest.length < text.length)
    (hr : Resumes brackets rest final) : skipFrom brackets text = .ok ((), final) := by
  cases hr
  case done h => exact Text.scan_of_done (hs.trans h)
  case more h hle hskip =>
    rw [skipFrom, Text.scan_of_more (hs.trans h) (Nat.lt_of_le_of_lt hle hl)]
    exact hskip

theorem skips_of_step (hne : t ≠ []) (hs : ∀ w brackets rest, Blanks w → EndsNumber rest →
    skipStep brackets (w ++ (t ++ rest)) = afterItem brackets rest) : Skips t := by
  intro w brackets rest final hw hr hresumes
  have hlength := List.length_pos_iff.mpr hne
  refine skipFrom_of_afterItem (hs w brackets rest hw hr) ?_ hresumes
  simp only [List.length_append]
  omega

-- Brackets.

theorem closing_mem (bracket : Bracket) : bracket.closing ∈ [']', '}'] := by
  cases bracket
  all_goals decide

theorem afterItem_close (hw : Blanks w) (bracket : Bracket) (outer : List Bracket) (rest : List Char) :
    afterItem (bracket :: outer) (w ++ bracket.closing :: rest) = afterItem outer rest := by
  rw [afterItem.eq_def]
  cases bracket
  all_goals
    dsimp only
    rw [skipBlanks_to hw rfl]
    rfl

theorem afterItem_comma {cs : List Char} (hw : Blanks w) (h : enterItem bracket rest = .ok cs) (outer : List Bracket) :
    afterItem (bracket :: outer) (w ++ ',' :: rest) = .ok (.more (bracket :: outer) cs) := by
  rw [afterItem.eq_def]
  dsimp only
  rw [skipBlanks_to hw rfl]
  cases bracket
  all_goals
    change (enterItem _ rest >>= _) = _
    rw [h, ok_bind]

theorem skipStep_opening (hw : Blanks w) (bracket : Bracket) (brackets : List Bracket) (rest : List Char) :
    skipStep brackets (w ++ bracket.opening :: rest) = afterOpening bracket brackets rest := by
  cases bracket
  all_goals
    rw [skipStep, skipBlanks_to hw rfl]
    rfl

theorem afterOpening_close (hw : Blanks w) (bracket : Bracket) (outer : List Bracket) (rest : List Char) :
    afterOpening bracket outer (w ++ bracket.closing :: rest) = afterItem outer rest := by
  cases bracket
  all_goals
    rw [afterOpening.eq_def, skipBlanks_to hw rfl]
    rfl

theorem afterOpening_item {cs : List Char} (hw : Blanks w) (hs : Starts item)
    (h : enterItem bracket (item ++ rest) = .ok cs) (outer : List Bracket) :
    afterOpening bracket outer (w ++ (item ++ rest)) = .ok (.more (bracket :: outer) cs) := by
  obtain ⟨c, t, rfl, hblank, hsquare, hcurly⟩ := hs
  rw [List.cons_append] at h ⊢
  rw [afterOpening.eq_def, skipBlanks_to hw hblank]
  split
  case h_4 => rw [h, ok_bind]
  all_goals simp_all

theorem Resumes.close (hr : Resumes outer rest final) (hw : Blanks w) (bracket : Bracket) :
    Resumes (bracket :: outer) (w ++ bracket.closing :: rest) final := by
  cases hr
  case done h => exact .done ((afterItem_close hw bracket outer rest).trans h)
  case more h hle hskip =>
    refine .more ((afterItem_close hw bracket outer rest).trans h) ?_ hskip
    simp only [List.length_append, List.length_cons]
    omega

-- The items that are left are passed over one by one, from the last one back to the next.
theorem Resumes.tail (hr : Resumes outer rest final) (ht : Tail bracket.closing items t)
    (hi : ∀ i ∈ items, SkipsItem bracket i) : Resumes (bracket :: outer) (t ++ rest) final := by
  induction ht
  case close hw =>
    rw [List.append_assoc]
    exact hr.close hw bracket
  case next w w' item items t hw hw' ht hi' =>
    have hresumes := hi' fun i hmem => hi i (List.mem_cons_of_mem _ hmem)
    obtain ⟨cs, henter, hlength, hskip⟩ :=
      hi item List.mem_cons_self w' outer _ final hw' (ht.endsNumber (closing_mem bracket) rest) hresumes
    simp only [List.append_assoc, List.cons_append]
    refine .more (afterItem_comma hw henter outer) ?_ hskip
    simp only [List.length_append, List.length_cons] at hlength ⊢
    omega

theorem skips_bracketed (bracket : Bracket) (hb : Bracketed bracket.opening bracket.closing items t)
    (hs : ∀ i ∈ items, Starts i) (hi : ∀ i ∈ items, SkipsItem bracket i) : Skips t := by
  intro w brackets rest final hw hr hresumes
  cases hb
  case empty w' hw' =>
    have hstep : skipStep brackets (w ++ bracket.opening :: (w' ++ bracket.closing :: rest)) =
        afterItem brackets rest := by
      rw [skipStep_opening hw, afterOpening_close hw']
    simp only [List.append_assoc, List.cons_append, List.nil_append]
    refine skipFrom_of_afterItem hstep ?_ hresumes
    simp only [List.length_append, List.length_cons]
    omega
  case items w' item items t hw' ht =>
    have htail := hresumes.tail ht fun i hmem => hi i (List.mem_cons_of_mem _ hmem)
    obtain ⟨cs, henter, hlength, hskip⟩ := hi item List.mem_cons_self [] brackets _ final blanks_nil
      (ht.endsNumber (closing_mem bracket) rest) htail
    have hstep : skipStep brackets (w ++ bracket.opening :: (w' ++ (item ++ (t ++ rest)))) =
        .ok (.more (bracket :: brackets) cs) := by
      rw [skipStep_opening hw, afterOpening_item hw' (hs item List.mem_cons_self) henter]
    simp only [List.append_assoc, List.cons_append]
    rw [skipFrom, Text.scan_of_more hstep ?_]
    · exact hskip
    · simp only [List.nil_append, List.length_append, List.length_cons] at hlength ⊢
      omega

theorem skipsItem_element (h : Skips item) : SkipsItem .array item :=
  fun w outer rest final hw hr hresumes => ⟨_, rfl, Nat.le_refl _, h w (.array :: outer) rest final hw hr hresumes⟩

theorem skipsItem_member {m : List Char × List Char} (hm : Member m item) (hk : Marks m.1) (hv : Skips m.2) :
    SkipsItem .object item := by
  obtain ⟨w₁, w₂, hw₁, hw₂, rfl⟩ := hm
  intro w outer rest final hw hr hresumes
  refine ⟨w₂ ++ (m.2 ++ rest), ?_, ?_, hv w₂ _ rest final hw₂ hr hresumes⟩
  · simp only [List.append_assoc, List.cons_append]
    rw [enterItem, skipBlanks_to hw rfl]
    simp only [skipString_append hk, ok_bind, readColon_append hw₁]
  · simp only [List.length_append, List.length_cons]
    omega

theorem Member.starts {m : List Char × List Char} (h : Member m item) : Starts item := by
  obtain ⟨_, _, _, _, rfl⟩ := h
  exact ⟨'"', _, rfl, rfl, by decide, by decide⟩

theorem skips_word {word : String} (h : word ∈ ["null", "true", "false"]) : Skips word.toList := by
  simp only [List.mem_cons, List.not_mem_nil, or_false] at h
  refine skips_of_step (by obtain rfl | rfl | rfl := h <;> decide) fun w brackets rest hw hr => ?_
  obtain rfl | rfl | rfl := h
  · have hword : skipBlanks (w ++ ("null".toList ++ rest)) = 'n' :: ("ull".toList ++ rest) := skipBlanks_to hw rfl _
    simp only [skipStep, hword, readWord_append, ok_bind]
  · have hword : skipBlanks (w ++ ("true".toList ++ rest)) = 't' :: ("rue".toList ++ rest) := skipBlanks_to hw rfl _
    simp only [skipStep, hword, readWord_append, ok_bind]
  · have hword : skipBlanks (w ++ ("false".toList ++ rest)) = 'f' :: ("alse".toList ++ rest) := skipBlanks_to hw rfl _
    simp only [skipStep, hword, readWord_append, ok_bind]

theorem skips_number (h : Unsigned t) : Skips t := by
  obtain ⟨d, t', ht, hd⟩ := h.exists_digit
  refine skips_of_step (by simp [ht]) fun w brackets rest hw hr => ?_
  obtain ⟨n, hn⟩ := @readNumber_append _ _ .malformed h hr
  have hne : ∀ c, c.isDigit = false → d ≠ c := fun c => ne_of_isDigit hd
  rw [ht, List.cons_append] at hn ⊢
  rw [skipStep, skipBlanks_to hw (isBlank_digit hd)]
  split
  case h_9 heq =>
    cases heq
    simp only [hd, if_true, hn, ok_bind]
  all_goals simp_all

theorem WellFormed.skips (h : WellFormed t) : Skips t := by
  induction h
  case word hw => exact skips_word hw
  case number hn => exact skips_number hn
  case negative hn =>
    refine skips_of_step (List.cons_ne_nil _ _) fun w brackets rest hw hr => ?_
    obtain ⟨n, hn⟩ := @readNumber_append _ _ .malformed hn hr
    rw [List.cons_append, skipStep, skipBlanks_to hw rfl]
    simp only [hn, ok_bind]
  case text ht =>
    refine skips_of_step (List.cons_ne_nil _ _) fun w brackets rest hw hr => ?_
    rw [List.cons_append, List.append_assoc, skipStep, skipBlanks_to hw rfl]
    simp only [List.cons_append, List.nil_append, skipString_append ht, ok_bind]
  case array hb hw hi =>
    exact skips_bracketed .array hb (fun i hmem => (hw i hmem).starts) fun i hmem => skipsItem_element (hi i hmem)
  case object members t hb hk _ hi =>
    obtain ⟨items, hitems, hb⟩ := hb
    have hmember : ∀ i ∈ items, ∃ m ∈ members, Member m i :=
      forall_mem_of_zip hitems.length_eq.symm fun p hp =>
        ⟨p.2, (List.of_mem_zip hp).right, List.forall₂_zip (List.Forall₂.flip hitems) hp⟩
    refine skips_bracketed .object hb (fun i hmem => ?_) (fun i hmem => ?_)
    all_goals obtain ⟨m, hm, hmember⟩ := hmember i hmem
    · exact hmember.starts
    · exact skipsItem_member hmember (hk m hm) (hi m hm)

-- A value that is not needed is taken off, whatever it is.
theorem skipValue_append (hw : Blanks w) (h : WellFormed t) (hr : EndsNumber rest) :
    skipValue (w ++ (t ++ rest)) = .ok rest := by
  have hskip := h.skips w [] rest rest hw hr (.done rfl)
  rw [skipFrom] at hskip
  rw [skipValue, hskip]
  rfl

end MarkerLint.Json
