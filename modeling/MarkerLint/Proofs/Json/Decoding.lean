import MarkerLint.Proofs.Json.Reading

namespace MarkerLint.Json

def membersStep (readValue : List Char → Except ReadError (Read Json)) (read : List (String × Json) × Bool)
    (cs : List Char) : Except ReadError (Text.ScanStep (List (String × Json) × Bool) (List (String × Json))) := do
  let (more, rest) ← nextMember read.2 cs
  if more then
    let (key, rest) ← readString rest
    let (value, rest) ← readValue (← readColon rest)
    .ok (.more ((key, value) :: read.1, false) rest)
  else
    .ok (.done read.1.reverse rest)

-- Brackets may be nested up to some depth.
def readValue : Nat → List Char → Except ReadError (Read Json)
  | 0, _ => .error .malformed
  | depth + 1, cs =>
    match skipBlanks cs with
    | 'n' :: rest => do .ok (.null, ← readWord "ull".toList rest)
    | 't' :: rest => do .ok (.bool true, ← readWord "rue".toList rest)
    | 'f' :: rest => do .ok (.bool false, ← readWord "alse".toList rest)
    | '"' :: rest => do
      let (s, rest) ← readString rest
      .ok (.text s, rest)
    | '[' :: rest => do
      let (elements, rest) ← Text.scan .malformed (elementsStep (readValue depth)) ([], true) rest
      .ok (.array elements, rest)
    | '{' :: rest => do
      let (members, rest) ← Text.scan .malformed (membersStep (readValue depth)) ([], true) rest
      .ok (.object members, rest)
    | cs => do
      let (n, rest) ← readNumber .truncated cs
      if n.places = 0 ∧ n.exponent = 0 then .ok (.number (Text.decimalValue n.digits), rest) else .error .mismatch

def IsMember (readValue : List Char → Except ReadError (Read Json)) (text : List Char)
    (member : String × Json) : Prop :=
  ∃ m, Member m text ∧ Spells m.1 member.1.toList ∧ Reads readValue m.2 member.2

variable {w w' t rest : List Char} {v : Json} {depth : Nat}

section

variable {readValue : List Char → Except ReadError (Read Json)}

theorem membersStep_takesItems :
    TakesItems '}' (membersStep readValue) Prod.mk List.reverse (Pushes (IsMember readValue)) where
  ne_nil := by
    rintro text read read' ⟨member, ⟨m, ⟨w, w', _, _, rfl⟩, _⟩, -⟩
    exact List.cons_ne_nil _ _
  close first rest hw := by
    rw [membersStep, nextMember_close hw, ok_bind]
    rfl
  more := by
    rintro first lead text read read' rest hl ⟨member, ⟨m, ⟨w, w', hw, hw', rfl⟩, hkey, hread⟩, rfl⟩ hr
    have hread := hread w' rest hw' hr
    simp only [List.cons_append, List.append_assoc]
    rw [membersStep, nextMember_lead hl, ok_bind]
    simp only [if_true, readString_append hkey, readColon_append hw, ok_bind, hread]

theorem scan_members {texts : List (List Char)} {members : List (String × Json)} (hb : Bracketed '{' '}' texts t)
    (hm : List.Forall₂ (IsMember readValue) texts members) :
    ∃ body, t = '{' :: body ∧
      ∀ rest, Text.scan .malformed (membersStep readValue) ([], true) (body ++ rest) = .ok (members, rest) := by
  obtain ⟨body, ht, hscan⟩ := membersStep_takesItems.scan_bracketed (by simp) hb (acts_pushes hm [])
  simp only [List.append_nil, List.reverse_reverse] at hscan
  exact ⟨body, ht, hscan⟩

end

theorem Tail.length_lt {closing : Char} {items : List (List Char)} {item : List Char} (h : Tail closing items t)
    (hi : item ∈ items) : item.length < t.length := by
  induction h
  case close => cases hi
  case next ht hi' =>
    obtain rfl | hi := List.mem_cons.mp hi
    · simp only [List.length_append, List.length_cons]
      omega
    · have := hi' hi
      simp only [List.length_append, List.length_cons]
      omega

theorem Bracketed.length_lt {opening closing : Char} {items : List (List Char)} {item : List Char}
    (h : Bracketed opening closing items t) (hi : item ∈ items) : item.length < t.length := by
  cases h
  case empty => cases hi
  case items ht =>
    obtain rfl | hi := List.mem_cons.mp hi
    · simp only [List.length_append, List.length_cons]
      omega
    · have := ht.length_lt hi
      simp only [List.length_append, List.length_cons]
      omega

theorem Braced.length_lt {members : List (List Char × List Char)} {m : List Char × List Char} (h : Braced members t)
    (hm : m ∈ members) : m.2.length < t.length := by
  obtain ⟨items, hitems, hb⟩ := h
  refine forall_mem_of_zip (P := fun m => m.2.length < t.length) hitems.length_eq (fun p hp => ?_) m hm
  obtain ⟨w, w', _, _, hitem⟩ := List.forall₂_zip hitems hp
  have hlt := hb.length_lt (List.of_mem_zip hp).2
  simp only [hitem, List.length_append, List.length_cons] at hlt
  omega

theorem readValue_number {ds : List Char} (hw : Blanks w) (h : Whole ds) (hr : EndsNumber rest) :
    readValue (depth + 1) (w ++ (ds ++ rest)) = .ok (.number (Text.decimalValue ds), rest) := by
  have hnumber := @readNumber_whole _ _ .truncated h hr
  obtain ⟨d, t, rfl, hd⟩ := h.exists_digit
  have hne : ∀ c, c.isDigit = false → d ≠ c := fun c => ne_of_isDigit hd
  rw [List.cons_append] at hnumber ⊢
  rw [readValue, skipBlanks_to hw (isBlank_digit hd)]
  split
  case h_7 =>
    rw [hnumber, ok_bind]
    rfl
  all_goals simp_all

-- Items are shorter than the text they stand in, so one level less is enough for them.
theorem Denotes.reads (h : Denotes t v) (hd : t.length < depth) : Reads (readValue depth) t v := by
  induction h generalizing depth
  all_goals
    obtain _ | depth := depth
    · exact absurd hd (Nat.not_lt_zero _)
    intro w rest hw hr
  case null =>
    have hword : skipBlanks (w ++ ("null".toList ++ rest)) = 'n' :: ("ull".toList ++ rest) := skipBlanks_to hw rfl _
    simp only [readValue, hword, readWord_append, ok_bind]
  case true =>
    have hword : skipBlanks (w ++ ("true".toList ++ rest)) = 't' :: ("rue".toList ++ rest) := skipBlanks_to hw rfl _
    simp only [readValue, hword, readWord_append, ok_bind]
  case false =>
    have hword : skipBlanks (w ++ ("false".toList ++ rest)) = 'f' :: ("alse".toList ++ rest) := skipBlanks_to hw rfl _
    simp only [readValue, hword, readWord_append, ok_bind]
  case number hn => exact readValue_number hw hn hr
  case text ht =>
    rw [List.cons_append, List.append_assoc, readValue, skipBlanks_to hw rfl]
    simp only [List.cons_append, List.nil_append, readString_append ht, ok_bind]
  case array items elements t hb hl hdenotes hi =>
    have helements : List.Forall₂ (IsElement (readValue depth)) items elements := by
      refine List.forall₂_iff_zip.mpr ⟨hl, fun {item element} hp => ⟨(hdenotes _ hp).wellFormed.starts, ?_⟩⟩
      exact hi _ hp (Nat.lt_of_lt_of_le (hb.length_lt (List.of_mem_zip hp).1) (Nat.le_of_lt_succ hd))
    obtain ⟨body, rfl, hscan⟩ := scan_elements hb helements
    rw [List.cons_append, readValue, skipBlanks_to hw rfl]
    simp only [hscan, ok_bind]
  case object texts members t hb hl hkeys _ hi =>
    have hmembers : List.Forall₂ (fun m member => Spells m.1 member.1.toList ∧ Reads (readValue depth) m.2 member.2)
        texts members := by
      refine List.forall₂_iff_zip.mpr ⟨hl, fun {m member} hp => ⟨hkeys _ hp, ?_⟩⟩
      exact hi _ hp (Nat.lt_of_lt_of_le (hb.length_lt (List.of_mem_zip hp).1) (Nat.le_of_lt_succ hd))
    obtain ⟨items, hitems, hb⟩ := hb
    obtain ⟨body, rfl, hscan⟩ := scan_members hb (forall₂_through hitems hmembers)
    rw [List.cons_append, readValue, skipBlanks_to hw rfl]
    simp only [hscan, ok_bind]

end MarkerLint.Json
