import Mathlib.Data.List.Forall2
import MarkerLint.Json.Reader
import MarkerLint.Json.Value

-- The grammar of JSON, and that values are written by it. Numbers may have a fraction and an exponent, characters
-- may be escaped, and there may be blanks between tokens. A text denotes a value if its numbers are natural and its
-- surrogates come in pairs. The written form of a value denotes it.

namespace MarkerLint.Json

def Blanks (w : List Char) : Prop :=
  ∀ c ∈ w, isBlank c

structure Digits (ds : List Char) : Prop where
  ne_nil : ds ≠ []
  isDigit : ∀ c ∈ ds, c.isDigit

-- Only the number zero begins with a zero.
inductive Whole : List Char → Prop
  | zero : Whole ['0']
  | digits {ds} : Digits ds → ds.head? ≠ some '0' → Whole ds

inductive Fraction : List Char → Prop
  | absent : Fraction []
  | point {ds} : Digits ds → Fraction ('.' :: ds)

inductive Exponent : List Char → Prop
  | absent : Exponent []
  | power {e sign ds} : e ∈ ['e', 'E'] → sign ∈ [[], ['+'], ['-']] → Digits ds → Exponent (e :: (sign ++ ds))

-- A number without its sign.
def Unsigned (t : List Char) : Prop :=
  ∃ whole fraction exponent, Whole whole ∧ Fraction fraction ∧ Exponent exponent ∧ t = whole ++ (fraction ++ exponent)

structure Hex4 (ds : List Char) (n : Nat) : Prop where
  length : ds.length = 4
  value : Text.hexValue? ds = some n

def IsHigh (n : Nat) : Prop :=
  0xd800 ≤ n ∧ n ≤ 0xdbff

def IsLow (n : Nat) : Prop :=
  0xdc00 ≤ n ∧ n ≤ 0xdfff

-- A character that stands for itself in a string.
def IsPlain (c : Char) : Prop :=
  c ≠ '"' ∧ c ≠ '\\' ∧ 0x20 ≤ c.toNat

-- The ways to write a character in a string.
inductive Glyph : List Char → Char → Prop
  | plain {c} : IsPlain c → Glyph [c] c
  | short {e c} : shortEscape? e = some c → Glyph ['\\', e] c
  | unicode {ds n} : Hex4 ds n → ¬IsHigh n → ¬IsLow n → Glyph ('\\' :: 'u' :: ds) (Char.ofNat n)
  | pair {ds es n m} : Hex4 ds n → IsHigh n → Hex4 es m → IsLow m →
    Glyph ('\\' :: 'u' :: (ds ++ '\\' :: 'u' :: es)) (Char.ofNat (0x10000 + (n - 0xd800) * 0x400 + (m - 0xdc00)))

-- The ways to write a row of characters between quotes.
inductive Spells : List Char → List Char → Prop
  | nil : Spells [] []
  | cons {g c t cs} : Glyph g c → Spells t cs → Spells (g ++ t) (c :: cs)

-- What may stand between quotes if it need not stand for anything.
inductive Marks : List Char → Prop
  | nil : Marks []
  | plain {c t} : IsPlain c → Marks t → Marks (c :: t)
  | short {e t} : (shortEscape? e).isSome → Marks t → Marks ('\\' :: e :: t)
  | unicode {ds n t} : Hex4 ds n → Marks t → Marks ('\\' :: 'u' :: (ds ++ t))

-- What comes behind an item up to the closing bracket: more items, each behind a comma.
inductive Tail (closing : Char) : List (List Char) → List Char → Prop
  | close {w} : Blanks w → Tail closing [] (w ++ [closing])
  | next {w w' item items t} : Blanks w → Blanks w' → Tail closing items t →
    Tail closing (item :: items) (w ++ ',' :: (w' ++ (item ++ t)))

inductive Bracketed (opening closing : Char) : List (List Char) → List Char → Prop
  | empty {w} : Blanks w → Bracketed opening closing [] (opening :: (w ++ [closing]))
  | items {w item items t} : Blanks w → Tail closing items t →
    Bracketed opening closing (item :: items) (opening :: (w ++ (item ++ t)))

-- A member of an object, given what stands between the quotes of its key, and its value.
def Member (m : List Char × List Char) (t : List Char) : Prop :=
  ∃ w w', Blanks w ∧ Blanks w' ∧ t = '"' :: (m.1 ++ '"' :: (w ++ ':' :: (w' ++ m.2)))

def Braced (members : List (List Char × List Char)) (t : List Char) : Prop :=
  ∃ items, List.Forall₂ Member members items ∧ Bracketed '{' '}' items t

inductive WellFormed : List Char → Prop
  | word {word} : word ∈ ["null", "true", "false"] → WellFormed word.toList
  | number {t} : Unsigned t → WellFormed t
  | negative {t} : Unsigned t → WellFormed ('-' :: t)
  | text {t} : Marks t → WellFormed ('"' :: (t ++ ['"']))
  | array {items t} : Bracketed '[' ']' items t → (∀ i ∈ items, WellFormed i) → WellFormed t
  | object {members t} : Braced members t → (∀ m ∈ members, Marks m.1) → (∀ m ∈ members, WellFormed m.2) →
    WellFormed t

inductive Denotes : List Char → Json → Prop
  | null : Denotes "null".toList .null
  | true : Denotes "true".toList (.bool true)
  | false : Denotes "false".toList (.bool false)
  | number {ds} : Whole ds → Denotes ds (.number (Text.decimalValue ds))
  | text {t s} : Spells t s.toList → Denotes ('"' :: (t ++ ['"'])) (.text s)
  | array {items elements t} : Bracketed '[' ']' items t → items.length = elements.length →
    (∀ p ∈ items.zip elements, Denotes p.1 p.2) → Denotes t (.array elements)
  | object {texts members t} : Braced texts t → texts.length = members.length →
    (∀ p ∈ texts.zip members, Spells p.1.1 p.2.1.toList) → (∀ p ∈ texts.zip members, Denotes p.1.2 p.2.2) →
    Denotes t (.object members)

section

variable {w t t' ds g : List Char} {c : Char} {n : Nat} {s : String} {v : Json}

theorem Marks.append (h : Marks t) (h' : Marks t') : Marks (t ++ t') := by
  induction h
  case nil => exact h'
  case plain hc _ hi => exact .plain hc hi
  case short he _ hi => exact .short he hi
  case unicode ds _ _ hd _ hi =>
    rw [List.cons_append, List.cons_append, List.append_assoc]
    exact .unicode hd hi

theorem Hex4.marks (h : Hex4 ds n) : Marks ('\\' :: 'u' :: ds) := by
  have := Marks.unicode h .nil
  rwa [List.append_nil] at this

theorem Glyph.marks (h : Glyph g c) : Marks g := by
  cases h
  case plain hc => exact .plain hc .nil
  case short he => exact .short (Option.isSome_of_eq_some he) .nil
  case unicode hd _ _ => exact hd.marks
  case pair hd _ he _ => exact .unicode hd he.marks

theorem Spells.marks {cs : List Char} (h : Spells t cs) : Marks t := by
  induction h
  case nil => exact .nil
  case cons hg _ hi => exact hg.marks.append hi

theorem forall_mem_of_zip {α β : Type} {P : α → Prop} {as : List α} {bs : List β} (hl : as.length = bs.length)
    (h : ∀ p ∈ as.zip bs, P p.1) : ∀ a ∈ as, P a := by
  rw [← List.map_fst_zip (Nat.le_of_eq hl)]
  exact List.forall_mem_map.mpr h

-- Two lists that are related to a third one are related to each other.
theorem forall₂_through {α β γ : Type} {R : α → β → Prop} {Q : α → γ → Prop} {as : List α} {bs : List β} {cs : List γ}
    (hr : List.Forall₂ R as bs) (hq : List.Forall₂ Q as cs) :
    List.Forall₂ (fun b c => ∃ a, R a b ∧ Q a c) bs cs := by
  induction hr generalizing cs
  case nil =>
    cases hq
    exact .nil
  case cons hr _ hi =>
    cases hq
    case cons hq hqs => exact .cons ⟨_, hr, hq⟩ (hi hqs)

theorem Denotes.wellFormed (h : Denotes t v) : WellFormed t := by
  induction h
  case null | true | false => exact .word (by simp)
  case number ds hd => exact .number ⟨ds, [], [], hd, .absent, .absent, by simp⟩
  case text hs => exact .text hs.marks
  case array hb hl _ hi => exact .array hb (forall_mem_of_zip hl hi)
  case object hb hl hs _ hi =>
    exact .object hb (forall_mem_of_zip hl fun p hp => (hs p hp).marks) (forall_mem_of_zip hl hi)

end

-- How values are written.

theorem blanks_nil : Blanks [] :=
  List.forall_mem_nil _

theorem blanks_newline (depth : Nat) : Blanks (newline depth) := by
  intro c hc
  obtain rfl | hc := List.mem_cons.mp hc
  · rfl
  · rw [List.eq_of_mem_replicate hc]
    rfl

theorem flatten_intersperse (separator item : List Char) (items : List (List Char)) :
    ((item :: items).intersperse separator).flatten = item ++ (items.map (separator ++ ·)).flatten := by
  induction items generalizing item
  case nil => simp
  case cons i items hi => simp [hi]

theorem tail_flatten (closing : Char) (depth : Nat) (items : List (List Char)) :
    Tail closing items
      ((items.map (',' :: newline (depth + 1) ++ ·)).flatten ++ (newline depth ++ [closing])) := by
  induction items
  case nil => exact .close (blanks_newline depth)
  case cons item items hi =>
    have hnext := @Tail.next closing [] _ item _ _ blanks_nil (blanks_newline (depth + 1)) hi
    simpa using hnext

theorem bracketed_items (opening closing : Char) (depth : Nat) (items : List (List Char)) :
    Bracketed opening closing items (bracketed opening closing depth items) := by
  cases items
  case nil => exact @Bracketed.empty opening closing [] blanks_nil
  case cons item items =>
    have hitems : Bracketed opening closing (item :: items) _ :=
      .items (blanks_newline (depth + 1)) (tail_flatten closing depth items)
    simpa only [bracketed, flatten_intersperse, List.cons_append, List.append_assoc] using hitems

theorem hex4_control : ∀ n < 0x20, Hex4 ['0', '0', hexChar (n / 16), hexChar (n % 16)] n := by
  have hvalue : ∀ n < 0x20, Text.hexValue? ['0', '0', hexChar (n / 16), hexChar (n % 16)] = some n := by decide
  exact fun n hn => ⟨rfl, hvalue n hn⟩

theorem glyph_escapeChar (c : Char) : Glyph (escapeChar c) c := by
  unfold escapeChar
  split
  case h_8 hquote hbackslash _ _ _ _ _ =>
    split
    case isTrue h =>
      have hglyph := Glyph.unicode (hex4_control c.toNat h) (by simp only [IsHigh]; omega) (by simp only [IsLow]; omega)
      rwa [Char.ofNat_toNat] at hglyph
    case isFalse h => exact .plain ⟨hquote, hbackslash, Nat.le_of_not_lt h⟩
  all_goals exact .short rfl

theorem spells_flatMap (cs : List Char) : Spells (cs.flatMap escapeChar) cs := by
  induction cs
  case nil => exact .nil
  case cons c cs hi => exact .cons (glyph_escapeChar c) hi

theorem decimalValue_toDigits (n : Nat) : Text.decimalValue (Nat.toDigits 10 n) = n := by
  have hfold : ∀ ds, Text.decimalValue ds = Nat.ofDigitChars 10 ds 0 := by
    intro ds
    rw [Nat.ofDigitChars_eq_foldl, Text.decimalValue]
    congr 1
    funext value c
    rw [Nat.mul_comm]
  rw [hfold, Nat.ofDigitChars_ten_toDigits]

theorem head?_toDigits {n : Nat} (h : n ≠ 0) : (Nat.toDigits 10 n).head? ≠ some '0' := by
  induction n using Nat.strongRecOn
  case _ n hi =>
    by_cases hn : n < 10
    case pos =>
      rw [Nat.toDigits_of_lt_base hn]
      simpa using h
    case neg =>
      rw [Nat.toDigits_of_base_le (by decide) (Nat.le_of_not_lt hn), List.head?_append_of_ne_nil _ Nat.toDigits_ne_nil]
      exact hi (n / 10) (by omega) (by omega)

theorem whole_toDigits (n : Nat) : Whole (Nat.toDigits 10 n) := by
  by_cases h : n = 0
  case pos =>
    rw [h, Nat.toDigits_zero]
    exact .zero
  case neg =>
    exact .digits ⟨Nat.toDigits_ne_nil, fun _ => Nat.isDigit_of_mem_toDigits (by decide) (by decide)⟩ (head?_toDigits h)

theorem renderElements_eq (depth : Nat) (elements : List Json) :
    renderElements depth elements = elements.map (render depth) := by
  induction elements
  case nil => rfl
  case cons v elements hi => rw [renderElements, hi, List.map_cons]

theorem renderMembers_eq (depth : Nat) (members : List (String × Json)) :
    renderMembers depth members =
      members.map fun m => quote m.1 ++ ':' :: ' ' :: render depth m.2 := by
  induction members
  case nil => rfl
  case cons m members hi => rw [renderMembers, hi, List.map_cons]

theorem forall_mem_zip_map {α β : Type} {P : α × β → Prop} {f : β → α} {bs : List β} (h : ∀ b ∈ bs, P (f b, b)) :
    ∀ p ∈ (bs.map f).zip bs, P p := by
  have hzip : (bs.map f).zip bs = bs.map fun b => (f b, b) := by
    simpa using @List.zip_map' _ _ _ f id bs
  rw [hzip]
  exact List.forall_mem_map.mpr h

theorem member_quote (key : String) (value : List Char) :
    Member (key.toList.flatMap escapeChar, value) (quote key ++ ':' :: ' ' :: value) := by
  refine ⟨[], [' '], blanks_nil, List.forall_mem_singleton.mpr rfl, ?_⟩
  simp [quote]

theorem denotes_render (depth : Nat) (v : Json) : Denotes (v.render depth) v := by
  cases v
  case null => exact .null
  case bool b =>
    cases b
    case false => exact .false
    case true => exact .true
  case number n =>
    have hnumber := Denotes.number (whole_toDigits n)
    rwa [decimalValue_toDigits] at hnumber
  case text s => exact .text (spells_flatMap s.toList)
  case array elements =>
    rw [render, renderElements_eq]
    refine .array (bracketed_items ..) (List.length_map ..) (forall_mem_zip_map fun e he => ?_)
    exact denotes_render (depth + 1) e
  case object members =>
    rw [render, renderMembers_eq]
    let texts := members.map fun m => (m.1.toList.flatMap escapeChar, m.2.render (depth + 1))
    have hmembers : List.Forall₂ Member texts
        (members.map fun m => quote m.1 ++ ':' :: ' ' :: m.2.render (depth + 1)) := by
      rw [List.forall₂_map_left_iff, List.forall₂_map_right_iff, List.forall₂_same]
      exact fun m _ => member_quote m.1 _
    refine .object ⟨_, hmembers, bracketed_items ..⟩ (List.length_map ..) ?_ ?_
    · exact forall_mem_zip_map fun m _ => spells_flatMap m.1.toList
    · exact forall_mem_zip_map fun m hm => denotes_render (depth + 1) m.2
termination_by sizeOf v
decreasing_by
  · have := List.sizeOf_lt_of_mem he
    simp only [array.sizeOf_spec]
    omega
  · have := List.sizeOf_lt_of_mem hm
    have : sizeOf m = 1 + sizeOf m.1 + sizeOf m.2 := rfl
    simp only [object.sizeOf_spec]
    omega

end MarkerLint.Json
