import Mathlib.Data.List.TakeDrop
import MarkerLint.Proofs.Json.Grammar
import MarkerLint.Proofs.Text.Positions

namespace MarkerLint

namespace Text

variable {σ α ε : Type} {stuck : ε} {step : σ → List Char → Except ε (ScanStep σ α)} {state state' : σ}
variable {text rest : List Char} {result : α}

theorem scan_of_more (h : step state text = .ok (.more state' rest)) (hl : rest.length < text.length) :
    scan stuck step state text = scan stuck step state' rest := by
  rw [scan, h]
  exact if_pos hl

theorem scan_of_done (h : step state text = .ok (.done result rest)) :
    scan stuck step state text = .ok (result, rest) := by
  rw [scan, h]

theorem takeExactly?_append (taken rest : List Char) :
    takeExactly? taken.length (taken ++ rest) = some (taken, rest) := by
  induction taken
  case nil => rfl
  case cons c taken hi => simp [takeExactly?, hi]

end Text

namespace Json

-- A number cannot go on here.
def EndsNumber (rest : List Char) : Prop :=
  ∀ c ∈ rest.head?, c.isDigit = false ∧ c ≠ '.' ∧ c ≠ 'e' ∧ c ≠ 'E'

-- A value or a member begins here.
def Starts (item : List Char) : Prop :=
  ∃ c t, item = c :: t ∧ isBlank c = false ∧ c ≠ ']' ∧ c ≠ '}'

-- What stands between an item and the one before it, if there is one.
inductive Leads : Bool → List Char → Prop
  | first {w} : Blanks w → Leads true w
  | next {w w'} : Blanks w → Blanks w' → Leads false (w ++ ',' :: w')

-- Items change the state of a scan one after the other.
inductive Acts {ι σ : Type} (act : ι → σ → σ → Prop) : List ι → σ → σ → Prop
  | nil {x} : Acts act [] x x
  | cons {i is x y z} : act i x y → Acts act is y z → Acts act (i :: is) x z

-- A step of a scan takes one item off, or the closing bracket.
structure TakesItems {S σ α : Type} (closing : Char) (step : S → List Char → Except ReadError (Text.ScanStep S α))
    (state : σ → Bool → S) (result : σ → α) (act : List Char → σ → σ → Prop) : Prop where
  ne_nil {item x y} : act item x y → item ≠ []
  close {w x} (first rest) : Blanks w → step (state x first) (w ++ closing :: rest) = .ok (.done (result x) rest)
  more {first lead item x y rest} : Leads first lead → act item x y → EndsNumber rest →
    step (state x first) (lead ++ (item ++ rest)) = .ok (.more (state y false) rest)

variable {w t ds g rest : List Char} {c : Char} {n : Nat} {s : String}

theorem ok_bind {α β : Type} (a : α) (f : α → Except ReadError β) : (Except.ok a >>= f) = f a :=
  rfl

theorem skipBlanks_append (hw : Blanks w) (t : List Char) : skipBlanks (w ++ t) = skipBlanks t :=
  List.dropWhile_append_of_pos hw

theorem skipBlanks_blanks (hw : Blanks w) : skipBlanks w = [] := by
  have hskip := skipBlanks_append hw []
  rwa [List.append_nil] at hskip

theorem skipBlanks_cons (hc : isBlank c = false) (t : List Char) : skipBlanks (c :: t) = c :: t :=
  List.dropWhile_cons_of_neg (by simp [hc])

theorem skipBlanks_to (hw : Blanks w) (hc : isBlank c = false) (t : List Char) :
    skipBlanks (w ++ c :: t) = c :: t := by
  rw [skipBlanks_append hw, skipBlanks_cons hc]

theorem readWord_append (word rest : List Char) : readWord word (word ++ rest) = .ok rest := by
  induction word
  case nil => rfl
  case cons c word hi => exact (if_pos rfl).trans hi

-- Strings.

theorem readHex4_append (h : Hex4 ds n) (rest : List Char) : readHex4 (ds ++ rest) = .ok (n, rest) := by
  have hbytes : ¬Text.bytes (ds ++ rest) < 4 := by
    have := Text.length_le_bytes ds
    have := h.length
    rw [Text.bytes_append]
    omega
  have htake := Text.takeExactly?_append ds rest
  rw [h.length] at htake
  rw [readHex4, if_neg hbytes, htake]
  simp [h.value]

theorem readUnicode_append (h : Hex4 ds n) (hh : ¬IsHigh n) (hl : ¬IsLow n) (rest : List Char) :
    readUnicode (ds ++ rest) = .ok (Char.ofNat n, rest) := by
  rw [readUnicode, readHex4_append h]
  exact (if_neg hl).trans (if_neg hh)

theorem readUnicode_pair {es : List Char} {m : Nat} (hd : Hex4 ds n) (hh : IsHigh n) (he : Hex4 es m)
    (hl : IsLow m) (rest : List Char) :
    readUnicode (ds ++ ('\\' :: 'u' :: (es ++ rest))) =
      .ok (Char.ofNat (0x10000 + (n - 0xd800) * 0x400 + (m - 0xdc00)), rest) := by
  have hlow : ¬IsLow n := by
    simp only [IsHigh, IsLow] at hh ⊢
    omega
  rw [readUnicode, readHex4_append hd]
  refine (if_neg hlow).trans ((if_pos hh).trans ?_)
  simp only [readHex4_append he]
  exact if_pos hl

theorem stringStep_plain (h : IsPlain c) (read rest : List Char) :
    stringStep read (c :: rest) = .ok (.more (c :: read) rest) := by
  obtain ⟨hquote, hbackslash, hcontrol⟩ := h
  unfold stringStep
  split
  case h_6 heq =>
    cases heq
    exact if_neg (Nat.not_lt.mpr hcontrol)
  all_goals simp_all

theorem stringStep_short {e : Char} (h : shortEscape? e = some c) (read rest : List Char) :
    stringStep read ('\\' :: e :: rest) = .ok (.more (c :: read) rest) := by
  have hu : e ≠ 'u' := by
    rintro rfl
    cases h
  rw [stringStep, h]
  exact hu

theorem stringStep_unicode {rest' : List Char} (h : readUnicode rest = .ok (c, rest')) (read : List Char) :
    stringStep read ('\\' :: 'u' :: rest) = .ok (.more (c :: read) rest') := by
  simp only [stringStep, h]
  rfl

theorem stringStep_glyph (h : Glyph g c) (read rest : List Char) :
    stringStep read (g ++ rest) = .ok (.more (c :: read) rest) := by
  cases h
  case plain hc => exact stringStep_plain hc read rest
  case short he => exact stringStep_short he read rest
  case unicode hd hh hl => exact stringStep_unicode (readUnicode_append hd hh hl rest) read
  case pair ds es n m hd hh he hl =>
    have hpair := stringStep_unicode (readUnicode_pair hd hh he hl rest) read
    simpa only [List.cons_append, List.append_assoc] using hpair

theorem Glyph.ne_nil (h : Glyph g c) : g ≠ [] := by
  cases h
  all_goals exact List.cons_ne_nil _ _

theorem length_lt_append (hg : g ≠ []) (rest : List Char) : rest.length < (g ++ rest).length := by
  have := List.length_pos_iff.mpr hg
  rw [List.length_append]
  omega

theorem scan_stringStep {cs : List Char} (h : Spells t cs) (read rest : List Char) :
    Text.scan .malformed stringStep read (t ++ '"' :: rest) =
      .ok (String.ofList (read.reverse ++ cs), rest) := by
  induction h generalizing read
  case nil =>
    rw [List.append_nil]
    exact Text.scan_of_done rfl
  case cons g c t cs hg _ hi =>
    rw [List.append_assoc, Text.scan_of_more (stringStep_glyph hg read _) (length_lt_append hg.ne_nil _), hi]
    simp

theorem readString_append (h : Spells t s.toList) (rest : List Char) :
    readString (t ++ '"' :: rest) = .ok (s, rest) := by
  rw [readString, scan_stringStep h]
  simp

theorem skipStringStep_plain (h : IsPlain c) (rest : List Char) :
    skipStringStep () (c :: rest) = .ok (.more () rest) := by
  obtain ⟨hquote, hbackslash, hcontrol⟩ := h
  unfold skipStringStep
  split
  case h_6 heq =>
    cases heq
    exact if_neg (Nat.not_lt.mpr hcontrol)
  all_goals simp_all

theorem skipStringStep_short {e : Char} (h : (shortEscape? e).isSome) (rest : List Char) :
    skipStringStep () ('\\' :: e :: rest) = .ok (.more () rest) := by
  have hu : e ≠ 'u' := by
    rintro rfl
    cases h
  rw [skipStringStep, if_pos h]
  exact hu

theorem skipStringStep_unicode (h : Hex4 ds n) (rest : List Char) :
    skipStringStep () ('\\' :: 'u' :: (ds ++ rest)) = .ok (.more () rest) := by
  simp only [skipStringStep, readHex4_append h]
  rfl

theorem scan_skipStringStep (h : Marks t) (rest : List Char) :
    Text.scan .malformed skipStringStep () (t ++ '"' :: rest) = .ok ((), rest) := by
  induction h
  case nil => exact Text.scan_of_done rfl
  case plain c t hc _ hi => exact (Text.scan_of_more (skipStringStep_plain hc _) (by simp)).trans hi
  case short e t he _ hi =>
    refine (Text.scan_of_more (skipStringStep_short he _) ?_).trans hi
    simp only [List.length_cons]
    omega
  case unicode ds n t hd _ hi =>
    rw [List.cons_append, List.cons_append, List.append_assoc]
    refine (Text.scan_of_more (skipStringStep_unicode hd _) ?_).trans hi
    simp only [List.length_append, List.length_cons]
    omega

theorem skipString_append (h : Marks t) (rest : List Char) : skipString (t ++ '"' :: rest) = .ok rest := by
  rw [skipString, scan_skipStringStep h]
  rfl

-- Numbers.

variable {early : ReadError}

theorem readDigits_append (hd : Digits ds) (hr : ∀ c ∈ rest.head?, c.isDigit = false) :
    readDigits early (ds ++ rest) = .ok (ds, rest) := by
  have hrest : rest.takeWhile Char.isDigit = [] ∧ rest.dropWhile Char.isDigit = rest := by
    cases rest
    case nil => exact ⟨rfl, rfl⟩
    case cons c rest => simp [hr c rfl]
  rw [readDigits, List.span_eq_takeWhile_dropWhile, List.takeWhile_append_of_pos hd.isDigit,
    List.dropWhile_append_of_pos hd.isDigit, hrest.1, hrest.2, List.append_nil]
  exact if_neg (by simpa using hd.ne_nil)

theorem readWhole_append (h : Whole ds) (hr : ∀ c ∈ rest.head?, c.isDigit = false) :
    readWhole early (ds ++ rest) = .ok (ds, rest) := by
  cases h
  case zero =>
    refine if_neg ?_
    cases rest
    case nil => exact Bool.false_ne_true
    case cons c rest => simpa using hr c rfl
  case digits hd hzero =>
    obtain ⟨d, ds, rfl⟩ := List.exists_cons_of_ne_nil hd.ne_nil
    have hd0 : d ≠ '0' := by simpa using hzero
    rw [← readDigits_append hd hr]
    exact readWhole.eq_2 early _ (by simp [hd0])

theorem readFraction_append (h : Fraction t) (hr : ∀ c ∈ rest.head?, c.isDigit = false ∧ c ≠ '.') :
    readFraction early (t ++ rest) = .ok (t.tail, rest) := by
  cases h
  case absent =>
    refine readFraction.eq_2 early _ ?_
    rintro rest' rfl
    exact (hr '.' rfl).2 rfl
  case point ds hd => exact readDigits_append hd fun c hc => (hr c hc).1

theorem readSign_append {sign : List Char} (hs : sign ∈ [[], ['+'], ['-']]) (hd : Digits ds) (rest : List Char) :
    (readSign (sign ++ (ds ++ rest))).2 = ds ++ rest := by
  obtain ⟨d, ds, rfl⟩ := List.exists_cons_of_ne_nil hd.ne_nil
  have hdigit := hd.isDigit d (by simp)
  simp only [List.mem_cons, List.not_mem_nil, or_false] at hs
  obtain rfl | rfl | rfl := hs
  · have hsign : d ≠ '-' ∧ d ≠ '+' := by
      constructor
      all_goals
        rintro rfl
        exact absurd hdigit (by decide)
    simp [readSign, hsign]
  · rfl
  · rfl

theorem readExponent_absent (hr : EndsNumber rest) : readExponent early rest = .ok ((false, 0), rest) := by
  cases rest
  case nil => rfl
  case cons c rest =>
    obtain ⟨_, _, he, hE⟩ := hr c rfl
    exact if_neg (by simp [he, hE])

theorem readExponent_append (h : Exponent t) (hr : EndsNumber rest) :
    ∃ exponent, readExponent early (t ++ rest) = .ok (exponent, rest) := by
  cases h
  case absent => exact ⟨_, readExponent_absent hr⟩
  case power e sign ds he hs hd =>
    have hexponent : (e = 'e' || e = 'E') = true := by simpa using he
    rw [List.cons_append, List.append_assoc, readExponent, if_pos hexponent, readSign_append hs hd,
      readDigits_append hd fun c hc => (hr c hc).1]
    exact ⟨_, rfl⟩

theorem Exponent.endsFraction (h : Exponent t) (hr : EndsNumber rest) :
    ∀ c ∈ (t ++ rest).head?, c.isDigit = false ∧ c ≠ '.' := by
  cases h
  case absent => exact fun c hc => ⟨(hr c hc).1, (hr c hc).2.1⟩
  case power e sign ds he _ _ =>
    rintro c ⟨⟩
    simp only [List.mem_cons, List.not_mem_nil, or_false] at he
    obtain rfl | rfl := he
    all_goals decide

theorem Fraction.endsWhole (h : Fraction t) (hr : ∀ c ∈ rest.head?, c.isDigit = false) :
    ∀ c ∈ (t ++ rest).head?, c.isDigit = false := by
  cases h
  case absent => exact hr
  case point =>
    rintro c ⟨⟩
    rfl

theorem readNumber_parts {whole fraction exponent : List Char} {value : Bool × Nat} (hw : Whole whole)
    (hf : Fraction fraction) (he : Exponent exponent) (hr : EndsNumber rest)
    (hv : readExponent early (exponent ++ rest) = .ok (value, rest)) :
    readNumber early (whole ++ (fraction ++ (exponent ++ rest))) =
      .ok (⟨whole ++ fraction.tail, fraction.tail.length, value.1, value.2⟩, rest) := by
  have hfraction := he.endsFraction hr
  have hwhole := hf.endsWhole fun c hc => (hfraction c hc).1
  simp only [readNumber, readWhole_append hw hwhole, ok_bind, readFraction_append hf hfraction, hv]

theorem readNumber_append (h : Unsigned t) (hr : EndsNumber rest) :
    ∃ n, readNumber early (t ++ rest) = .ok (n, rest) := by
  obtain ⟨whole, fraction, exponent, hw, hf, he, rfl⟩ := h
  obtain ⟨value, hvalue⟩ := @readExponent_append _ _ early he hr
  rw [List.append_assoc, List.append_assoc]
  exact ⟨_, readNumber_parts hw hf he hr hvalue⟩

theorem readNumber_whole (h : Whole ds) (hr : EndsNumber rest) :
    readNumber early (ds ++ rest) = .ok (⟨ds, 0, false, 0⟩, rest) := by
  have hnumber := readNumber_parts h .absent .absent hr (@readExponent_absent _ early hr)
  rwa [List.tail_nil, List.append_nil] at hnumber

-- Items between brackets.

theorem Whole.exists_digit (h : Whole ds) : ∃ d t, ds = d :: t ∧ d.isDigit := by
  cases h
  case zero => exact ⟨'0', [], rfl, rfl⟩
  case digits hd _ =>
    obtain ⟨d, t, rfl⟩ := List.exists_cons_of_ne_nil hd.ne_nil
    exact ⟨d, t, rfl, hd.isDigit d (by simp)⟩

theorem Unsigned.exists_digit (h : Unsigned t) : ∃ d t', t = d :: t' ∧ d.isDigit := by
  obtain ⟨whole, fraction, exponent, hw, _, _, rfl⟩ := h
  obtain ⟨d, t, rfl, hd⟩ := hw.exists_digit
  exact ⟨d, _, rfl, hd⟩

theorem ne_of_isDigit {d : Char} (hd : d.isDigit) (hc : c.isDigit = false) : d ≠ c := by
  rintro rfl
  exact absurd hd (by simp [hc])

theorem isBlank_digit {d : Char} (hd : d.isDigit) : isBlank d = false := by
  have hne : ∀ c, c.isDigit = false → d ≠ c := fun c => ne_of_isDigit hd
  simp [isBlank, hne]

theorem Bracketed.exists_body {opening closing : Char} {items : List (List Char)}
    (h : Bracketed opening closing items t) : ∃ body, t = opening :: body := by
  cases h
  all_goals exact ⟨_, rfl⟩

theorem WellFormed.starts (h : WellFormed t) : Starts t := by
  cases h
  case word word hw =>
    simp only [List.mem_cons, List.not_mem_nil, or_false] at hw
    obtain rfl | rfl | rfl := hw
    all_goals exact ⟨_, _, rfl, rfl, by decide, by decide⟩
  case number hn =>
    obtain ⟨d, t, rfl, hd⟩ := hn.exists_digit
    exact ⟨d, t, rfl, isBlank_digit hd, ne_of_isDigit hd rfl, ne_of_isDigit hd rfl⟩
  case negative => exact ⟨'-', _, rfl, rfl, by decide, by decide⟩
  case text => exact ⟨'"', _, rfl, rfl, by decide, by decide⟩
  case array _ hb =>
    obtain ⟨body, rfl⟩ := hb.exists_body
    exact ⟨'[', _, rfl, rfl, by decide, by decide⟩
  case object hb =>
    obtain ⟨items, _, hb⟩ := hb
    obtain ⟨body, rfl⟩ := hb.exists_body
    exact ⟨'{', _, rfl, rfl, by decide, by decide⟩

theorem endsNumber_blanks (hw : Blanks w) (hr : EndsNumber rest) : EndsNumber (w ++ rest) := by
  cases w
  case nil => exact hr
  case cons b w =>
    rintro c ⟨⟩
    have hb := hw b (by simp)
    simp only [isBlank, Bool.or_eq_true, decide_eq_true_eq] at hb
    obtain ((rfl | rfl) | rfl) | rfl := hb
    all_goals decide

theorem Blanks.endsNumber (hw : Blanks w) : EndsNumber w := by
  have hends := @endsNumber_blanks w [] hw (by rintro c ⟨⟩)
  rwa [List.append_nil] at hends

theorem Tail.endsNumber {closing : Char} {items : List (List Char)} (hc : closing ∈ [']', '}'])
    (h : Tail closing items t) (rest : List Char) : EndsNumber (t ++ rest) := by
  cases h
  case close w hw =>
    rw [List.append_assoc]
    refine endsNumber_blanks hw ?_
    rintro c ⟨⟩
    simp only [List.mem_cons, List.not_mem_nil, or_false] at hc
    obtain rfl | rfl := hc
    all_goals decide
  case next hw _ _ =>
    rw [List.append_assoc]
    refine endsNumber_blanks hw ?_
    rintro c ⟨⟩
    decide

section

variable {S σ α : Type} {closing : Char} {step : S → List Char → Except ReadError (Text.ScanStep S α)}
variable {state : σ → Bool → S} {result : σ → α} {act : List Char → σ → σ → Prop}
variable {items : List (List Char)} {x y : σ}

theorem TakesItems.scan_tail (h : TakesItems closing step state result act) (hc : closing ∈ [']', '}'])
    (ht : Tail closing items t) (ha : Acts act items x y) (rest : List Char) :
    Text.scan .malformed step (state x false) (t ++ rest) = .ok (result y, rest) := by
  induction ht generalizing x
  case close w hw =>
    cases ha
    rw [List.append_assoc]
    exact Text.scan_of_done (h.close false rest hw)
  case next w w' item items t hw hw' ht hi =>
    cases ha
    case cons x' hact hacts =>
      have hmore := h.more (.next hw hw') hact (ht.endsNumber hc rest)
      simp only [List.append_assoc, List.cons_append] at hmore ⊢
      rw [Text.scan_of_more hmore (by simp only [List.length_append, List.length_cons]; omega)]
      exact hi hacts

theorem TakesItems.scan_bracketed {opening : Char} (h : TakesItems closing step state result act)
    (hc : closing ∈ [']', '}']) (hb : Bracketed opening closing items t) (ha : Acts act items x y) :
    ∃ body, t = opening :: body ∧
      ∀ rest, Text.scan .malformed step (state x true) (body ++ rest) = .ok (result y, rest) := by
  cases hb
  case empty w hw =>
    cases ha
    refine ⟨_, rfl, fun rest => ?_⟩
    rw [List.append_assoc]
    exact Text.scan_of_done (h.close true rest hw)
  case items w item items t hw ht =>
    cases ha
    case cons x' hact hacts =>
      refine ⟨_, rfl, fun rest => ?_⟩
      have hmore := h.more (.first hw) hact (ht.endsNumber hc rest)
      have hitem := List.length_pos_iff.mpr (h.ne_nil hact)
      rw [List.append_assoc, List.append_assoc, Text.scan_of_more hmore (by simp only [List.length_append]; omega)]
      exact h.scan_tail hc ht hacts rest

end

-- Elements and members.

theorem nextElement_lead {first : Bool} {lead item : List Char} (hl : Leads first lead) (hs : Starts item)
    (rest : List Char) : nextElement first (lead ++ (item ++ rest)) = .ok (true, item ++ rest) := by
  obtain ⟨c, t, rfl, hblank, hclose, -⟩ := hs
  cases hl
  case first hw => simp [nextElement, skipBlanks_to hw hblank]
  case next w w' hw hw' =>
    rw [List.append_assoc]
    simp [nextElement, skipBlanks_to hw (c := ',') rfl, skipBlanks_to hw' hblank, hclose]

theorem nextElement_close (hw : Blanks w) (first : Bool) (rest : List Char) :
    nextElement first (w ++ ']' :: rest) = .ok (false, ']' :: rest) := by
  rw [nextElement, skipBlanks_to hw rfl]
  rfl

theorem nextMember_lead {first : Bool} {lead : List Char} (hl : Leads first lead) (rest : List Char) :
    nextMember first (lead ++ '"' :: rest) = .ok (true, rest) := by
  cases hl
  case first hw => simp [nextMember, skipBlanks_to hw (c := '"') rfl]
  case next w w' hw hw' =>
    rw [List.append_assoc]
    simp [nextMember, skipBlanks_to hw (c := ',') rfl, skipBlanks_to hw' (c := '"') rfl]

theorem nextMember_close (hw : Blanks w) (first : Bool) (rest : List Char) :
    nextMember first (w ++ '}' :: rest) = .ok (false, rest) := by
  rw [nextMember, skipBlanks_to hw rfl]
  rfl

theorem readColon_append (hw : Blanks w) (rest : List Char) : readColon (w ++ ':' :: rest) = .ok rest := by
  rw [readColon, skipBlanks_to hw rfl]
  rfl

-- A reader takes an item off for a value.
def Reads {α : Type} (read : List Char → Except ReadError (Read α)) (item : List Char) (value : α) : Prop :=
  ∀ w rest, Blanks w → EndsNumber rest → read (w ++ (item ++ rest)) = .ok (value, rest)

theorem Reads.here {α : Type} {read : List Char → Except ReadError (Read α)} {value : α} (h : Reads read t value)
    (hr : EndsNumber rest) : read (t ++ rest) = .ok (value, rest) :=
  h [] rest blanks_nil hr

-- An array of strings is read by the same step as one of any other elements.
def elementsStep {α : Type} (readElement : List Char → Except ReadError (Read α)) (read : List α × Bool)
    (cs : List Char) : Except ReadError (Text.ScanStep (List α × Bool) (List α)) := do
  let (more, rest) ← nextElement read.2 cs
  if more then
    let (element, rest) ← readElement rest
    .ok (.more (element :: read.1, false) rest)
  else
    .ok (.done read.1.reverse (← endArray rest))

theorem stringsStep_eq : stringsStep = elementsStep readStringValue :=
  rfl

-- An element or a member is put before those read so far.
def Pushes {α : Type} (isItem : List Char → α → Prop) (text : List Char) (read read' : List α) : Prop :=
  ∃ item, isItem text item ∧ read' = item :: read

theorem acts_pushes {α : Type} {isItem : List Char → α → Prop} {texts : List (List Char)} {items : List α}
    (h : List.Forall₂ isItem texts items) (read : List α) :
    Acts (Pushes isItem) texts read (items.reverse ++ read) := by
  induction h generalizing read
  case nil => exact .nil
  case cons text item texts items h _ hi =>
    rw [List.reverse_cons, List.append_assoc]
    exact .cons ⟨item, h, rfl⟩ (hi _)

def IsElement {α : Type} (readElement : List Char → Except ReadError (Read α)) (text : List Char)
    (element : α) : Prop :=
  Starts text ∧ Reads readElement text element

section

variable {α : Type} {readElement : List Char → Except ReadError (Read α)}

theorem elementsStep_takesItems :
    TakesItems ']' (elementsStep readElement) Prod.mk List.reverse (Pushes (IsElement readElement)) where
  ne_nil := by
    rintro item read read' ⟨element, ⟨⟨c, t, rfl, -⟩, -⟩, -⟩
    exact List.cons_ne_nil c t
  close first rest hw := by
    rw [elementsStep, nextElement_close hw, ok_bind]
    rfl
  more := by
    rintro first lead item read read' rest hl ⟨element, ⟨hs, hread⟩, rfl⟩ hr
    rw [elementsStep, nextElement_lead hl hs, ok_bind]
    simp only [if_true, hread.here hr, ok_bind]

theorem scan_elements {items : List (List Char)} {elements : List α} (hb : Bracketed '[' ']' items t)
    (hi : List.Forall₂ (IsElement readElement) items elements) :
    ∃ body, t = '[' :: body ∧
      ∀ rest, Text.scan .malformed (elementsStep readElement) ([], true) (body ++ rest) = .ok (elements, rest) := by
  obtain ⟨body, ht, hscan⟩ := elementsStep_takesItems.scan_bracketed (by simp) hb (acts_pushes hi [])
  simp only [List.append_nil, List.reverse_reverse] at hscan
  exact ⟨body, ht, hscan⟩

end

theorem readStringValue_reads (h : Spells t s.toList) : Reads readStringValue ('"' :: (t ++ ['"'])) s := by
  intro w rest hw _
  rw [List.cons_append, List.append_assoc, readStringValue, skipBlanks_to hw rfl]
  exact readString_append h rest

end Json
end MarkerLint
