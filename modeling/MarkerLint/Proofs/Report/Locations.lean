import Mathlib.Data.List.Basic
import Mathlib.Order.Monotone.Basic
import MarkerLint.Proofs.Text.Positions
import MarkerLint.Report.Json

namespace MarkerLint

namespace Position

-- By lines, and within one line by columns.
instance : PartialOrder Position where
  le p q := p.line < q.line ∨ p.line = q.line ∧ p.column ≤ q.column
  lt p q := p.line < q.line ∨ p.line = q.line ∧ p.column < q.column
  le_refl p := .inr ⟨rfl, Nat.le_refl _⟩
  le_trans p q r h h' := by omega
  lt_iff_le_not_ge p q := by omega
  le_antisymm p q h h' := by
    obtain ⟨line, column⟩ := p
    obtain ⟨line', column'⟩ := q
    simp only [mk.injEq]
    dsimp only at h h'
    omega

theorem le_iff {p q : Position} : p ≤ q ↔ p.line < q.line ∨ p.line = q.line ∧ p.column ≤ q.column :=
  Iff.rfl

theorem lt_iff {p q : Position} : p < q ↔ p.line < q.line ∨ p.line = q.line ∧ p.column < q.column :=
  Iff.rfl

end Position

namespace LineIndex

open Text

variable {text : List Char} {a b start : Nat}

-- The bytes of a text from one offset up to another.
def window (text : List Char) (start stop : Nat) : List UInt8 :=
  ((encode text).take stop).drop start

theorem window_eq_append (text : List Char) (hs : start ≤ a) (h : a ≤ b) :
    window text start b = window text start a ++ window text a b := by
  have htake : window text start a = (window text start b).take (a - start) := by
    rw [window, window, ← List.drop_take, List.take_take, Nat.min_eq_left h]
  have hdrop : window text a b = (window text start b).drop (a - start) := by
    rw [window, window, List.drop_drop, Nat.add_sub_cancel' hs]
  rw [htake, hdrop, List.take_append_drop]

-- Between two offsets at which a text can be cut there is a character.
theorem countP_window_pos (ha : IsBoundary text a) (hb : IsBoundary text b) (h : a < b) :
    0 < (window text a b).countP (·.IsUTF8FirstByte) := by
  obtain ⟨⟨before, after⟩, hcut⟩ := Option.isSome_iff_exists.mp ha
  obtain ⟨rfl, rfl⟩ := splitAt?_eq_some hcut
  have hle := hb.le_bytes
  cases after
  case nil =>
    rw [List.append_nil] at hle
    omega
  case cons c after =>
    obtain ⟨first, rest, hc, hfirst, _⟩ := exists_utf8EncodeChar_eq_cons c
    obtain ⟨n, rfl⟩ := Nat.exists_eq_add_of_lt h
    have hw : window (before ++ c :: after) (bytes before) (bytes before + n + 1) =
        first :: (rest ++ encode after).take n := by
      rw [window, List.drop_take, encode_append, List.drop_left' (length_encode before), encode_cons, hc,
        Nat.add_assoc, Nat.add_sub_cancel_left, List.cons_append, List.take_succ_cons]
    rw [hw, List.countP_cons_of_pos (by simpa using hfirst)]
    exact Nat.succ_pos _

-- The start of a line is known by its number, and the column is counted from there.
theorem position_of_le (h : a ≤ bytes text) :
    ∃ start, (ofText text).starts[(window text 0 a).count lineFeed]? = some start ∧ start ≤ a ∧
      (ofText text).position a =
        { line := 1 + (window text 0 a).count lineFeed
          column := 1 + (window text start a).countP (·.IsUTF8FirstByte) } := by
  obtain ⟨hfound, start, hstart, _, hline, hp⟩ := position_eq text a
  rw [Nat.min_eq_left h] at hfound hstart hline hp
  rw [hfound, Nat.add_sub_cancel_left] at hstart
  exact ⟨start, hstart, hline.le, hp⟩

-- A later offset is on a later line, or it is on the same one and the columns differ by the characters between.
theorem position_later (h : a ≤ b) (hb : b ≤ bytes text) :
    let p := (ofText text).position a
    let q := (ofText text).position b
    p.line < q.line ∨ p.line = q.line ∧ q.column = p.column + (window text a b).countP (·.IsUTF8FirstByte) := by
  obtain ⟨start, hstart, hle, hp⟩ := position_of_le (Nat.le_trans h hb)
  obtain ⟨start', hstart', _, hq⟩ := position_of_le hb
  have hfeeds : (window text 0 b).count lineFeed =
      (window text 0 a).count lineFeed + (window text a b).count lineFeed := by
    rw [window_eq_append text (Nat.zero_le a) h, List.count_append]
  rw [hp, hq]
  dsimp only
  by_cases hnone : (window text a b).count lineFeed = 0
  case neg => exact .inl (by omega)
  case pos =>
    rw [hnone, Nat.add_zero] at hfeeds
    obtain rfl : start' = start := by
      rw [hfeeds, hstart] at hstart'
      exact (Option.some.inj hstart').symm
    refine .inr ⟨by rw [hfeeds], ?_⟩
    rw [window_eq_append text hle h, List.countP_append, Nat.add_assoc]

theorem position_min (text : List Char) (offset : Nat) :
    (ofText text).position (min offset (bytes text)) = (ofText text).position offset := by
  simp [position, ofText]

theorem monotone_position (text : List Char) : Monotone (ofText text).position := by
  intro a b h
  have hmin : min a (bytes text) ≤ min b (bytes text) := by omega
  rw [← position_min text a, ← position_min text b, Position.le_iff]
  have := position_later hmin (Nat.min_le_right b (bytes text))
  omega

theorem strictMonoOn_position (text : List Char) :
    StrictMonoOn (ofText text).position {offset | IsBoundary text offset} := by
  intro a ha b hb h
  have hfirst := countP_window_pos ha hb h
  have := position_later (Nat.le_of_lt h) hb.le_bytes
  rw [Position.lt_iff]
  omega

-- A longest text with nothing but line feeds, or on one line with characters of one byte each.
def Overruns (text : List Char) : Prop :=
  bytes text + 1 = wordBound ∧ ((∀ c ∈ text, c = '\n') ∨ ∀ c ∈ text, c.utf8Size = 1 ∧ c ≠ '\n')

-- Lines and columns are counted from one, and the last of them may be one more than a word holds.
theorem position_bounds (htext : bytes text < wordBound) (offset : Nat) :
    let p := (ofText text).position offset
    (1 ≤ p.line ∧ p.line ≤ wordBound) ∧ 1 ≤ p.column ∧ p.column ≤ wordBound := by
  have hoffset : min offset (bytes text) < wordBound := by omega
  obtain ⟨_, _, _, _, _, hp⟩ := position_eq text offset
  have hline := (line_le htext hoffset).left
  have hcolumn := (column_le htext hoffset).left
  rw [position_min, hp] at hline hcolumn
  rw [hp]
  dsimp only at hline hcolumn ⊢
  omega

theorem lineCol_eq_position (htext : bytes text < wordBound) (h : ¬Overruns text) :
    (ofText text).lineCol = (ofText text).position := by
  funext offset
  have hoffset : min offset (bytes text) < wordBound := by omega
  obtain ⟨hline, hfeeds⟩ := line_le htext hoffset
  obtain ⟨hcolumn, hchars⟩ := column_le htext hoffset
  rw [position_min] at hline hfeeds hcolumn hchars
  have hline' := mt hfeeds.mp fun hend => h ⟨hend.right.left, .inl hend.right.right⟩
  have hcolumn' := mt hchars.mp fun hend => h ⟨hend.right.left, .inr hend.right.right⟩
  rw [lineCol, Nat.mod_eq_of_lt (by omega), Nat.mod_eq_of_lt (by omega)]

-- Between one and the bound, no two numbers have one remainder.
theorem position_eq_of_lineCol_eq (htext : bytes text < wordBound)
    (h : (ofText text).lineCol a = (ofText text).lineCol b) : (ofText text).position a = (ofText text).position b := by
  have ha := position_bounds htext a
  have hb := position_bounds htext b
  obtain ⟨hline, hcolumn⟩ := Position.mk.inj h
  simp only [wordBound] at ha hb hline hcolumn
  exact le_antisymm (Position.le_iff.mpr (by omega)) (Position.le_iff.mpr (by omega))

-- What comes before the start of the text is the end of it.
theorem lineCol_end_lt (h : Overruns text) :
    (ofText text).lineCol (bytes text) < (ofText text).lineCol 0 := by
  obtain ⟨hbytes, hchars⟩ := h
  have htext : bytes text < wordBound := by omega
  have hstart : (ofText text).position 0 = ⟨1, 1⟩ := by
    obtain ⟨start, _, hle, hp⟩ := position_of_le (Nat.zero_le (bytes text))
    rw [hp]
    simp [window]
  rw [Position.lt_iff, lineCol, lineCol, hstart]
  dsimp only
  cases hchars
  case inl hfeeds =>
    have hline := (line_le htext htext).right.mpr ⟨hbytes, hbytes, hfeeds⟩
    rw [hline, Nat.mod_self]
    exact .inl (by decide)
  case inr hchars =>
    have hcolumn := (column_le htext htext).right.mpr ⟨hbytes, hbytes, hchars⟩
    have hnone : (encode text).count lineFeed = 0 := by
      simp only [List.count_eq_zero, encode, List.mem_flatMap, lineFeed_mem_utf8EncodeChar]
      rintro ⟨c, hc, rfl⟩
      exact (hchars _ hc).right rfl
    have hline := line_eq text (bytes text)
    rw [take_encode (Nat.le_refl (bytes text)), hnone] at hline
    rw [hline, hcolumn, Nat.mod_self]
    exact .inr ⟨rfl, by decide⟩

theorem monotone_lineCol_iff (htext : bytes text < wordBound) : Monotone (ofText text).lineCol ↔ ¬Overruns text := by
  constructor
  case mp =>
    intro hmono h
    exact (lineCol_end_lt h).not_ge (hmono (Nat.zero_le _))
  case mpr =>
    intro h
    rw [lineCol_eq_position htext h]
    exact monotone_position text

theorem strictMonoOn_lineCol_iff (htext : bytes text < wordBound) :
    StrictMonoOn (ofText text).lineCol {offset | IsBoundary text offset} ↔ ¬Overruns text := by
  constructor
  case mp =>
    intro hmono h
    have hpos : 0 < bytes text := by
      have := h.left
      unfold wordBound at this
      omega
    have hend : IsBoundary text (bytes text) := by simpa using isBoundary_append text []
    exact (lineCol_end_lt h).not_gt (hmono (isBoundary_append [] text) hend hpos)
  case mpr =>
    intro h
    rw [lineCol_eq_position htext h]
    exact strictMonoOn_position text

end LineIndex

namespace Json

-- The value of a member. Of several of one name the first counts.
def member? (key : String) : Json → Option Json
  | object members => members.lookup key
  | _ => none

def elements? : Json → Option (List Json)
  | array elements => some elements
  | _ => none

def number? : Json → Option Nat
  | number n => some n
  | _ => none

end Json

namespace Report

open Text

-- The messages that a report has about a file.
def messages? (file : Json) : Option (List Json) :=
  (file.member? "messages").bind Json.elements?

-- Where a message says that its problem starts.
def start? (message : Json) : Option Position := do
  let line ← (message.member? "line").bind Json.number?
  let column ← (message.member? "column").bind Json.number?
  pure { line, column }

-- Where a message says that its problem ends.
def stop? (message : Json) : Option Position := do
  let line ← (message.member? "endLine").bind Json.number?
  let column ← (message.member? "endColumn").bind Json.number?
  pure { line, column }

variable {index : LineIndex} {d : Diagnostic}

theorem start?_messageJson : start? (messageJson index d) = some (index.lineCol d.span.start) :=
  rfl

theorem stop?_messageJson : stop? (messageJson index d) = some (index.lineCol d.span.stop) :=
  rfl

theorem messages?_fileJson (sources : List (String × List Char)) (r : LintResult) :
    messages? (fileJson sources r) =
      some (r.diagnostics.map (messageJson (LineIndex.ofText (sourceOf sources r.file)))) :=
  rfl

-- Positions keep the order of offsets, and strictly so where the text can be cut, unless the position at the end
-- of the text leaves the words. In the report of a file there is a message for every diagnostic. None ends before
-- it starts unless its diagnostic does, and diagnostics that start at different offsets between characters are
-- shown at different positions.
theorem locations_keep_order {text : List Char} (htext : bytes text < LineIndex.wordBound) :
    let index := LineIndex.ofText text
    let cuts := {offset | IsBoundary text offset}
    (Monotone index.lineCol ↔ ¬LineIndex.Overruns text) ∧
      (StrictMonoOn index.lineCol cuts ↔ ¬LineIndex.Overruns text) ∧ Set.InjOn index.lineCol cuts ∧
      ∀ (sources : List (String × List Char)) (r : LintResult), sourceOf sources r.file = text →
        ∃ messages, messages? (fileJson sources r) = some messages ∧ messages.length = r.diagnostics.length ∧
          ∀ d m, (d, m) ∈ r.diagnostics.zip messages →
            ∃ start stop, start? m = some start ∧ stop? m = some stop ∧
              (¬LineIndex.Overruns text → d.span.start ≤ d.span.stop → start ≤ stop) ∧
              ∀ d' m', (d', m') ∈ r.diagnostics.zip messages → d.span.start ∈ cuts → d'.span.start ∈ cuts →
                d.span.start ≠ d'.span.start → start? m' ≠ some start := by
  intro index cuts
  have hmono := LineIndex.monotone_lineCol_iff htext
  have hinj : Set.InjOn index.lineCol cuts := by
    intro a ha b hb he
    exact (LineIndex.strictMonoOn_position text).injOn ha hb (LineIndex.position_eq_of_lineCol_eq htext he)
  refine ⟨hmono, LineIndex.strictMonoOn_lineCol_iff htext, hinj, ?_⟩
  rintro sources r rfl
  have hzip : ∀ d m, (d, m) ∈ r.diagnostics.zip (r.diagnostics.map (messageJson index)) → m = messageJson index d := by
    intro d m h
    rw [← List.map_id r.diagnostics, List.map_map, List.zip_map'] at h
    obtain ⟨_, _, h⟩ := List.mem_map.mp h
    obtain ⟨rfl, rfl⟩ := Prod.mk.inj h
    rfl
  refine ⟨_, messages?_fileJson sources r, List.length_map _, fun d m hm => ?_⟩
  obtain rfl := hzip d m hm
  refine ⟨_, _, start?_messageJson, stop?_messageJson, fun h hle => hmono.mpr h hle, ?_⟩
  intro d' m' hm' hcut hcut' hne he
  obtain rfl := hzip d' m' hm'
  rw [start?_messageJson] at he
  exact hne (hinj hcut hcut' (Option.some.inj he).symm)

-- Two diagnostics that touch behind an accented letter. An offset inside of the letter has the position behind it.
theorem locations_keep_order_accent :
    let text := ['a', '\n', 'é', 'b']
    let index := LineIndex.ofText text
    let d : Diagnostic := { rule := "marker", severity := .error, message := "missing", span := ⟨2, 4⟩ }
    let d' : Diagnostic := { d with span := ⟨4, 5⟩ }
    let r : LintResult := { file := "a.jsx", diagnostics := [d, d'] }
    bytes text < LineIndex.wordBound ∧ ¬LineIndex.Overruns text ∧ sourceOf [("a.jsx", text)] r.file = text ∧
      IsBoundary text 2 ∧ ¬IsBoundary text 3 ∧ IsBoundary text 4 ∧
      index.lineCol 2 < index.lineCol 4 ∧ index.lineCol 3 ≤ index.lineCol 4 ∧ index.lineCol 3 = index.lineCol 4 ∧
      ∃ m m' start stop, messages? (fileJson [("a.jsx", text)] r) = some [m, m'] ∧
        start? m = some start ∧ stop? m = some stop ∧ start ≤ stop ∧ start? m' ≠ some start := by
  intro text index d d' r
  have htext : bytes text < LineIndex.wordBound := by decide
  have hshort : ¬LineIndex.Overruns text := fun h => absurd h.left (by decide)
  have hsource : sourceOf [("a.jsx", text)] r.file = text := by decide
  have hcut : IsBoundary text 2 := by decide +kernel
  have hcut' : IsBoundary text 4 := by decide +kernel
  obtain ⟨hmono, hstrict, _, hreport⟩ := locations_keep_order htext
  obtain ⟨messages, hmessages, hlength, hall⟩ := hreport [("a.jsx", text)] r hsource
  obtain ⟨m, m', rfl⟩ := List.length_eq_two.mp hlength
  obtain ⟨start, stop, hstart, hstop, hle, hne⟩ := hall d m (by simp [r])
  refine ⟨htext, hshort, hsource, hcut, by decide +kernel, hcut', hstrict.mpr hshort hcut hcut' (by decide),
    hmono.mpr hshort (by decide), by decide +kernel, ?_⟩
  exact ⟨m, m', start, stop, hmessages, hstart, hstop, hle hshort (by decide),
    hne d' m' (by simp [r]) hcut hcut' (by decide)⟩

-- A problem that is as long as the longest line is said to end before it starts.
theorem longest_line_ends_before_start :
    let text := List.replicate 4294967295 'a'
    let index := LineIndex.ofText text
    let d : Diagnostic :=
      { rule := "marker", severity := .error, message := "missing", span := ⟨0, 4294967295⟩ }
    bytes text < LineIndex.wordBound ∧ ¬Monotone index.lineCol ∧
      ∃ start stop, start? (messageJson index d) = some start ∧ stop? (messageJson index d) = some stop ∧
        stop < start := by
  intro text index d
  have hbytes : bytes text = 4294967295 := LineIndex.bytes_replicate 4294967295
  have hover : LineIndex.Overruns text := by
    refine ⟨by rw [hbytes]; rfl, .inr fun c hc => ?_⟩
    rw [List.eq_of_mem_replicate hc]
    decide
  have hlt := LineIndex.lineCol_end_lt hover
  refine ⟨by rw [hbytes]; decide, fun hmono => hlt.not_ge (hmono (Nat.zero_le _)), ?_⟩
  rw [hbytes] at hlt
  exact ⟨_, _, start?_messageJson, stop?_messageJson, hlt⟩

end Report
end MarkerLint
