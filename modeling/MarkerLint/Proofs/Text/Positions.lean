import Mathlib.Data.List.Count
import Mathlib.Data.List.Pairwise
import MarkerLint.Text.LineIndex
import MarkerLint.Proofs.Text.Acceptance

namespace MarkerLint

namespace Text

-- The bytes of a text in UTF-8.
def encode (text : List Char) : List UInt8 :=
  text.flatMap String.utf8EncodeChar

-- The byte that ends a line.
def lineFeed : UInt8 := 10

@[simp]
theorem encode_nil : encode [] = [] := rfl

@[simp]
theorem encode_cons (c : Char) (cs : List Char) : encode (c :: cs) = String.utf8EncodeChar c ++ encode cs := rfl

@[simp]
theorem encode_append (as bs : List Char) : encode (as ++ bs) = encode as ++ encode bs := by
  simp [encode]

@[simp]
theorem length_encode (text : List Char) : (encode text).length = bytes text := by
  induction text
  case nil => rfl
  case cons c text hi => simp [hi]

@[simp]
theorem utf8Size_lineFeed : '\n'.utf8Size = 1 := rfl

@[simp]
theorem utf8EncodeChar_lineFeed : String.utf8EncodeChar '\n' = [lineFeed] := rfl

-- No character but the line feed has its byte.
theorem lineFeed_mem_utf8EncodeChar {c : Char} : lineFeed ∈ String.utf8EncodeChar c ↔ c = '\n' := by
  have hc : c = '\n' ↔ c.val.toNat = 10 := by
    rw [← Char.toNat_inj]
    rfl
  rw [hc]
  unfold String.utf8EncodeChar lineFeed
  generalize c.val.toNat = v
  dsimp only
  split
  case isTrue =>
    simp only [List.mem_singleton, ← UInt8.toNat_inj, UInt8.toNat_ofNat']
    simp
    omega
  case isFalse =>
    split
    case isTrue =>
      simp [← UInt8.toNat_inj]
      omega
    case isFalse => split <;> simp [← UInt8.toNat_inj] <;> omega

-- Of the bytes of a character, the first one and no other can begin a character.
theorem exists_utf8EncodeChar_eq_cons (c : Char) : ∃ b bs, String.utf8EncodeChar c = b :: bs ∧
    b.IsUTF8FirstByte ∧ ∀ b ∈ bs, ¬b.IsUTF8FirstByte := by
  have hfirst := @UInt8.isUTF8FirstByte_getElem_utf8EncodeChar c
  cases hc : String.utf8EncodeChar c
  case nil => exact absurd hc String.utf8EncodeChar_ne_nil
  case cons b bs =>
    simp only [hc] at hfirst
    refine ⟨b, bs, rfl, (@hfirst 0 (by simp)).mpr rfl, fun x hx h => ?_⟩
    obtain ⟨i, hi, rfl⟩ := List.mem_iff_getElem.mp hx
    exact absurd ((@hfirst (i + 1) (by simpa using hi)).mp (by simpa using h)) (Nat.succ_ne_zero i)

-- A line feed is the byte of a character of its own.
theorem encode_getElem?_eq_lineFeed {text : List Char} {i : Nat} :
    (encode text)[i]? = some lineFeed ↔ ∃ before after, text = before ++ '\n' :: after ∧ bytes before = i := by
  constructor
  case mp =>
    intro h
    induction text generalizing i
    case nil => simp at h
    case cons c text hi =>
      rw [encode_cons, List.getElem?_append] at h
      split at h
      case isTrue hlt =>
        obtain rfl := lineFeed_mem_utf8EncodeChar.mp (List.mem_of_getElem? h)
        exact ⟨[], text, rfl, by simpa [eq_comm] using hlt⟩
      case isFalse hle =>
        obtain ⟨before, after, rfl, hb⟩ := hi h
        refine ⟨c :: before, after, rfl, ?_⟩
        simp only [String.length_utf8EncodeChar] at hb hle
        simp only [bytes_cons]
        omega
  case mpr =>
    rintro ⟨before, after, rfl, rfl⟩
    rw [encode_append, List.getElem?_append_right (by simp)]
    simp

theorem take_encode {text : List Char} {offset : Nat} (h : bytes text ≤ offset) :
    (encode text).take (min offset (bytes text)) = encode text :=
  List.take_of_length_le (by simp [h])

-- There are as many characters as bytes that begin one.
theorem countP_encode (text : List Char) : (encode text).countP (·.IsUTF8FirstByte) = text.length := by
  induction text
  case nil => rfl
  case cons c text hi =>
    obtain ⟨b, bs, hc, hb, hbs⟩ := exists_utf8EncodeChar_eq_cons c
    have hnone : bs.countP (·.IsUTF8FirstByte) = 0 := List.countP_eq_zero.mpr fun x hx => by simpa using hbs x hx
    rw [encode_cons, hc, List.cons_append, List.countP_cons_of_pos (by simpa using hb), List.countP_append, hnone, hi,
      Nat.zero_add, List.length_cons]

theorem length_le_bytes (text : List Char) : text.length ≤ bytes text := by
  rw [← countP_encode, ← length_encode]
  exact List.countP_le_length

theorem length_eq_bytes_iff {text : List Char} : text.length = bytes text ↔ ∀ c ∈ text, c.utf8Size = 1 := by
  induction text
  case nil => simp
  case cons c text hi =>
    have hc := c.utf8Size_pos
    have hle := length_le_bytes text
    rw [List.forall_mem_cons, ← hi, List.length_cons, bytes_cons]
    omega

theorem count_eq_bytes_iff {text : List Char} :
    (encode text).count lineFeed = bytes text ↔ ∀ c ∈ text, c = '\n' := by
  rw [← length_encode, List.count_eq_length]
  constructor
  case mp =>
    intro h c hc
    obtain ⟨b, hb⟩ := List.exists_mem_of_ne_nil _ (@String.utf8EncodeChar_ne_nil c)
    have he := h b (List.mem_flatMap.mpr ⟨c, hc, hb⟩)
    exact lineFeed_mem_utf8EncodeChar.mp (he ▸ hb)
  case mpr =>
    intro h b hb
    obtain ⟨c, hc, hb⟩ := List.mem_flatMap.mp hb
    rw [h c hc] at hb
    simpa [eq_comm] using hb

end Text

namespace LineIndex

open Text

section

variable {text : List Char} {offset stop s : Nat}

theorem startsAfter_cons (c : Char) (offset : Nat) (text : List Char) :
    startsAfter offset (c :: text) =
      (if c = '\n' then [offset + 1] else []) ++ startsAfter (offset + c.utf8Size) text := by
  by_cases hc : c = '\n'
  case pos => simp [startsAfter, hc]
  case neg => simp [startsAfter, hc]

-- A line starts behind each line feed.
theorem mem_startsAfter :
    s ∈ startsAfter offset text ↔ ∃ before after, text = before ++ '\n' :: after ∧ offset + bytes before + 1 = s := by
  induction text generalizing offset
  case nil => simp [startsAfter]
  case cons c text hi =>
    rw [startsAfter_cons, List.mem_append, hi]
    constructor
    case mp =>
      rintro (h | ⟨before, after, rfl, rfl⟩)
      · obtain ⟨rfl, rfl⟩ : c = '\n' ∧ s = offset + 1 := by simpa using h
        exact ⟨[], text, rfl, rfl⟩
      · exact ⟨c :: before, after, rfl, by simp [Nat.add_assoc]⟩
    case mpr =>
      rintro ⟨before, after, h, rfl⟩
      cases before
      case nil => simp_all
      case cons b before =>
        obtain ⟨rfl, rfl⟩ := List.cons.inj h
        exact .inr ⟨before, after, rfl, by simp [Nat.add_assoc]⟩

theorem lt_of_mem_startsAfter (h : s ∈ startsAfter offset text) : offset < s := by
  obtain ⟨_, _, _, rfl⟩ := mem_startsAfter.mp h
  omega

theorem pairwise_startsAfter (offset : Nat) (text : List Char) : (startsAfter offset text).Pairwise (· < ·) := by
  induction text generalizing offset
  case nil => exact .nil
  case cons c text hi =>
    rw [startsAfter_cons, List.pairwise_append]
    refine ⟨by split <;> simp, hi _, fun s hs s' hs' => ?_⟩
    obtain ⟨rfl, rfl⟩ : c = '\n' ∧ s = offset + 1 := by simpa using hs
    exact lt_of_mem_startsAfter hs'

-- The lines that start up to an offset are counted by the line feeds before it.
theorem countP_startsAfter :
    (startsAfter offset text).countP (· ≤ stop) = ((encode text).take (stop - offset)).count lineFeed := by
  induction text generalizing offset
  case nil => simp [startsAfter]
  case cons c text hi =>
    rw [startsAfter_cons, List.countP_append, hi, encode_cons, List.take_append, List.count_append,
      String.length_utf8EncodeChar, Nat.sub_sub]
    congr 1
    by_cases hc : c = '\n'
    case pos =>
      by_cases hlt : offset < stop
      case pos =>
        have hn : stop - offset = (stop - offset - 1) + 1 := by omega
        rw [hc, utf8EncodeChar_lineFeed, hn, List.take_succ_cons]
        simp
        omega
      case neg =>
        have hn : stop - offset = 0 := by omega
        simp [hc, hn]
        omega
    case neg =>
      have hnone : lineFeed ∉ (String.utf8EncodeChar c).take (stop - offset) :=
        fun h => hc (lineFeed_mem_utf8EncodeChar.mp (List.mem_of_mem_take h))
      simp [hc, List.count_eq_zero_of_not_mem hnone]

theorem length_startsAfter (offset : Nat) (text : List Char) :
    (startsAfter offset text).length = (encode text).count lineFeed := by
  have hall : ∀ s ∈ startsAfter offset text, s ≤ offset + bytes text := by
    intro s hs
    obtain ⟨before, after, rfl, rfl⟩ := mem_startsAfter.mp hs
    simp only [bytes_append, bytes_cons, utf8Size_lineFeed]
    omega
  have hcount : (startsAfter offset text).countP (· ≤ offset + bytes text) = (startsAfter offset text).length :=
    List.countP_eq_length.mpr (by simpa using hall)
  rw [← hcount, countP_startsAfter, Nat.add_sub_cancel_left, List.take_of_length_le (by simp)]

end

-- In an ascending list, the entries up to a number come first.
theorem le_iff_lt_countP {starts : List Nat} {stop i s : Nat} (hs : starts.Pairwise (· < ·))
    (hi : starts[i]? = some s) : s ≤ stop ↔ i < starts.countP (· ≤ stop) := by
  induction starts generalizing i
  case nil => simp at hi
  case cons first starts hrec =>
    obtain ⟨hlt, hs⟩ := List.pairwise_cons.mp hs
    by_cases hstop : first ≤ stop
    case pos =>
      cases i
      case zero =>
        obtain rfl : first = s := by simpa using hi
        simp [hstop]
      case succ i => simpa [hstop] using hrec hs (by simpa using hi)
    case neg =>
      have hnone : (first :: starts).countP (· ≤ stop) = 0 := by
        rw [List.countP_eq_zero]
        refine List.forall_mem_cons.mpr ⟨by simpa using hstop, fun t ht => ?_⟩
        have := hlt t ht
        rw [decide_eq_true_eq]
        omega
      have hle : first ≤ s := by
        obtain rfl | hs := List.mem_cons.mp (List.mem_of_getElem? hi)
        · exact Nat.le_refl _
        · exact Nat.le_of_lt (hlt s hs)
      rw [hnone]
      omega

theorem getElem?_toList_eq_getD {starts : Array Nat} {i : Nat} (h : i < starts.size) :
    starts.toList[i]? = some (starts.getD i 0) := by
  simp [Array.getD, h]

-- Halving a stretch that holds the right number comes down to it.
theorem countUpTo_eq {starts : Array Nat} {stop low high : Nat} (hs : starts.toList.Pairwise (· < ·))
    (hlow : low ≤ starts.toList.countP (· ≤ stop)) (hhigh : starts.toList.countP (· ≤ stop) ≤ high)
    (hsize : high ≤ starts.size) : countUpTo starts stop low high = starts.toList.countP (· ≤ stop) := by
  fun_induction countUpTo starts stop low high
  case case1 low high hlt middle hle hrec =>
    have hm := (le_iff_lt_countP hs (getElem?_toList_eq_getD (by omega))).mp hle
    exact hrec (by omega) hhigh hsize
  case case2 low high hlt middle hle hrec =>
    have hm := mt (le_iff_lt_countP hs (getElem?_toList_eq_getD (by omega))).mpr hle
    exact hrec hlow (by omega) (by omega)
  case case3 low high hle => omega

section

variable {text : List Char} {stop start s : Nat}

-- Where the lines of a text start.
def lineStarts (text : List Char) : List Nat :=
  0 :: startsAfter 0 text

theorem pairwise_lineStarts (text : List Char) : (lineStarts text).Pairwise (· < ·) :=
  List.pairwise_cons.mpr ⟨fun _ => lt_of_mem_startsAfter, pairwise_startsAfter 0 text⟩

theorem countP_lineStarts (text : List Char) (stop : Nat) :
    (lineStarts text).countP (· ≤ stop) = 1 + ((encode text).take stop).count lineFeed := by
  simp [lineStarts, countP_startsAfter, Nat.add_comm]

theorem mem_lineStarts :
    s ∈ lineStarts text ↔ s = 0 ∨ ∃ i, (encode text)[i]? = some lineFeed ∧ i + 1 = s := by
  simp only [lineStarts, List.mem_cons, mem_startsAfter, encode_getElem?_eq_lineFeed, Nat.zero_add]
  apply or_congr_right
  constructor
  case mp =>
    rintro ⟨before, after, ht, rfl⟩
    exact ⟨bytes before, ⟨before, after, ht, rfl⟩, rfl⟩
  case mpr =>
    rintro ⟨_, ⟨before, after, ht, rfl⟩, rfl⟩
    exact ⟨before, after, ht, rfl⟩

theorem isBoundary_of_mem_lineStarts (h : s ∈ lineStarts text) : IsBoundary text s := by
  obtain rfl | h := List.mem_cons.mp h
  · exact isBoundary_append [] text
  · obtain ⟨before, after, rfl, rfl⟩ := mem_startsAfter.mp h
    have hcut := isBoundary_append (before ++ ['\n']) after
    simp only [bytes_append, bytes_cons, utf8Size_lineFeed, bytes_nil, List.append_assoc, List.singleton_append] at hcut
    simpa using hcut

-- The line of an offset starts here: at the beginning or behind a line feed, and no line feed comes between.
structure StartsLine (encoded : List UInt8) (start offset : Nat) : Prop where
  le : start ≤ offset
  behind : start = 0 ∨ ∃ i, encoded[i]? = some lineFeed ∧ i + 1 = start
  clear : ∀ i, start ≤ i → i < offset → encoded[i]? ≠ some lineFeed

-- The last line that starts up to an offset is the line of the offset.
theorem startsLine_of_last (h : (lineStarts text)[((encode text).take stop).count lineFeed]? = some start) :
    StartsLine (encode text) start stop where
  le := by
    rw [le_iff_lt_countP (pairwise_lineStarts text) h, countP_lineStarts]
    omega
  behind := mem_lineStarts.mp (List.mem_of_getElem? h)
  clear i hle hlt hi := by
    -- The line behind such a line feed would start later, but up to the offset as well.
    obtain ⟨j, hj⟩ := List.getElem?_of_mem (mem_lineStarts.mpr (.inr ⟨i, hi, rfl⟩))
    have hcount := (le_iff_lt_countP (pairwise_lineStarts text) hj).mp (show i + 1 ≤ stop from hlt)
    rw [countP_lineStarts] at hcount
    have hbefore := (le_iff_lt_countP (pairwise_lineStarts text) h).mp hle
    have hafter : i + 1 ≤ i := (le_iff_lt_countP (pairwise_lineStarts text) hj).mpr (by omega)
    omega

-- Characters are counted by the bytes that begin them.
theorem charsBefore_eq (start stop : Nat) (text : List Char) :
    charsBefore start stop text = ((encode text).take (stop - start)).countP (·.IsUTF8FirstByte) := by
  induction text generalizing start
  case nil => simp [charsBefore]
  case cons c text hi =>
    obtain ⟨b, bs, hc, hb, hbs⟩ := exists_utf8EncodeChar_eq_cons c
    by_cases hlt : start < stop
    case pos =>
      have hlength : bs.length + 1 = c.utf8Size := by rw [← String.length_utf8EncodeChar, hc, List.length_cons]
      have hnone : (bs.take (stop - start - 1)).countP (·.IsUTF8FirstByte) = 0 :=
        List.countP_eq_zero.mpr fun x hx => by simpa using hbs x (List.mem_of_mem_take hx)
      have hn : stop - start = (stop - start - 1) + 1 := by omega
      have hrest : stop - start - 1 - bs.length = stop - (start + c.utf8Size) := by omega
      rw [charsBefore, if_pos hlt, hi, encode_cons, hc, hn, List.cons_append, List.take_succ_cons, List.take_append,
        List.countP_cons_of_pos (by simpa using hb), List.countP_append, hnone, hrest, Nat.zero_add]
    case neg =>
      have hn : stop - start = 0 := by omega
      simp [charsBefore, hlt, hn]

theorem dropBytes_append (before after : List Char) : dropBytes (bytes before) (before ++ after) = after := by
  induction before
  case nil => simp [dropBytes]
  case cons c before hi =>
    have hc := c.utf8Size_pos
    have hn : c.utf8Size + bytes before = (c.utf8Size + bytes before - 1) + 1 := by omega
    rw [bytes_cons, List.cons_append, hn, dropBytes, ← hn, Nat.add_sub_cancel_left, hi]

-- From the boundary of a character on, what is left of the text is what is left of its bytes.
theorem charsBefore_dropBytes (h : IsBoundary text start) (stop : Nat) :
    charsBefore start stop (dropBytes start text) =
      (((encode text).take stop).drop start).countP (·.IsUTF8FirstByte) := by
  obtain ⟨⟨before, after⟩, hcut⟩ := Option.isSome_iff_exists.mp h
  obtain ⟨rfl, rfl⟩ := splitAt?_eq_some hcut
  rw [dropBytes_append, charsBefore_eq, List.drop_take, encode_append, List.drop_left' (length_encode before)]

-- The search finds a line, which starts at the boundary of a character. The position is given by the bytes
-- before the offset.
theorem position_eq (text : List Char) (offset : Nat) :
    let index := ofText text
    let stop := min offset (bytes text)
    let found := countUpTo index.starts stop 0 index.starts.size
    found = 1 + ((encode text).take stop).count lineFeed ∧
      ∃ start, index.starts[found - 1]? = some start ∧ IsBoundary text start ∧
        StartsLine (encode text) start stop ∧
        index.position offset =
          { line := 1 + ((encode text).take stop).count lineFeed
            column := 1 + (((encode text).take stop).drop start).countP (·.IsUTF8FirstByte) } := by
  intro index stop found
  have hcount := countP_lineStarts text stop
  have hle : (lineStarts text).countP (· ≤ stop) ≤ index.starts.size := List.countP_le_length
  have hfound : found = 1 + ((encode text).take stop).count lineFeed :=
    (countUpTo_eq (pairwise_lineStarts text) (Nat.zero_le _) hle (Nat.le_refl _)).trans hcount
  let start := index.starts.getD (found - 1) 0
  have hstart : index.starts.toList[found - 1]? = some start := getElem?_toList_eq_getD (by omega)
  have hlast : (lineStarts text)[((encode text).take stop).count lineFeed]? = some start := by
    rwa [hfound, Nat.add_sub_cancel_left] at hstart
  have hboundary := isBoundary_of_mem_lineStarts (List.mem_of_getElem? hlast)
  refine ⟨hfound, start, by rwa [← Array.getElem?_toList], hboundary, startsLine_of_last hlast, ?_⟩
  calc index.position offset
    _ = ⟨found, charsBefore start stop (dropBytes start text) + 1⟩ := rfl
    _ = _ := by rw [charsBefore_dropBytes hboundary, hfound, Nat.add_comm _ 1]

theorem lineCount_eq (text : List Char) : (ofText text).lineCount = 1 + (encode text).count lineFeed := by
  simp [lineCount, ofText, length_startsAfter, Nat.add_comm]

end

section

variable {text : List Char} {offset bound : Nat}

theorem line_eq (text : List Char) (offset : Nat) :
    ((ofText text).position offset).line = 1 + ((encode text).take (min offset (bytes text))).count lineFeed := by
  obtain ⟨_, _, _, _, _, hp⟩ := position_eq text offset
  rw [hp]

-- A line number reaches a bound of texts and offsets only at the end of a text that is all line feeds.
theorem line_le (htext : bytes text < bound) (hoffset : offset < bound) :
    ((ofText text).position offset).line ≤ bound ∧
      (((ofText text).position offset).line = bound ↔
        offset + 1 = bound ∧ bytes text + 1 = bound ∧ ∀ c ∈ text, c = '\n') := by
  have hle : ((encode text).take (min offset (bytes text))).count lineFeed ≤ min offset (bytes text) :=
    Nat.le_trans List.count_le_length (by simp)
  rw [line_eq]
  refine ⟨by omega, ?_⟩
  constructor
  case mp =>
    intro h
    have hoffset : offset + 1 = bound := by omega
    have htext : bytes text + 1 = bound := by omega
    rw [take_encode (by omega)] at h
    exact ⟨hoffset, htext, count_eq_bytes_iff.mp (by omega)⟩
  case mpr =>
    rintro ⟨hoffset, htext, hfeeds⟩
    rw [take_encode (by omega), count_eq_bytes_iff.mpr hfeeds]
    omega

-- A column reaches a bound of texts and offsets only at the end of one line of characters of one byte each.
theorem column_le (htext : bytes text < bound) (hoffset : offset < bound) :
    ((ofText text).position offset).column ≤ bound ∧
      (((ofText text).position offset).column = bound ↔
        offset + 1 = bound ∧ bytes text + 1 = bound ∧ ∀ c ∈ text, c.utf8Size = 1 ∧ c ≠ '\n') := by
  obtain ⟨_, start, _, _, hline, hp⟩ := position_eq text offset
  have hle : (((encode text).take (min offset (bytes text))).drop start).countP (·.IsUTF8FirstByte) ≤
      min offset (bytes text) - start :=
    Nat.le_trans List.countP_le_length (by simp)
  rw [hp]
  refine ⟨by dsimp only; omega, ?_⟩
  dsimp only
  constructor
  case mp =>
    intro h
    have hoffset : offset + 1 = bound := by omega
    have htext : bytes text + 1 = bound := by omega
    obtain rfl : start = 0 := by
      have := hline.le
      omega
    rw [take_encode (by omega), List.drop_zero, countP_encode] at h
    have hsize := length_eq_bytes_iff.mp (show text.length = bytes text by omega)
    refine ⟨hoffset, htext, fun c hc => ⟨hsize c hc, ?_⟩⟩
    rintro rfl
    obtain ⟨before, after, rfl⟩ := List.append_of_mem hc
    have hfeed := encode_getElem?_eq_lineFeed.mpr ⟨before, after, rfl, rfl⟩
    refine hline.clear (bytes before) (Nat.zero_le _) ?_ hfeed
    simp only [bytes_append, bytes_cons, utf8Size_lineFeed] at htext ⊢
    omega
  case mpr =>
    rintro ⟨hoffset, htext, hchars⟩
    have hstart : start = 0 := by
      refine hline.behind.resolve_right ?_
      rintro ⟨i, hi, _⟩
      obtain ⟨before, after, rfl, _⟩ := encode_getElem?_eq_lineFeed.mp hi
      exact (hchars '\n' (by simp)).right rfl
    rw [take_encode (by omega), hstart, List.drop_zero, countP_encode, length_eq_bytes_iff.mpr fun c hc => (hchars c hc).left]
    omega

end

-- Every offset has an exact position, and finding it never goes astray: some line starts up to the offset, the
-- last such line starts at the boundary of a character, and no start of a line leaves the word. A line or a
-- column does leave it, but only at the end of a longest text: the line where the text holds nothing but line
-- feeds, and the column where it is one line of characters of one byte each.
theorem position_is_exact {text : List Char} {offset : Nat} (htext : bytes text < wordBound)
    (hoffset : offset < wordBound) :
    let index := ofText text
    let stop := min offset (bytes text)
    let found := countUpTo index.starts stop 0 index.starts.size
    let p := index.position offset
    0 < found ∧
      (∃ start, index.starts[found - 1]? = some start ∧ IsBoundary text start ∧
        StartsLine (encode text) start stop ∧
        p.column = 1 + (((encode text).take stop).drop start).countP (·.IsUTF8FirstByte)) ∧
      p.line = 1 + ((encode text).take stop).count lineFeed ∧
      index.lineCount = 1 + (encode text).count lineFeed ∧
      (∀ start ∈ index.starts, start < wordBound) ∧
      (wordBound ≤ p.line ↔
        offset + 1 = wordBound ∧ bytes text + 1 = wordBound ∧ ∀ c ∈ text, c = '\n') ∧
      (wordBound ≤ p.column ↔
        offset + 1 = wordBound ∧ bytes text + 1 = wordBound ∧ ∀ c ∈ text, c.utf8Size = 1 ∧ c ≠ '\n') := by
  dsimp only
  obtain ⟨hfound, start, hstart, hboundary, hline, hp⟩ := position_eq text offset
  obtain ⟨hlineLe, hlineEq⟩ := line_le htext hoffset
  obtain ⟨hcolumnLe, hcolumnEq⟩ := column_le htext hoffset
  refine ⟨by omega, ⟨start, hstart, hboundary, hline, by rw [hp]⟩, line_eq text offset, lineCount_eq text, ?_, ?_, ?_⟩
  · intro start hstart
    have := (isBoundary_of_mem_lineStarts (List.mem_toArray.mp hstart)).le_bytes
    omega
  · rw [← hlineEq]
    omega
  · rw [← hcolumnEq]
    omega

-- An offset inside of a character counts the character.
theorem position_is_exact_inside_character :
    let text := ['a', '\n', 'é', 'b']
    bytes text < wordBound ∧ 3 < wordBound ∧ ¬IsBoundary text 3 ∧ (ofText text).position 3 = ⟨2, 2⟩ ∧
      (ofText text).lineCount = 2 := by
  obtain ⟨_, ⟨start, hstart, _, _, hcolumn⟩, hline, hcount, _⟩ :=
    @position_is_exact ['a', '\n', 'é', 'b'] 3 (by decide) (by decide)
  obtain rfl : 2 = start := Option.some.inj (Eq.trans (by decide +kernel) hstart)
  refine ⟨by decide, by decide, by decide +kernel, ?_, hcount.trans (by decide +kernel)⟩
  rw [Position.mk.injEq, hline, hcolumn]
  decide +kernel

theorem bytes_replicate (n : Nat) : bytes (List.replicate n 'a') = n := by
  rw [← length_eq_bytes_iff.mpr, List.length_replicate]
  intro c hc
  rw [List.eq_of_mem_replicate hc]
  rfl

-- The column at the end of a longest line is one more than a word holds.
theorem longest_line_leaves_word :
    let text := List.replicate 4294967295 'a'
    bytes text < wordBound ∧ 4294967295 < wordBound ∧ ((ofText text).position 4294967295).column = wordBound := by
  have hbytes := bytes_replicate 4294967295
  have htext : bytes (List.replicate 4294967295 'a') < wordBound := by
    rw [hbytes]
    decide
  refine ⟨htext, by decide, (column_le htext (by decide)).right.mpr ⟨rfl, by rw [hbytes]; rfl, ?_⟩⟩
  intro c hc
  rw [List.eq_of_mem_replicate hc]
  decide

end LineIndex
end MarkerLint
