import Mathlib.Data.List.Nodup
import Mathlib.Data.List.Perm.Basic
import Mathlib.Data.List.ReduceOption
import MarkerLint.Proofs.Json.Skipping
import MarkerLint.Settings

-- Settings that are saved can be loaded again. While a record is read from an object, the members that were seen
-- have their values, and all others have their defaults. So it does not matter in which order members come, nor
-- which unknown ones come between them, and the record that is read depends only on which members there are.

namespace MarkerLint

namespace Json

-- A member with a key that is not asked for.
def Unknown (keys : List String) (m : List Char × List Char) : Prop :=
  ∃ key, key ∉ keys ∧ Spells m.1 key.toList ∧ WellFormed m.2

-- The text of an object that has, in any order, all of the `known` members and others with keys that are not asked
-- for. A known member is given by its key and by the texts that its value may have.
def RecordText (keys : List String) (known : List (String × (List Char → Prop))) (t : List Char) : Prop :=
  ∃ texts others all, List.Forall₂ (fun m k => Spells m.1 k.1.toList ∧ k.2 m.2) texts known ∧
    (∀ m ∈ others, Unknown keys m) ∧ all.Perm (texts ++ others) ∧ Braced all t

-- The written form of an object has its members in order and no others.
theorem Denotes.recordText {t : List Char} {members : List (String × Json)} {known : List (String × (List Char → Prop))}
    (h : Denotes t (.object members)) (keys : List String)
    (hk : List.Forall₂ (fun m k => m.1 = k.1 ∧ ∀ t, Denotes t m.2 → k.2 t) members known) :
    RecordText keys known t := by
  cases h
  case object texts hb hl hkeys hvalues =>
    have htexts : List.Forall₂ (fun member m => Spells m.1 member.1.toList ∧ Denotes m.2 member.2) members texts :=
      .flip (List.forall₂_iff_zip.mpr ⟨hl, fun hp => ⟨hkeys _ hp, hvalues _ hp⟩⟩)
    refine ⟨texts, [], texts, (forall₂_through htexts hk).imp ?_, List.forall_mem_nil _, by simp, hb⟩
    rintro m k ⟨member, ⟨hspells, hdenotes⟩, hkey, hvalue⟩
    exact ⟨hkey ▸ hspells, hvalue _ hdenotes⟩

namespace RecordReader

variable {α : Type}

-- What a member adds to the members that were seen, where `only seen` is the record of which just these were read.
inductive Adds (r : RecordReader α) (only : List Nat → α) (m : List Char × List Char) : Option Nat → Prop
  | unknown : Unknown r.keys m → Adds r only m none
  | known {key i} : Spells m.1 key.toList → r.keys.idxOf? key = some i →
    (∀ seen, i ∉ seen → Reads (r.readMember i (only seen)) m.2 (only (i :: seen))) → Adds r only m (some i)

-- A member is read. One that was seen already is refused.
def Sees (r : RecordReader α) (only : List Nat → α) (text : List Char) (seen seen' : List Nat) : Prop :=
  ∃ m index, Member m text ∧ r.Adds only m index ∧ (∀ i ∈ index, i ∉ seen) ∧ seen' = index.toList ++ seen

variable {r : RecordReader α} {only : List Nat → α} {m : List Char × List Char} {rest : List Char} {seen : List Nat}

theorem objectStep_takesItems :
    TakesItems '}' r.objectStep (fun seen first => (only seen, seen, first)) only (r.Sees only) where
  ne_nil := by
    rintro text seen seen' ⟨m, index, ⟨w, w', _, _, rfl⟩, _⟩
    exact List.cons_ne_nil _ _
  close first rest hw := by
    rw [objectStep, nextMember_close hw, ok_bind]
    rfl
  more := by
    rintro first lead text seen seen' rest hl ⟨m, index, ⟨w, w', hw, hw', rfl⟩, hadds, hseen, rfl⟩ hr
    simp only [List.cons_append, List.append_assoc]
    rw [objectStep, nextMember_lead hl, ok_bind]
    cases hadds
    case unknown h =>
      obtain ⟨key, hkey, hspells, hvalue⟩ := h
      have hindex : r.keys.idxOf? key = none := List.idxOf?_eq_none_iff.mpr hkey
      simp only [Bool.not_true, Bool.false_eq_true, if_false, readString_append hspells, ok_bind, hindex,
        readColon_append hw, skipValue_append hw' hvalue hr]
      rfl
    case known key i hspells hindex hread =>
      have hnew : i ∉ seen := hseen i rfl
      simp only [Bool.not_true, Bool.false_eq_true, if_false, readString_append hspells, ok_bind, hindex,
        readColon_append hw, hread seen hnew w' rest hw' hr, List.contains_eq_mem, hnew, decide_false]
      rfl

-- No member is refused if no index comes twice and none was seen before.
theorem acts_sees {members : List (List Char × List Char)} {items : List (List Char)} {indices : List (Option Nat)}
    (hm : List.Forall₂ Member members items) (ha : List.Forall₂ (r.Adds only) members indices)
    (hn : (indices.reduceOption ++ seen).Nodup) :
    Acts (r.Sees only) items seen (indices.reduceOption.reverse ++ seen) := by
  induction hm generalizing indices seen
  case nil =>
    cases ha
    exact .nil
  case cons m item members items hm _ hi =>
    cases ha
    case cons index indices hadds ha =>
      cases index
      case none =>
        rw [List.reduceOption_cons_of_none] at hn ⊢
        exact .cons ⟨m, none, hm, hadds, by simp, rfl⟩ (hi ha hn)
      case some i =>
        rw [List.reduceOption_cons_of_some, List.cons_append, ← List.perm_middle.nodup_iff] at hn
        rw [List.reduceOption_cons_of_some, List.reverse_cons, List.append_assoc]
        have hnew : i ∉ seen := (List.nodup_cons.mp (List.nodup_append.mp hn).2.1).1
        refine .cons ⟨m, some i, hm, hadds, ?_, rfl⟩ (hi ha hn)
        rintro j ⟨⟩
        exact hnew

theorem nodup_indices {keys names : List String} (h : names.Nodup) : (names.filterMap keys.idxOf?).Nodup := by
  refine h.filterMap fun a b i ha hb => ?_
  obtain ⟨_, rfl, _⟩ := List.idxOf?_eq_some_iff.mp ha
  obtain ⟨_, rfl, _⟩ := List.idxOf?_eq_some_iff.mp hb
  rfl

-- Every known member is read, and has its value once it was seen.
def Covers (r : RecordReader α) (only : List Nat → α) (known : List (String × (List Char → Prop))) : Prop :=
  ∀ k ∈ known, ∃ i, r.keys.idxOf? k.1 = some i ∧
    ∀ t, k.2 t → ∀ seen, i ∉ seen → Reads (r.readMember i (only seen)) t (only (i :: seen))

variable {known : List (String × (List Char → Prop))} {texts others all : List (List Char × List Char)}

theorem Covers.exists_indices (hc : r.Covers only known)
    (ht : List.Forall₂ (fun m k => Spells m.1 k.1.toList ∧ k.2 m.2) texts known) (ho : ∀ m ∈ others, Unknown r.keys m)
    (hp : all.Perm (texts ++ others)) :
    ∃ indices, List.Forall₂ (r.Adds only) all indices ∧
      indices.reduceOption.Perm ((known.map Prod.fst).filterMap r.keys.idxOf?) := by
  have htexts : List.Forall₂ (r.Adds only) texts (known.map fun k => r.keys.idxOf? k.1) := by
    rw [List.forall₂_map_right_iff]
    refine List.forall₂_iff_zip.mpr ⟨ht.length_eq, fun {m k} hp => ?_⟩
    obtain ⟨i, hindex, hread⟩ := hc k (List.of_mem_zip hp).2
    obtain ⟨hspells, hvalue⟩ := List.forall₂_zip ht hp
    rw [hindex]
    exact .known hspells hindex (hread m.2 hvalue)
  have hothers : List.Forall₂ (r.Adds only) others (others.map fun _ => none) := by
    rw [List.forall₂_map_right_iff, List.forall₂_same]
    exact fun m hm => .unknown (ho m hm)
  -- The indices are moved along with the members.
  obtain ⟨indices, hadds, hperm⟩ := List.perm_comp_forall₂ hp (List.rel_append htexts hothers)
  refine ⟨indices, hadds, (hperm.filterMap id).trans (.of_eq ?_)⟩
  simp [List.filterMap_map]

-- A record is read from all of its known members, whatever their order and whatever comes between them.
theorem Covers.reads {t : List Char} {record : α} (hc : r.Covers only known) (hk : (known.map Prod.fst).Nodup)
    (honly : ∀ seen, (∀ k ∈ known, ∀ i ∈ r.keys.idxOf? k.1, i ∈ seen) → only seen = record)
    (h : RecordText r.keys known t) : Reads (r.read (only [])) t record := by
  obtain ⟨texts, others, all, ht, ho, hp, items, hmembers, hb⟩ := h
  obtain ⟨indices, hadds, hperm⟩ := hc.exists_indices ht ho hp
  have hnodup : (indices.reduceOption ++ []).Nodup := by
    rw [List.append_nil, hperm.nodup_iff]
    exact nodup_indices hk
  obtain ⟨body, rfl, hscan⟩ := objectStep_takesItems.scan_bracketed (by simp) hb (acts_sees hmembers hadds hnodup)
  intro w rest hw _
  rw [read, List.cons_append, skipBlanks_to hw rfl]
  refine (hscan rest).trans ?_
  rw [honly _ fun k hk i hi => ?_]
  rw [List.append_nil, List.mem_reverse, hperm.mem_iff, List.mem_filterMap]
  exact ⟨k.1, List.mem_map_of_mem hk, hi⟩

end RecordReader

section

variable {t : List Char} {s : String}

theorem Reads.map {α β : Type} {read : List Char → Except ReadError (Read α)} {a : α} (h : Reads read t a) (f : α → β) :
    Reads (fun cs => do let (x, rest) ← read cs; .ok (f x, rest)) t (f a) := by
  intro w rest hw hr
  dsimp only
  rw [h w rest hw hr, ok_bind]

theorem Denotes.reads_text (h : Denotes t (.text s)) : Reads readStringValue t s := by
  cases h
  case text ht => exact readStringValue_reads ht

theorem Denotes.reads_optionalText (h : Denotes t (.text s)) : Reads readOptionalString t (some s) := by
  cases h
  case text t ht =>
    intro w rest hw hr
    have hread := (readStringValue_reads ht).here hr
    rw [List.cons_append] at hread
    rw [readOptionalString, List.cons_append, skipBlanks_to hw rfl]
    change (readStringValue _ >>= _) = _
    rw [hread, ok_bind]

theorem Denotes.reads_texts {ss : List String} (h : Denotes t (.array (ss.map .text))) : Reads readStrings t ss := by
  cases h
  case array items hb hl hi =>
    have helements : List.Forall₂ (IsElement readStringValue) items ss := by
      have htexts : List.Forall₂ Denotes items (ss.map .text) := List.forall₂_iff_zip.mpr ⟨hl, fun hp => hi _ hp⟩
      rw [List.forall₂_map_right_iff] at htexts
      exact htexts.imp fun item s h => ⟨h.wellFormed.starts, h.reads_text⟩
    obtain ⟨body, rfl, hscan⟩ := scan_elements hb helements
    intro w rest hw _
    rw [readStrings, stringsStep_eq, List.cons_append, skipBlanks_to hw rfl]
    exact hscan rest

end
end Json

open Json

namespace MarkerOptions

-- Options of which only the members with some indices were read.
def only (o : MarkerOptions) (seen : List Nat) : MarkerOptions where
  excludeComponentNames := if 0 ∈ seen then o.excludeComponentNames else ({} : MarkerOptions).excludeComponentNames
  markerAttribute := if 1 ∈ seen then o.markerAttribute else ({} : MarkerOptions).markerAttribute
  componentWrappers := if 2 ∈ seen then o.componentWrappers else ({} : MarkerOptions).componentWrappers

def known (o : MarkerOptions) : List (String × (List Char → Prop)) := [
  ("excludeComponentNames", (Denotes · (.array (o.excludeComponentNames.map .text)))),
  ("markerAttribute", (Denotes · (.text o.markerAttribute))),
  ("componentWrappers", (Denotes · (.array (o.componentWrappers.map .text))))]

-- The texts from which options may be read.
def Saved (o : MarkerOptions) (t : List Char) : Prop :=
  RecordText reader.keys o.known t

theorem covers (o : MarkerOptions) : reader.Covers o.only o.known := by
  intro k hk
  simp only [known, List.mem_cons, List.not_mem_nil, or_false] at hk
  obtain rfl | rfl | rfl := hk
  · refine ⟨0, rfl, fun t ht seen _ => ?_⟩
    have honly : o.only (0 :: seen) = { o.only seen with excludeComponentNames := o.excludeComponentNames } := by
      simp [only]
    rw [honly]
    exact (Denotes.reads_texts ht).map fun names => { o.only seen with excludeComponentNames := names }
  · refine ⟨1, rfl, fun t ht seen _ => ?_⟩
    have honly : o.only (1 :: seen) = { o.only seen with markerAttribute := o.markerAttribute } := by
      simp [only]
    rw [honly]
    exact (Denotes.reads_text ht).map fun marker => { o.only seen with markerAttribute := marker }
  · refine ⟨2, rfl, fun t ht seen _ => ?_⟩
    have honly : o.only (2 :: seen) = { o.only seen with componentWrappers := o.componentWrappers } := by
      simp [only]
    rw [honly]
    exact (Denotes.reads_texts ht).map fun wrappers => { o.only seen with componentWrappers := wrappers }

theorem Saved.reads {o : MarkerOptions} {t : List Char} (h : o.Saved t) : Reads (reader.read {}) t o := by
  refine o.covers.reads (by simp [known]) (fun seen hseen => ?_) h
  have hexcluded : 0 ∈ seen := hseen _ (.head _) 0 rfl
  have hmarker : 1 ∈ seen := hseen _ (.tail _ (.head _)) 1 rfl
  have hwrappers : 2 ∈ seen := hseen _ (.tail _ (.tail _ (.head _))) 2 rfl
  simp [only, hexcluded, hmarker, hwrappers]

theorem saved_of_denotes {o : MarkerOptions} {t : List Char} (h : Denotes t o.toJson) : o.Saved t :=
  h.recordText _ (.cons ⟨rfl, fun _ => id⟩ (.cons ⟨rfl, fun _ => id⟩ (.cons ⟨rfl, fun _ => id⟩ .nil)))

end MarkerOptions

namespace Settings

-- Settings of which only the members with some indices were read.
def only (s : Settings) (seen : List Nat) : Settings where
  schemaReference := if 0 ∈ seen then s.schemaReference else none
  markerOptions := if 1 ∈ seen then s.markerOptions else {}

def known (s : Settings) : List (String × (List Char → Prop)) :=
  (s.schemaReference.map fun r => ("$schema", (Denotes · (.text r)))).toList ++
    [("dataComponent", s.markerOptions.Saved)]

-- The texts from which settings may be read.
def Saved (s : Settings) (t : List Char) : Prop :=
  RecordText reader.keys s.known t

theorem covers (s : Settings) : reader.Covers s.only s.known := by
  intro k hk
  obtain hk | hk := List.mem_append.mp hk
  · obtain ⟨r, hr, rfl⟩ : ∃ r, s.schemaReference = some r ∧ ("$schema", (Denotes · (.text r))) = k := by
      simpa using hk
    refine ⟨0, rfl, fun t ht seen _ => ?_⟩
    have honly : s.only (0 :: seen) = { s.only seen with schemaReference := some r } := by
      simp [only, hr]
    rw [honly]
    exact (Denotes.reads_optionalText ht).map fun reference => { s.only seen with schemaReference := reference }
  · obtain rfl := List.mem_singleton.mp hk
    refine ⟨1, rfl, fun t ht seen _ => ?_⟩
    have honly : s.only (1 :: seen) = { s.only seen with markerOptions := s.markerOptions } := by
      simp [only]
    rw [honly]
    exact (MarkerOptions.Saved.reads ht).map fun options => { s.only seen with markerOptions := options }

theorem Saved.reads {s : Settings} {t : List Char} (h : s.Saved t) : Reads (reader.read {}) t s := by
  obtain ⟨reference, options⟩ := s
  have hkeys : ((Settings.mk reference options).known.map Prod.fst).Nodup := by
    cases reference
    all_goals simp [known]
  refine (covers _).reads hkeys (fun seen hseen => ?_) h
  have hoptions : 1 ∈ seen := hseen ("dataComponent", options.Saved) (by simp [known]) 1 rfl
  cases reference
  case none => simp [only, hoptions]
  case some r =>
    have hreference : 0 ∈ seen := hseen ("$schema", (Denotes · (.text r))) (by simp [known]) 0 rfl
    simp [only, hoptions, hreference]

theorem saved_of_denotes {s : Settings} {t : List Char} (h : Denotes t s.toJson) : s.Saved t := by
  obtain ⟨reference, options⟩ := s
  have hoptions (t : List Char) : Denotes t options.toJson → options.Saved t := MarkerOptions.saved_of_denotes
  cases reference
  case none => exact h.recordText _ (.cons ⟨rfl, hoptions⟩ .nil)
  case some r => exact h.recordText _ (.cons ⟨rfl, fun _ => id⟩ (.cons ⟨rfl, hoptions⟩ .nil))

theorem Saved.ofText_eq {s : Settings} {w t w' : List Char} (hw : Blanks w) (h : s.Saved t) (hw' : Blanks w') :
    ofText (w ++ (t ++ w')) = .ok s := by
  rw [ofText, h.reads w w' hw hw'.endsNumber, ok_bind]
  simp [skipBlanks_blanks hw']

-- The written form of settings is read as these settings again, and so is every text that denotes the same value.
-- Members of both objects may be moved, and unknown members with any values may be added to both.
theorem settings_survive_saving (s : Settings) :
    ofText s.toJson.pretty.toList = .ok s ∧ (∀ t, Denotes t s.toJson → s.Saved t) ∧
      ∀ w t w', Blanks w → s.Saved t → Blanks w' → ofText (w ++ (t ++ w')) = .ok s := by
  refine ⟨?_, fun t => saved_of_denotes, fun w t w' hw h hw' => h.ofText_eq hw hw'⟩
  have hsaved : s.Saved (s.toJson.render 0) := saved_of_denotes (denotes_render 0 s.toJson)
  have hread := hsaved.ofText_eq blanks_nil blanks_nil
  rw [List.nil_append, List.append_nil] at hread
  rwa [pretty, String.toList_ofList]

namespace Sample

def objectText (members : List (String × List Char)) : List Char :=
  bracketed '{' '}' 0 (members.map fun m => quote m.1 ++ ':' :: ' ' :: m.2)

theorem recordText_objectText {keys : List String} {known : List (String × (List Char → Prop))}
    {members others all : List (String × List Char)} (hm : List.Forall₂ (fun m k => m.1 = k.1 ∧ k.2 m.2) members known)
    (ho : ∀ m ∈ others, m.1 ∉ keys ∧ WellFormed m.2) (hp : all.Perm (members ++ others)) :
    RecordText keys known (objectText all) := by
  let escape (m : String × List Char) : List Char × List Char := (m.1.toList.flatMap escapeChar, m.2)
  refine ⟨members.map escape, others.map escape, all.map escape, ?_, ?_, ?_, _, ?_, bracketed_items '{' '}' 0 _⟩
  · rw [List.forall₂_map_left_iff]
    exact hm.imp fun m k h => ⟨h.1 ▸ spells_flatMap m.1.toList, h.2⟩
  · exact List.forall_mem_map.mpr fun m hm => ⟨m.1, (ho m hm).1, spells_flatMap m.1.toList, (ho m hm).2⟩
  · rw [← List.map_append]
    exact hp.map escape
  · rw [List.forall₂_map_left_iff, List.forall₂_map_right_iff, List.forall₂_same]
    exact fun m _ => member_quote m.1 m.2

def settings : Settings where
  schemaReference := some "s"
  markerOptions := { excludeComponentNames := [], markerAttribute := "é\"", componentWrappers := [] }

-- A value that is of no use: half of a pair of surrogates, and a number that is not natural.
def note : List Char :=
  bracketed '[' ']' 0 ["\"\\ud800\"".toList, "-1.5e3".toList]

def marker : List Char :=
  "\"é\\u0022\"".toList

def options : List Char :=
  objectText [("componentWrappers", ['[', ']']), ("markerAttribute", marker), ("$schema", note),
    ("excludeComponentNames", ['[', ' ', ']'])]

def text : List Char :=
  objectText [("note", note), ("dataComponent", options), ("note", note), ("$schema", ['"', 's', '"'])]

theorem wellFormed_note : WellFormed note := by
  refine .array (bracketed_items ..) (List.forall_mem_cons.mpr ⟨?_, List.forall_mem_singleton.mpr ?_⟩)
  · exact @WellFormed.text ['\\', 'u', 'd', '8', '0', '0'] (@Marks.unicode ['d', '8', '0', '0'] _ [] ⟨rfl, rfl⟩ .nil)
  · have hdigits (d : Char) (hd : d.isDigit) : Digits [d] :=
      ⟨List.cons_ne_nil d [], List.forall_mem_singleton.mpr hd⟩
    refine .negative ⟨['1'], ['.', '5'], ['e', '3'], .digits (hdigits '1' rfl) (by simp), ?_, ?_, rfl⟩
    · exact .point (hdigits '5' rfl)
    · exact @Exponent.power 'e' [] ['3'] List.mem_cons_self List.mem_cons_self (hdigits '3' rfl)

theorem denotes_empty {w : List Char} (hw : Blanks w) : Denotes ('[' :: (w ++ [']'])) (.array []) :=
  .array (.empty hw) rfl (List.forall_mem_nil _)

theorem denotes_marker : Denotes marker (.text settings.markerOptions.markerAttribute) := by
  have hletter : Glyph ['é'] 'é' := .plain (by unfold IsPlain; decide)
  have hquote : Glyph ['\\', 'u', '0', '0', '2', '2'] '"' :=
    @Glyph.unicode ['0', '0', '2', '2'] 0x22 ⟨rfl, rfl⟩ (by unfold IsHigh; decide) (by unfold IsLow; decide)
  exact @Denotes.text _ "é\"" (.cons hletter (.cons hquote .nil))

theorem denotes_reference : Denotes ['"', 's', '"'] (.text "s") :=
  denotes_render 0 (.text "s")

theorem saved_options : settings.markerOptions.Saved options := by
  refine @recordText_objectText _ _ [("excludeComponentNames", ['[', ' ', ']']), ("markerAttribute", marker),
    ("componentWrappers", ['[', ']'])] [("$schema", note)] _ ?_ ?_ (by decide +kernel)
  · refine .cons ⟨rfl, @denotes_empty [' '] (List.forall_mem_singleton.mpr rfl)⟩ (.cons ⟨rfl, denotes_marker⟩ ?_)
    exact .cons ⟨rfl, @denotes_empty [] blanks_nil⟩ .nil
  · exact List.forall_mem_singleton.mpr ⟨by decide, wellFormed_note⟩

theorem saved_text : settings.Saved text := by
  refine @recordText_objectText _ _ [("$schema", ['"', 's', '"']), ("dataComponent", options)]
    [("note", note), ("note", note)] _ ?_ ?_ (by decide +kernel)
  · exact .cons ⟨rfl, denotes_reference⟩ (.cons ⟨rfl, saved_options⟩ .nil)
  · intro m hm
    obtain rfl : m = ("note", note) := by simpa using hm
    exact ⟨by decide, wellFormed_note⟩

end Sample

-- Members were moved and unknown ones put in between, some twice and some with a key of the other object. Lists that
-- are empty stay so, although the defaults are not.
theorem settings_survive_saving_moved :
    Blanks ['\n'] ∧ Sample.settings.Saved Sample.text ∧ Sample.settings.Saved (Sample.settings.toJson.render 0) ∧
      ofText ('\n' :: (Sample.text ++ ['\n'])) = .ok Sample.settings := by
  have hblanks : Blanks ['\n'] := List.forall_mem_singleton.mpr rfl
  obtain ⟨_, hsaved, htext⟩ := settings_survive_saving Sample.settings
  exact ⟨hblanks, Sample.saved_text, hsaved _ (denotes_render 0 _),
    htext ['\n'] _ ['\n'] hblanks Sample.saved_text hblanks⟩

end Settings

end MarkerLint
