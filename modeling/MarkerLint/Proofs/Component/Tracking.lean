import Mathlib.Data.Finset.Card
import Mathlib.Data.Finset.Filter
import MarkerLint.Proofs.Rule.Reporting

-- What a tracker of exports knows. Declarations and export lists come in any order, a name may be declared more
-- than once, and a list may give names that are never declared. What counts in the end is which calls there were,
-- not how many of them or in what order.

namespace MarkerLint

-- Something that is told to a tracker.
inductive TrackerCall where
  | declare (name : String) (exported : Bool)
  | list (name : String)
  deriving DecidableEq

-- The name that a call declares.
def TrackerCall.declared? : TrackerCall → Option String
  | declare name _ => some name
  | list _ => none

namespace ExportTracker

def call (t : ExportTracker) : TrackerCall → ExportTracker
  | .declare name exported => t.declare name exported
  | .list name => t.list name

-- A new tracker after some calls.
def ofCalls (calls : List TrackerCall) : ExportTracker :=
  calls.foldl call {}

-- The name was declared, and it was declared in an export or listed.
def MadePublic (calls : List TrackerCall) (name : String) : Prop :=
  (∃ exported, .declare name exported ∈ calls) ∧ (.declare name true ∈ calls ∨ .list name ∈ calls)

instance (calls : List TrackerCall) (name : String) : Decidable (MadePublic calls name) :=
  inferInstanceAs (Decidable (_ ∧ _))

-- The names that some calls make public, each once.
def publicNames (calls : List TrackerCall) : Finset String :=
  {name ∈ (calls.filterMap TrackerCall.declared?).toFinset | MadePublic calls name}

theorem mem_publicNames {calls : List TrackerCall} {name : String} :
    name ∈ publicNames calls ↔ MadePublic calls name := by
  simp only [publicNames, Finset.mem_filter, List.mem_toFinset, List.mem_filterMap, and_iff_right_iff_imp]
  intro h
  have ⟨exported, hc⟩ := h.left
  exact ⟨_, hc, rfl⟩

section

variable {name n : String} {state : ExportState} {entries : List (String × ExportState)} {t : ExportTracker}

theorem map_fst_raise :
    (raise name state entries).map Prod.fst =
      if name ∈ entries.map Prod.fst then entries.map Prod.fst else entries.map Prod.fst ++ [name] := by
  induction entries
  case nil => rfl
  case cons entry entries hi =>
    obtain ⟨m, s⟩ := entry
    by_cases hm : m = name
    case pos => simp [raise, hm]
    case neg =>
      simp only [raise, hm, ↓reduceIte, List.map_cons, hi, List.mem_cons, Ne.symm hm, false_or]
      split <;> rfl

theorem nodup_raise (h : (entries.map Prod.fst).Nodup) : ((raise name state entries).map Prod.fst).Nodup := by
  rw [map_fst_raise]
  split
  case isTrue => exact h
  case isFalse hn =>
    rw [List.nodup_append_comm, List.singleton_append]
    exact h.cons hn

-- In a table with one entry for each name, the state of a name is the one it is entered with.
theorem state?_eq_some (h : (t.declared.map Prod.fst).Nodup) : t.state? n = some state ↔ (n, state) ∈ t.declared := by
  rw [state?, List.lookup_eq_some_iff]
  constructor
  case mp =>
    rintro ⟨before, after, hl, _⟩
    simp [hl]
  case mpr =>
    intro hm
    obtain ⟨before, after, hl⟩ := List.append_of_mem hm
    refine ⟨before, after, hl, fun entry he => ?_⟩
    rw [hl, List.map_append, List.nodup_append] at h
    have hne := h.right.right entry.1 (List.mem_map_of_mem he) n (by simp)
    exact bne_iff_ne.mpr hne.symm

theorem state?_eq_none : t.state? n = none ↔ n ∉ t.declared.map Prod.fst := by
  simp only [state?, List.lookup_eq_none_iff, List.mem_map, bne_iff_ne]
  grind

end

-- What a tracker holds after some calls.
structure Holds (calls : List TrackerCall) (t : ExportTracker) : Prop where
  exported : ∀ n, (n, .exported) ∈ t.declared ↔ .declare n true ∈ calls
  declared : ∀ n, n ∈ t.declared.map Prod.fst ↔ ∃ exported, .declare n exported ∈ calls
  listed : ∀ n, n ∈ t.listed ↔ .list n ∈ calls
  nodup : (t.declared.map Prod.fst).Nodup

namespace Holds

variable {calls : List TrackerCall} {t : ExportTracker} {n : String}

theorem start : Holds [] {} := by
  constructor <;> simp

theorem call (h : Holds calls t) (c : TrackerCall) : Holds (calls ++ [c]) (t.call c) := by
  cases c
  case declare name exported =>
    refine ⟨fun n => ?_, fun n => ?_, fun n => ?_, nodup_raise h.nodup⟩
    · rw [ExportTracker.call, exported_mem_declare, h.exported]
      simp [@eq_comm _ true]
    · rw [ExportTracker.call, mem_keys_declare, h.declared]
      simp [exists_or]
    · simpa [ExportTracker.call, declare] using h.listed n
  case list name =>
    refine ⟨fun n => ?_, fun n => ?_, fun n => ?_, ?_⟩
    · simpa [ExportTracker.call, list_declared] using h.exported n
    · simpa [ExportTracker.call, list_declared] using h.declared n
    · rw [ExportTracker.call, mem_list, h.listed]
      simp
    · simpa only [ExportTracker.call, list_declared] using h.nodup

theorem foldl_call (h : Holds calls t) (more : List TrackerCall) :
    Holds (calls ++ more) (more.foldl ExportTracker.call t) := by
  induction more generalizing calls t
  case nil => simpa using h
  case cons c more hi => simpa using hi (h.call c)

theorem ofCalls (calls : List TrackerCall) : Holds calls (ofCalls calls) :=
  start.foldl_call calls

theorem state?_eq_exported (h : Holds calls t) : t.state? n = some .exported ↔ .declare n true ∈ calls := by
  rw [state?_eq_some h.nodup, h.exported]

theorem state?_eq_none (h : Holds calls t) : t.state? n = none ↔ ∀ exported, .declare n exported ∉ calls := by
  rw [ExportTracker.state?_eq_none, h.declared, not_exists]

-- The state that is left: declared, but never in an export.
theorem state?_eq_declared (h : Holds calls t) :
    t.state? n = some .declared ↔ .declare n false ∈ calls ∧ .declare n true ∉ calls := by
  cases hs : t.state? n
  case none => simp [h.state?_eq_none.mp hs false]
  case some state =>
    cases state
    case exported => simp [h.state?_eq_exported.mp hs]
    case declared =>
      have ht : .declare n true ∉ calls := fun hc => by simp [h.state?_eq_exported.mpr hc] at hs
      have hkey := List.mem_map_of_mem (f := Prod.fst) ((state?_eq_some h.nodup).mp hs)
      obtain ⟨exported, hc⟩ := (h.declared n).mp hkey
      cases exported
      case false => simp [hc, ht]
      case true => contradiction

theorem isExported (h : Holds calls t) : t.finish.isExported n ↔ MadePublic calls n := by
  rw [isExported_finish, h.exported, h.declared, h.listed, MadePublic]
  constructor
  case mp =>
    rintro (he | hl)
    · exact ⟨⟨true, he⟩, .inl he⟩
    · exact ⟨hl.left, .inr hl.right⟩
  case mpr => exact fun ⟨hd, hp⟩ => hp.imp id fun hl => ⟨hd, hl⟩

theorem nodup_names (h : Holds calls t) : t.finish.names.Nodup :=
  h.nodup.sublist (List.filter_sublist.map _)

theorem toFinset_names (h : Holds calls t) : t.finish.names.toFinset = publicNames calls := by
  ext name
  rw [List.mem_toFinset, mem_publicNames, ← h.isExported, Reachability.isExported, List.contains_iff_mem]

theorem count_eq (h : Holds calls t) : t.finish.count = (publicNames calls).card := by
  rw [← h.toFinset_names, List.toFinset_card_of_nodup h.nodup_names, Reachability.count]

end Holds

theorem publicNames_perm {calls calls' : List TrackerCall} (h : calls'.Perm calls) :
    publicNames calls' = publicNames calls := by
  ext name
  simp only [mem_publicNames, MadePublic, h.mem_iff]

-- The state of a name and whether it is public in the end depend on nothing but which calls there were: a
-- name that is exported stays so, and the same calls in another order make the same names public.
theorem ofCalls_order_independent (calls : List TrackerCall) :
    (∀ seen, seen <+: calls → ∀ name,
      ((ofCalls seen).state? name = some .exported ↔ .declare name true ∈ seen) ∧
      ((ofCalls seen).state? name = some .declared ↔ .declare name false ∈ seen ∧ .declare name true ∉ seen) ∧
      ((ofCalls seen).state? name = none ↔ ∀ exported, .declare name exported ∉ seen) ∧
      ((ofCalls seen).state? name = some .exported → (ofCalls calls).state? name = some .exported)) ∧
    (∀ name, (ofCalls calls).finish.isExported name ↔
      (∃ exported, .declare name exported ∈ calls) ∧ (.declare name true ∈ calls ∨ .list name ∈ calls)) ∧
    (ofCalls calls).finish.count = (publicNames calls).card ∧
    ∀ calls', calls'.Perm calls →
      (ofCalls calls').finish.names.Perm (ofCalls calls).finish.names ∧
      (∀ name, (ofCalls calls').finish.isExported name = (ofCalls calls).finish.isExported name) ∧
      (ofCalls calls').finish.count = (ofCalls calls).finish.count := by
  have h := Holds.ofCalls
  refine ⟨fun seen hseen name => ?_, fun name => (h calls).isExported, (h calls).count_eq, fun calls' hperm => ?_⟩
  · refine ⟨(h seen).state?_eq_exported, (h seen).state?_eq_declared, (h seen).state?_eq_none, ?_⟩
    rw [(h seen).state?_eq_exported, (h calls).state?_eq_exported]
    exact fun hc => hseen.subset hc
  · have hnames : (ofCalls calls').finish.names.Perm (ofCalls calls).finish.names := by
      rw [List.perm_ext_iff_of_nodup (h calls').nodup_names (h calls).nodup_names]
      intro name
      rw [← List.mem_toFinset, ← List.mem_toFinset, (h calls').toFinset_names, (h calls).toFinset_names,
        publicNames_perm hperm]
    exact ⟨hnames, fun name => hnames.contains_eq, hnames.length_eq⟩

-- A list before its declaration, a name that is declared twice, one that is only listed and one that is not.
theorem ofCalls_order_independent_lists_first :
    let calls : List TrackerCall :=
      [.list "A", .declare "A" false, .declare "B" true, .declare "B" false, .list "C", .declare "D" false]
    (ofCalls (calls.take 2)).state? "A" = some .declared ∧
      (ofCalls (calls.take 4)).state? "B" = some .exported ∧
      (ofCalls calls).finish.count = 2 ∧
      ∀ name, (ofCalls calls.reverse).finish.isExported name = (ofCalls calls).finish.isExported name := by
  intro calls
  obtain ⟨hstate, _, hcount, hperm⟩ := ofCalls_order_independent calls
  refine ⟨?_, ?_, ?_, (hperm calls.reverse (List.reverse_perm calls)).right.left⟩
  · exact (hstate (calls.take 2) (List.take_prefix 2 calls) "A").right.left.mpr (by decide)
  · exact (hstate (calls.take 4) (List.take_prefix 4 calls) "B").left.mpr (by decide)
  · rw [hcount]
    decide

end ExportTracker
end MarkerLint
