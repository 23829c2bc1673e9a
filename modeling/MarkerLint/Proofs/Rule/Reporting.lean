import Mathlib.Data.List.Basic
import MarkerLint.Rule

-- What the marker rule reports. The statements of a program are read once, and a component is audited before it is
-- known whether its name is public. What comes out is what two readings would give: the first collects the public
-- names, the second reports the components that have one.

namespace MarkerLint

open Outline

-- The names that a statement makes public apart from the declarations it holds.
def TopLevel.names : TopLevel → List String
  | exports names => names
  | components _ | other => []

-- The name is declared in an export, or a list anywhere in the program gives it.
def Reachable (policy : Policy) (program : Node) (name : String) : Prop :=
  (∃ c ∈ candidates policy program, c.name = some name ∧ c.exported = true) ∨
    ∃ s ∈ topLevelStatements program, name ∈ (TopLevel.ofStatement policy s).names

instance (policy : Policy) (program : Node) (name : String) : Decidable (Reachable policy program name) :=
  inferInstanceAs (Decidable (_ ∨ _))

def Outcome.violation? : Outcome → Option Violation
  | violation v => some v
  | compliant | excluded => none

-- The violation of a component whose name is public.
def publicViolation? (policy : Policy) (schema : Schema) (program : Node) (c : Candidate) : Option Violation :=
  (audit policy schema c).violation?.filter fun _ => c.name.any (Reachable policy program ·)

-- What is to be reported of a program, in the order of its components.
def reported (policy : Policy) (schema : Schema) (program : Node) : List Violation :=
  (candidates policy program).filterMap (publicViolation? policy schema program)

theorem violation?_eq_some {o : Outcome} {v : Violation} : o.violation? = some v ↔ o = .violation v := by
  cases o <;> simp [Outcome.violation?]

theorem audit_eq_violation {policy : Policy} {schema : Schema} {c : Candidate} {v : Violation} :
    audit policy schema c = .violation v ↔ ∃ component place, c.name = some component ∧
      (findings policy schema c.render).target = some place ∧ v = .of policy component place := by
  unfold audit
  cases c.name
  case none => simp
  case some component =>
    cases ht : (findings policy schema c.render).target
    case none =>
      simp only [ht]
      split <;> simp
    case some place => simp [ht, @eq_comm _ v]

-- A violation bears the name of its component.
theorem name_of_audit {policy : Policy} {schema : Schema} {c : Candidate} {v : Violation}
    (h : audit policy schema c = .violation v) : c.name = some v.component := by
  obtain ⟨component, place, hn, _, rfl⟩ := audit_eq_violation.mp h
  exact hn

theorem publicViolation?_eq_some {policy : Policy} {schema : Schema} {program : Node} {c : Candidate}
    {v : Violation} :
    publicViolation? policy schema program c = some v ↔
      audit policy schema c = .violation v ∧ ∃ name, c.name = some name ∧ Reachable policy program name := by
  simp [publicViolation?, Option.filter_eq_some_iff, violation?_eq_some, Option.any_eq_true]

namespace ExportTracker

variable {name n : String} {state : ExportState} {l : List (String × ExportState)}

theorem exported_mem_raise :
    (n, .exported) ∈ raise name state l ↔ (n, .exported) ∈ l ∨ n = name ∧ state = .exported := by
  induction l
  case nil => simp [raise, eq_comm]
  case cons entry l hi =>
    have ⟨m, s⟩ := entry
    by_cases hm : m = name
    case pos =>
      subst hm
      cases state <;> cases s <;> simp [raise, or_comm]
    case neg => simp only [raise, hm, ↓reduceIte, List.mem_cons, hi, or_assoc]

theorem mem_keys_raise : n ∈ (raise name state l).map Prod.fst ↔ n ∈ l.map Prod.fst ∨ n = name := by
  induction l
  case nil => simp [raise]
  case cons entry l hi =>
    have ⟨m, s⟩ := entry
    by_cases hm : m = name
    case pos =>
      simp only [raise, hm, ↓reduceIte, List.map_cons, List.mem_cons, or_right_comm, or_self]
    case neg => simp only [raise, hm, ↓reduceIte, List.map_cons, List.mem_cons, hi, or_assoc]

theorem exported_mem_declare {t : ExportTracker} {exported : Bool} :
    (n, .exported) ∈ (t.declare name exported).declared ↔
      (n, .exported) ∈ t.declared ∨ n = name ∧ exported = true := by
  rw [declare, exported_mem_raise]
  cases exported <;> simp

theorem mem_keys_declare {t : ExportTracker} {exported : Bool} :
    n ∈ (t.declare name exported).declared.map Prod.fst ↔ n ∈ t.declared.map Prod.fst ∨ n = name :=
  mem_keys_raise

theorem list_declared (t : ExportTracker) : (t.list name).declared = t.declared := by
  unfold list
  split <;> rfl

theorem mem_list {t : ExportTracker} : n ∈ (t.list name).listed ↔ n ∈ t.listed ∨ n = name := by
  unfold list
  split
  case isTrue h =>
    simp only [List.contains_iff_mem] at h
    exact ⟨.inl, fun hn => hn.elim id (· ▸ h)⟩
  case isFalse => simp [or_comm]

theorem isExported_finish {t : ExportTracker} :
    t.finish.isExported n ↔ (n, .exported) ∈ t.declared ∨ n ∈ t.declared.map Prod.fst ∧ n ∈ t.listed := by
  simp only [Reachability.isExported, finish, List.contains_iff_mem, List.mem_map, List.mem_filter, Prod.exists,
    exists_and_right, exists_eq_right, Bool.or_eq_true, decide_eq_true_eq]
  constructor
  case mp =>
    rintro ⟨s, hs, rfl | hl⟩
    · exact .inl hs
    · exact .inr ⟨⟨s, hs⟩, hl⟩
  case mpr =>
    rintro (he | ⟨⟨s, hs⟩, hl⟩)
    · exact ⟨_, he, .inl rfl⟩
    · exact ⟨s, hs, .inr hl⟩

end ExportTracker

theorem MarkerRule.scanCandidate_tracker (policy : Policy) (schema : Schema) (scan : Scan) (c : Candidate) :
    (scanCandidate policy schema scan c).tracker =
      c.name.elim scan.tracker (scan.tracker.declare · c.exported) := by
  cases hn : c.name <;> cases ha : audit policy schema c <;> simp [scanCandidate, hn, ha]

-- What a scan holds back after these components and these listed names.
structure Scanned (policy : Policy) (schema : Schema) (read : List Candidate) (names : List String)
    (scan : MarkerRule.Scan) : Prop where
  violations : scan.violations = read.filterMap fun c => (audit policy schema c).violation?
  exported : ∀ n, (n, .exported) ∈ scan.tracker.declared ↔ ∃ c ∈ read, c.name = some n ∧ c.exported = true
  declared : ∀ n, n ∈ scan.tracker.declared.map Prod.fst ↔ ∃ c ∈ read, c.name = some n
  listed : ∀ n, n ∈ scan.tracker.listed ↔ n ∈ names

namespace Scanned

variable {policy : Policy} {schema : Schema} {read : List Candidate} {names : List String} {scan : MarkerRule.Scan}

theorem start : Scanned policy schema [] [] {} := by
  constructor <;> simp

theorem candidate (s : Scanned policy schema read names scan) (c : Candidate) :
    Scanned policy schema (read ++ [c]) names (MarkerRule.scanCandidate policy schema scan c) where
  violations := by
    cases hn : c.name <;> cases ha : audit policy schema c <;>
      simp [MarkerRule.scanCandidate, hn, ha, s.violations, Outcome.violation?]
  exported n := by
    rw [MarkerRule.scanCandidate_tracker]
    cases hn : c.name
    case none => simp [s.exported, hn]
    case some name =>
      rw [Option.elim_some, ExportTracker.exported_mem_declare, s.exported]
      simp [hn, or_and_right, exists_or, @eq_comm _ n]
  declared n := by
    rw [MarkerRule.scanCandidate_tracker]
    cases hn : c.name
    case none => simpa [hn] using s.declared n
    case some name =>
      rw [Option.elim_some, ExportTracker.mem_keys_declare, s.declared]
      simp [hn, or_and_right, exists_or, @eq_comm _ n]
  listed n := by
    rw [MarkerRule.scanCandidate_tracker]
    cases hn : c.name <;> exact s.listed n

theorem candidates (s : Scanned policy schema read names scan) (cs : List Candidate) :
    Scanned policy schema (read ++ cs) names (cs.foldl (MarkerRule.scanCandidate policy schema) scan) := by
  induction cs generalizing read scan
  case nil => simpa using s
  case cons c cs hi => simpa using hi (s.candidate c)

theorem listOne (s : Scanned policy schema read names scan) (n : String) :
    Scanned policy schema read (names ++ [n]) { scan with tracker := scan.tracker.list n } where
  violations := s.violations
  exported m := by simpa [ExportTracker.list_declared] using s.exported m
  declared m := by simpa [ExportTracker.list_declared] using s.declared m
  listed m := by simp [ExportTracker.mem_list, s.listed]

theorem list (s : Scanned policy schema read names scan) (ns : List String) :
    Scanned policy schema read (names ++ ns) { scan with tracker := ns.foldl ExportTracker.list scan.tracker } := by
  induction ns generalizing names scan
  case nil => simpa using s
  case cons n ns hi => simpa using hi (s.listOne n)

theorem statement (s : Scanned policy schema read names scan) (statement : Place) :
    Scanned policy schema (read ++ (TopLevel.ofStatement policy statement).candidates)
      (names ++ (TopLevel.ofStatement policy statement).names)
      (MarkerRule.scanStatement policy schema scan statement) := by
  unfold MarkerRule.scanStatement
  cases TopLevel.ofStatement policy statement
  case components cs => simpa [TopLevel.candidates, TopLevel.names] using s.candidates cs
  case exports ns => simpa [TopLevel.candidates, TopLevel.names] using s.list ns
  case other => simpa [TopLevel.candidates, TopLevel.names] using s

theorem statements (s : Scanned policy schema read names scan) (statements : List Place) :
    Scanned policy schema (read ++ statements.flatMap fun s => (TopLevel.ofStatement policy s).candidates)
      (names ++ statements.flatMap fun s => (TopLevel.ofStatement policy s).names)
      (statements.foldl (MarkerRule.scanStatement policy schema) scan) := by
  induction statements generalizing read names scan
  case nil => simpa using s
  case cons statement statements hi => simpa using hi (s.statement statement)

end Scanned

namespace MarkerRule

variable {policy : Policy}

theorem scanned (policy : Policy) (schema : Schema) (program : Node) :
    Scanned policy schema (candidates policy program)
      ((topLevelStatements program).flatMap fun s => (TopLevel.ofStatement policy s).names)
      (scan policy schema program) := by
  have s : Scanned policy schema _ _ (scan policy schema program) :=
    Scanned.start.statements (topLevelStatements program)
  rwa [List.nil_append, List.nil_append] at s

-- For the name of a component, being public in the end is being reachable.
theorem isExported_iff {schema : Schema} {program : Node} {name : String}
    (h : ∃ c ∈ candidates policy program, c.name = some name) :
    (scan policy schema program).tracker.finish.isExported name ↔ Reachable policy program name := by
  have s := scanned policy schema program
  rw [ExportTracker.isExported_finish, s.exported, s.declared, s.listed, List.mem_flatMap]
  simp [h, Reachable]

-- The violations that pass in the end are those to be reported.
theorem filter_violations (schema : Schema) (program : Node) :
    let scan := scan policy schema program
    scan.violations.filter (fun v => scan.tracker.finish.isExported v.component) =
      reported policy schema program := by
  intro scan
  simp only [scan, (scanned policy schema program).violations, reported, List.filter_filterMap]
  apply List.filterMap_congr
  intro c hc
  cases hv : (audit policy schema c).violation?
  case none => simp [publicViolation?, hv]
  case some v =>
    have hn := name_of_audit (violation?_eq_some.mp hv)
    simp only [publicViolation?, hv, Option.filter_some, hn, Option.any_some, decide_eq_true_eq]
    simp [isExported_iff ⟨c, hc, hn⟩]

-- Diagnostics depend on nothing that changes while violations are resolved.
theorem diagnose_resolve (r : Reachability) (c : Collector) (v : Violation) :
    diagnose policy (resolve policy r c v) = diagnose policy c := by
  unfold resolve
  split <;> rfl

theorem record_events (events : List Event) (c : Collector) :
    events.foldl Collector.record c = { c with events := c.events ++ events } := by
  induction events generalizing c
  case nil => simp
  case cons e events hi => simp [hi, Collector.record]

theorem resolve_diagnostics (r : Reachability) (vs : List Violation) (c : Collector) :
    (vs.foldl (resolve policy r) c).diagnostics =
      c.diagnostics ++ (vs.filter (r.isExported ·.component)).map (diagnose policy c) := by
  induction vs generalizing c
  case nil => simp
  case cons v vs hi =>
    rw [List.foldl_cons, hi, diagnose_resolve]
    by_cases hv : r.isExported v.component
    case pos => simp [resolve, hv, Collector.report]
    case neg => simp [resolve, hv, Collector.record]

-- What a run adds to the diagnostics of its collector.
theorem run_diagnostics (policy : Policy) (collector : Collector) (program : Node) :
    (run policy collector program).diagnostics =
      collector.diagnostics ++ (reported policy collector.schema program).map (diagnose policy collector) := by
  rw [run, record_events, resolve_diagnostics, filter_violations]
  rfl

end MarkerRule

-- One reading of the statements reports what two readings would: for each component, in order, whose
-- audit finds a violation and whose name is reachable, one diagnostic with one insertion.
theorem run_reports_reachable (policy : Policy) (collector : Collector) (program : Node) :
    (MarkerRule.run policy collector program).diagnostics =
        collector.diagnostics ++ (candidates policy program).filterMap (fun c =>
          (publicViolation? policy collector.schema program c).map (MarkerRule.diagnose policy collector)) ∧
      (∀ c v, publicViolation? policy collector.schema program c = some v ↔
        audit policy collector.schema c = .violation v ∧ ∃ name, c.name = some name ∧ Reachable policy program name) ∧
      ∀ v, (MarkerRule.diagnose policy collector v).span = v.openingSpan ∧
        (MarkerRule.diagnose policy collector v).fix.map Fix.edits =
          some [.insertion v.insertionPoint v.fixText] := by
  refine ⟨?_, fun c v => publicViolation?_eq_some, fun v => ⟨rfl, rfl⟩⟩
  rw [MarkerRule.run_diagnostics, reported, List.map_filterMap]

end MarkerLint
