import Mathlib.Data.List.Forall2
import MarkerLint.Proofs.Audit.Verdict
import MarkerLint.Proofs.Component.Rendering
import MarkerLint.Proofs.Rule.Reporting

namespace MarkerLint

open Outline

-- The statement is an export list without a source that gives the name, or a default export of the name.
def Lists (statement : Node) (name : String) : Prop :=
  statement.kind = .exportNamedDeclaration ∧ (statement.child? .declaration).isNone ∧
      (statement.child? .source).isNone ∧
      (∃ specifier ∈ statement.children .specifiers, specifier.identifier? .localName = some name) ∨
    statement.kind = .exportDefaultDeclaration ∧ statement.identifier? .declaration = some name

instance (statement : Node) (name : String) : Decidable (Lists statement name) :=
  inferInstanceAs (Decidable (_ ∨ _))

-- A statement of the program lists the name.
def Listed (program : Node) (name : String) : Prop :=
  ∃ statement ∈ program.children .body, Lists statement name

instance (program : Node) (name : String) : Decidable (Listed program name) :=
  inferInstanceAs (Decidable (∃ _ ∈ _, _))

-- The component is declared in an export, or its name is listed.
def Candidate.IsPublic (program : Node) (c : Candidate) : Prop :=
  c.exported = true ∨ ∃ name ∈ c.name, Listed program name

instance (program : Node) (c : Candidate) : Decidable (c.IsPublic program) :=
  inferInstanceAs (Decidable (_ ∨ _))

@[simp]
theorem TopLevel.names_ofCandidates (cs : List Candidate) : (ofCandidates cs).names = [] := by
  cases cs <;> rfl

theorem mem_names_iff {policy : Policy} {s : Place} {name : String} :
    name ∈ (TopLevel.ofStatement policy s).names ↔ Lists s.node name := by
  unfold TopLevel.ofStatement Lists
  split
  case h_1 hk =>
    cases hd : s.node.child? .declaration
    case some => simp [hk, hd, Place.child?]
    case none =>
      cases hs : s.node.child? .source
      case some => simp [hk, hd, hs, Place.child?, TopLevel.names]
      case none => simp [hk, hd, hs, Place.child?, TopLevel.names]
  case h_2 hk =>
    cases hd : s.node.child? .declaration
    case none => simp [hk, hd, Place.child?, Node.identifier?, TopLevel.names]
    case some d =>
      by_cases hi : d.kind = .identifier
      case pos => simp [hk, hd, hi, Place.child?, Node.identifier?, TopLevel.names]
      case neg => simp [hk, hd, hi, Place.child?, Node.identifier?]
  case h_3 hn hd =>
    have hn : s.node.kind ≠ .exportNamedDeclaration := hn
    have hd : s.node.kind ≠ .exportDefaultDeclaration := hd
    simp [hn, hd]

theorem listed_iff {policy : Policy} {program : Node} {name : String} :
    Listed program name ↔ ∃ s ∈ topLevelStatements program, name ∈ (TopLevel.ofStatement policy s).names := by
  have hs : program.children .body = (topLevelStatements program).map Place.node :=
    ((Place.root program).map_node_children .body).symm
  simp [Listed, hs, mem_names_iff]

-- A component of a reachable name has a public namesake, which may be the component itself.
theorem isPublic_of_reachable {policy : Policy} {program : Node} {c : Candidate} {name : String}
    (hc : c ∈ candidates policy program) (hn : c.name = some name) (h : Reachable policy program name) :
    ∃ other ∈ candidates policy program, other.name = c.name ∧ other.IsPublic program := by
  cases h
  case inl h =>
    obtain ⟨other, ho, hname, he⟩ := h
    exact ⟨other, ho, hname.trans hn.symm, .inl he⟩
  case inr h => exact ⟨c, hc, rfl, .inr ⟨name, hn, listed_iff.mpr h⟩⟩

-- Each of the elements of which something is kept stands for what is kept.
theorem forall₂_filter_filterMap {α β : Type} {R : α → β → Prop} {f : α → Option β} {l : List α}
    (h : ∀ a ∈ l, ∀ b, f a = some b → R a b) : List.Forall₂ R (l.filter fun a => (f a).isSome) (l.filterMap f) := by
  induction l
  case nil => exact .nil
  case cons a l hi =>
    have ⟨ha, hl⟩ := List.forall_mem_cons.mp h
    cases hf : f a
    case none => simpa [hf] using hi hl
    case some b => simpa [hf] using ⟨ha b hf, hi hl⟩

namespace MarkerRule

variable {policy : Policy} {collector : Collector} {program : Node}

-- The message of a diagnostic tells the component.
theorem component_of_diagnose {v w : Violation} (h : diagnose policy collector v = diagnose policy collector w) :
    v.component = w.component := by
  have hm := congrArg Diagnostic.message h
  have hc : toString v.component = toString w.component := by
    simpa [diagnose, Collector.diagnostic, String.append_assoc] using hm
  exact hc

-- What a run adds to the diagnostics comes from some of the components, in their order, all of which have
-- a property.
def ReportsOnly (P : Candidate → Prop) (policy : Policy) (collector : Collector) (program : Node) : Prop :=
  ∃ sources added, sources.Sublist (candidates policy program) ∧
    (run policy collector program).diagnostics = collector.diagnostics ++ added ∧
    List.Forall₂ (fun c d => P c ∧ ∃ v, audit policy collector.schema c = .violation v ∧ d = diagnose policy collector v)
      sources added

theorem reportsOnly_of_forall {P : Candidate → Prop}
    (h : ∀ c ∈ candidates policy program, ∀ v, publicViolation? policy collector.schema program c = some v → P c) :
    ReportsOnly P policy collector program := by
  refine ⟨(candidates policy program).filter fun c => (publicViolation? policy collector.schema program c).isSome,
    _, List.filter_sublist, run_diagnostics policy collector program, ?_⟩
  rw [reported, List.forall₂_map_right_iff]
  refine forall₂_filter_filterMap fun c hc v hv => ⟨h c hc v hv, v, ?_, rfl⟩
  exact (publicViolation?_eq_some.mp hv).left

end MarkerRule

-- A name is reported only if it is public: what is reported comes from components that are exported or
-- listed themselves or share their name with one that is. A component without such a namesake is not
-- reported.
theorem run_reports_public_names_only (policy : Policy) (collector : Collector) (program : Node) :
    MarkerRule.ReportsOnly
        (fun c => ∃ other ∈ candidates policy program, other.name = c.name ∧ other.IsPublic program)
        policy collector program ∧
      ∀ c ∈ candidates policy program, ∀ v, audit policy collector.schema c = .violation v →
        (∀ other ∈ candidates policy program, other.name = c.name → ¬other.IsPublic program) →
        let d := MarkerRule.diagnose policy collector v
        (MarkerRule.run policy collector program).diagnostics.count d = collector.diagnostics.count d := by
  have hpublic : ∀ c ∈ candidates policy program, ∀ v,
      publicViolation? policy collector.schema program c = some v →
      ∃ other ∈ candidates policy program, other.name = c.name ∧ other.IsPublic program := by
    intro c hc v hv
    have ⟨_, name, hn, hr⟩ := publicViolation?_eq_some.mp hv
    exact isPublic_of_reachable hc hn hr
  refine ⟨MarkerRule.reportsOnly_of_forall hpublic, fun c _ v hv hnone => ?_⟩
  intro d
  have hadded : d ∉ (reported policy collector.schema program).map (MarkerRule.diagnose policy collector) := by
    -- A diagnostic like this one would come from a namesake.
    intro hd
    obtain ⟨w, hw, hwd⟩ := List.mem_map.mp hd
    obtain ⟨c', hc', hw⟩ := List.mem_filterMap.mp hw
    obtain ⟨other, ho, hname, hp⟩ := hpublic c' hc' w hw
    have hn := name_of_audit (publicViolation?_eq_some.mp hw).left
    rw [MarkerRule.component_of_diagnose hwd, ← name_of_audit hv] at hn
    exact hnone other ho (hname.trans hn) hp
  rw [MarkerRule.run_diagnostics, List.count_append, List.count_eq_zero_of_not_mem hadded, Nat.add_zero]

namespace Sample

-- `let name = () => …`
def letArrow (name : String) (markup : Node) : Node :=
  .branch .variableDeclaration {} [.many .declarations [.branch .variableDeclarator {} [
    .one .id (.named .identifier {} name), .one .init (.branch .arrowFunctionExpression {} [.one .body markup])]]]

-- Of two variables that lack the marker, `export { Tile }` gives one.
def halfListed : Node :=
  .branch .program {} [.many .body [letArrow "Panel" (element "Box" [] []), letArrow "Tile" (element "Box" [] []),
    .branch .exportNamedDeclaration {} [.many .specifiers [
      .branch .exportSpecifier {} [.one .localName (.named .identifier {} "Tile")]]]]]

-- `export let Tile = () => <Box data-component />`, and then `Tile = () => <Box />`
def reassigned : Node :=
  .branch .program {} [.many .body [
    .branch .exportNamedDeclaration {} [
      .one .declaration (letArrow "Tile" (element "Box" [.named .jsxAttribute {} "data-component"] []))],
    .branch .expressionStatement {} [.one .expression (.branch .assignmentExpression {} [
      .one .left (.named .identifier {} "Tile"),
      .one .right (.branch .arrowFunctionExpression {} [.one .body (element "Box" [] [])])])]]]

end Sample

theorem run_reports_public_names_only_half :
    let collector : Collector := { source := [], file := "Tile.tsx" }
    let run := MarkerRule.run Sample.policy collector Sample.halfListed
    run.diagnostics.length = 1 ∧ ∃ c ∈ candidates Sample.policy Sample.halfListed, ∃ v, c.name = some "Panel" ∧
      audit Sample.policy collector.schema c = .violation v ∧
      run.diagnostics.count (MarkerRule.diagnose Sample.policy collector v) = 0 := by
  intro collector run
  have hpanel : ∃ c ∈ candidates Sample.policy Sample.halfListed, c.name = some "Panel" ∧
      (audit Sample.policy collector.schema c).violation?.isSome := by
    decide +kernel
  have hprivate : ∀ c ∈ candidates Sample.policy Sample.halfListed, c.name = some "Panel" →
      ¬c.IsPublic Sample.halfListed := by
    decide +kernel
  obtain ⟨c, hc, hn, hv⟩ := hpanel
  obtain ⟨v, hv⟩ := Option.isSome_iff_exists.mp hv
  have hv := violation?_eq_some.mp hv
  refine ⟨by decide +kernel, c, hc, v, hn, hv, ?_⟩
  exact (run_reports_public_names_only Sample.policy collector Sample.halfListed).right c hc v hv
    fun other ho hname => hprivate other ho (hname.trans hn)

-- The assignment stands in no export, and no list gives its name, but what it assigns is reported: the
-- name is that of an exported variable.
theorem reassigned_is_reported :
    let collector : Collector := { source := [], file := "Tile.tsx" }
    ¬MarkerRule.ReportsOnly (·.IsPublic Sample.reassigned) Sample.policy collector Sample.reassigned := by
  intro collector
  rintro ⟨sources, added, hsub, hrun, hrel⟩
  have hlength : (MarkerRule.run Sample.policy collector Sample.reassigned).diagnostics.length = 1 := by
    decide +kernel
  have hprivate : ∀ c ∈ candidates Sample.policy Sample.reassigned,
      (audit Sample.policy collector.schema c).violation?.isSome → ¬c.IsPublic Sample.reassigned := by
    decide +kernel
  cases hrel
  case nil => simp [hrun, collector] at hlength
  case cons c d sources added hc _ =>
    obtain ⟨hpublic, v, hv, _⟩ := hc
    exact hprivate c (hsub.subset List.mem_cons_self) (by simp [hv, Outcome.violation?]) hpublic

end MarkerLint
