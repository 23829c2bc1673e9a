import MarkerLint.Lint.Linter
import MarkerLint.Proofs.Audit.Tag
import MarkerLint.Proofs.Audit.Verdict
import MarkerLint.Proofs.Component.Separation
import MarkerLint.Proofs.Outline.Nesting
import MarkerLint.Proofs.Rule.Fixing

namespace MarkerLint

open Outline

-- The declaration of the one ends before that of the other starts.
def Candidate.Before (c d : Candidate) : Prop :=
  c.declaration.node.span.stop ≤ d.declaration.node.span.start

theorem pairwise_before {program : Node} (h : program.Every Node.NestsSpans) (policy : Policy) :
    (candidates policy program).Pairwise Candidate.Before := by
  refine pairwise_of_separates (fun p e hp => ?_) policy
  have hp : p.node.Every Node.NestsSpans := hp.every h
  refine (pairwise_children_spans hp.here e).imp_of_mem fun hq hr hlt c d hc hd => ?_
  have hc := hc.declaration.inside ((Place.within_of_mem_children hq).every hp)
  have hd := hd.declaration.inside ((Place.within_of_mem_children hr).every hp)
  exact Nat.le_trans hc.stop (Nat.le_trans hlt hd.start)

-- All that is said of a violation lies within a span.
structure Violation.LiesIn (v : Violation) (s : Span) : Prop where
  forward : v.openingSpan.start ≤ v.openingSpan.stop
  opening : v.openingSpan.Inside s
  insertion : s.start ≤ v.insertionPoint ∧ v.insertionPoint ≤ s.stop

section

variable {policy : Policy} {schema : Schema} {program n : Node} {c d : Candidate} {v w : Violation}

-- The fallbacks included: without an opening tag it is the element itself that is pointed at.
theorem openingSpan_inside (h : v.target.node.Every Node.NestsSpans) :
    v.openingSpan.start ≤ v.openingSpan.stop ∧ v.openingSpan.Inside v.target.node.span := by
  unfold Violation.openingSpan
  split
  case h_1 ho => exact ⟨(every_of_child? h ho).here.forward, inside_of_child? h ho⟩
  case h_2 => exact ⟨h.here.forward, .refl _⟩

-- The marker goes to the end of some part of the opening tag, or else to the start of the element.
theorem markerOffset_cases (n : Node) :
    markerOffset n = n.span.start ∨ ∃ opening anchor e, n.child? .openingElement = some opening ∧
      opening.child? e = some anchor ∧ markerOffset n = anchor.span.stop := by
  rw [markerOffset_eq, Node.tag?]
  cases ho : n.child? .openingElement
  case none => exact .inl rfl
  case some opening =>
    rw [Option.map_some, Option.bind_some, Node.tagView]
    cases ht : opening.child? .typeArguments
    case some anchor => exact .inr ⟨opening, anchor, .typeArguments, rfl, ht, rfl⟩
    case none =>
      cases hn : opening.child? .name
      case some anchor => exact .inr ⟨opening, anchor, .name, rfl, hn, rfl⟩
      case none => exact .inl rfl

theorem markerOffset_inside (h : n.Every Node.NestsSpans) :
    n.span.start ≤ markerOffset n ∧ markerOffset n ≤ n.span.stop := by
  cases markerOffset_cases n
  case inl ho =>
    rw [ho]
    exact ⟨Nat.le_refl _, h.here.forward⟩
  case inr ho =>
    have ⟨opening, anchor, e, hopening, hanchor, ho⟩ := ho
    have hbelow := every_of_child? h hopening
    have hin := (inside_of_child? hbelow hanchor).trans (inside_of_child? h hopening)
    have hforward := (every_of_child? hbelow hanchor).here.forward
    rw [ho]
    exact ⟨Nat.le_trans hin.start hforward, hin.stop⟩

theorem target_within (h : audit policy schema c = .violation v) : v.target.Within c.render := by
  obtain ⟨component, place, _, hp, rfl⟩ := audit_eq_violation.mp h
  obtain ⟨t, ht, _, rfl⟩ := exists_of_target hp
  exact ⟨t.path, rfl, (leads_of_mem_listing ht).at?_path⟩

theorem insertionPoint_of_audit (h : audit policy schema c = .violation v) :
    v.insertionPoint = markerOffset v.target.node := by
  obtain ⟨component, place, _, _, rfl⟩ := audit_eq_violation.mp h
  rfl

-- What is said of a component lies within its declaration.
theorem liesIn_declaration (hnest : program.Every Node.NestsSpans) (hc : c.DeclaredIn (.root program))
    (h : audit policy schema c = .violation v) : v.LiesIn c.declaration.node.span := by
  have hdeclaration : c.declaration.node.Every Node.NestsSpans := hc.declaration.every hnest
  have hwithin : v.target.Within c.declaration := (target_within h).trans hc.renders.within
  have htarget := hwithin.every hdeclaration
  have hin := hwithin.inside hdeclaration
  have ⟨hforward, hopening⟩ := openingSpan_inside htarget
  have ⟨hstart, hstop⟩ := markerOffset_inside htarget
  rw [← insertionPoint_of_audit h] at hstart hstop
  exact ⟨hforward, hopening.trans hin, Nat.le_trans hin.start hstart, Nat.le_trans hstop hin.stop⟩

end

-- The one ends before the other starts, and its text goes in at the same place or before.
structure Diagnostic.Precedes (a b : Diagnostic) : Prop where
  span : a.span.stop ≤ b.span.start
  insertion : ∃ p text q text', a.fix.map Fix.edits = some [.insertion p text] ∧
    b.fix.map Fix.edits = some [.insertion q text'] ∧ p ≤ q

section

variable {policy : Policy} {program : Node}

theorem pairwise_reported (h : program.Every Node.NestsSpans) (policy : Policy) (schema : Schema) :
    (reported policy schema program).Pairwise fun v w => ∃ s s' : Span, s.stop ≤ s'.start ∧ v.LiesIn s ∧ w.LiesIn s' := by
  refine List.pairwise_filterMap.mpr ((pairwise_before h policy).imp_of_mem ?_)
  intro c d hc hd hlt v hv w hw
  have hv := (publicViolation?_eq_some.mp hv).left
  have hw := (publicViolation?_eq_some.mp hw).left
  exact ⟨_, _, hlt, liesIn_declaration h (candidates_declaredIn hc) hv,
    liesIn_declaration h (candidates_declaredIn hd) hw⟩

theorem pairwise_diagnostics (h : program.Every Node.NestsSpans) (policy : Policy) (collector : Collector) :
    ((reported policy collector.schema program).map (MarkerRule.diagnose policy collector)).Pairwise
      Diagnostic.Precedes := by
  refine List.pairwise_map.mpr ((pairwise_reported h policy collector.schema).imp ?_)
  rintro v w ⟨s, s', hlt, hv, hw⟩
  refine ⟨?_, v.insertionPoint, v.fixText, w.insertionPoint, w.fixText, rfl, rfl, ?_⟩
  · exact Nat.le_trans hv.opening.stop (Nat.le_trans hlt hw.opening.start)
  · exact Nat.le_trans hv.insertion.right (Nat.le_trans hlt hw.insertion.left)

theorem inSourceOrder_diagnostics (h : program.Every Node.NestsSpans) (policy : Policy) (collector : Collector) :
    let new := (reported policy collector.schema program).map (MarkerRule.diagnose policy collector)
    Linter.inSourceOrder new = new := by
  refine List.mergeSort_of_pairwise (List.pairwise_map.mpr ((pairwise_reported h policy collector.schema).imp ?_))
  rintro v w ⟨s, s', hlt, hv, hw⟩
  rw [decide_eq_true_eq]
  calc v.openingSpan.start ≤ v.openingSpan.stop := hv.forward
    _ ≤ s.stop := hv.opening.stop
    _ ≤ s'.start := hlt
    _ ≤ w.openingSpan.start := hw.opening.start

-- A linter that has no rule but this one reports what the rule does, or nothing.
theorem inSourceOrder_runRules {linter : Linter} {collector : Collector} (h : program.Every Node.NestsSpans)
    (hrules : linter.rules = [markerRule policy]) (hnone : collector.diagnostics = []) :
    Linter.inSourceOrder (linter.runRules program collector).diagnostics =
      (linter.runRules program collector).diagnostics := by
  rw [Linter.runRules, hrules, List.foldl_cons, List.foldl_nil, Linter.runRule]
  split
  case isTrue =>
    let c : Collector := { collector with rule := MarkerRule.info.name, severity := MarkerRule.info.severity }
    have hrun : (MarkerRule.run policy c program).diagnostics =
        (reported policy c.schema program).map (MarkerRule.diagnose policy c) := by
      rw [MarkerRule.run_diagnostics, show c.diagnostics = [] from hnone, List.nil_append]
    change Linter.inSourceOrder (MarkerRule.run policy c program).diagnostics =
      (MarkerRule.run policy c program).diagnostics
    rw [hrun]
    exact inSourceOrder_diagnostics h policy c
  case isFalse => simp [Linter.inSourceOrder, hnone]

end

-- What a run adds is in the order of the source and nothing of it overlaps. To sort it changes nothing, neither
-- by itself nor in a linter with this rule.
theorem run_reports_in_source_order {program : Node} (policy : Policy) (collector : Collector)
    (hnest : program.Every Node.NestsSpans) :
    let new := (reported policy collector.schema program).map (MarkerRule.diagnose policy collector)
    (MarkerRule.run policy collector program).diagnostics = collector.diagnostics ++ new ∧
      new.Pairwise Diagnostic.Precedes ∧ Linter.inSourceOrder new = new ∧
      ∀ (linter : Linter) (source : List Char) (file : String) (recovered : Bool),
        linter.rules = [markerRule policy] →
        (linter.lintProgram source file recovered program).result.diagnostics =
          (linter.runRules program { source, file, schema := linter.schema }).diagnostics := by
  intro new
  refine ⟨MarkerRule.run_diagnostics policy collector program, pairwise_diagnostics hnest policy collector,
    inSourceOrder_diagnostics hnest policy collector, ?_⟩
  intro linter source file recovered hrules
  exact inSourceOrder_runRules hnest hrules rfl

namespace Sample

-- `A = () => <a/>` from an offset on.
def assigned (name markup : String) (start : Nat) : Node :=
  .branch .variableDeclarator ⟨start, start + 14⟩
    [.one .id (.named .identifier ⟨start, start + 1⟩ name),
      .one .init (.branch .arrowFunctionExpression ⟨start + 4, start + 14⟩ [.one .body (tag markup (start + 10))])]

-- `export let A = () => <a/>, B = () => <b/>`
def listed : Node :=
  .branch .program ⟨0, 41⟩ [.many .body [.branch .exportNamedDeclaration ⟨0, 41⟩ [.one .declaration
    (.branch .variableDeclaration ⟨7, 41⟩ [.many .declarations [assigned "A" "a" 11, assigned "B" "b" 27]])]]]

end Sample

theorem run_reports_in_source_order_listed :
    let policy : Policy := { isExcluded _ := false, marker := "id", wrappers := [] }
    let collector : Collector := { source := [], file := "Pair.jsx" }
    let new := (reported policy default Sample.listed).map (MarkerRule.diagnose policy collector)
    new.map (·.span) = [⟨21, 25⟩, ⟨37, 41⟩] ∧ new.Pairwise Diagnostic.Precedes ∧
      (MarkerRule.run policy collector Sample.listed).diagnostics = new ∧ Linter.inSourceOrder new = new := by
  intro policy collector new
  have hnest : Sample.listed.Every Node.NestsSpans := by decide +kernel
  have hspans : (reported policy default Sample.listed).map (·.openingSpan) = [⟨21, 25⟩, ⟨37, 41⟩] := by decide +kernel
  have ⟨hrun, hpairwise, hsorted, _⟩ := run_reports_in_source_order policy collector hnest
  refine ⟨?_, hpairwise, hrun, hsorted⟩
  rw [← hspans, List.map_map]
  rfl

end MarkerLint
