import MarkerLint.Proofs.Audit.Verdict

-- The shortcut of the audit. To tell whether markup is on the top level, the audit goes up to the nearest markup
-- only, and asks its memory about the rest of the way. The memory is filled level by level, so it is complete when
-- it is asked, and the answer is that of the rule about the whole way.

namespace MarkerLint

namespace Outline

variable {σ : Type} {visitor : σ → Visit → Walk × σ}

-- The state of a visitor after some visits.
def stateAfter (visitor : σ → Visit → Walk × σ) (state : σ) (log : List (Visit × Walk)) : σ :=
  log.foldl (fun s l => (visitor s l.1).2) state

theorem Answers.stateAfter_eq {s s' : σ} {log : List (Visit × Walk)} (a : Answers visitor s log s') :
    stateAfter visitor s log = s' := by
  induction a
  case nil => rfl
  case cons hv _ hi => rw [stateAfter, List.foldl_cons, hv, ← hi, stateAfter]

end Outline

open Outline

section

variable {policy : Policy} {schema : Schema} {base : NodePath} {n : Node} {full done : List (Trail × Walk)}
variable {found final : Findings} {v : Visit} {w : Walk} {before after : List (Visit × Walk)}

-- A visit that is made tells that all before it passed.
theorem judged_before (s : Sweep (Trail.kids schema) [Trail.root n] full)
    (a : Answers (auditVisit policy base) found (before ++ (v, w) :: after) final)
    (hf : full = done ++ trailLog (before ++ (v, w) :: after)) (hp : ∀ l ∈ done, Passed policy l)
    (j : Judged policy (done.map Prod.fst) found) :
    (∀ l ∈ done ++ trailLog before, Passed policy l) ∧
      Judged policy ((done ++ trailLog before).map Prod.fst) (stateAfter (auditVisit policy base) found before) := by
  induction before generalizing done found
  case nil =>
    rw [trailLog, List.map_nil, List.append_nil]
    exact ⟨hp, j⟩
  case cons l before hi =>
    cases a
    case cons found' u x hv a =>
      replace hf : full = done ++ (u.trail, x) :: trailLog (before ++ (v, w) :: after) := hf
      cases j.visit s hf hp hv
      case inl h =>
        -- A visit that ends the search is the last one.
        obtain ⟨rfl, _⟩ := h
        have hlast := (s.stop_last hf).left
        simp [trailLog] at hlast
      case inr h =>
        have hdone := List.forall_mem_append.mpr ⟨hp, List.forall_mem_singleton.mpr h.left⟩
        have hrest := hi a (by simpa using hf) hdone h.right
        simpa [trailLog, stateAfter, hv] using hrest

end

-- Whenever the audit tests markup, the test agrees with the rule about the whole way from the root. Its memory tells
-- of all markup on this way whether it is foreign, and nothing below foreign markup passes the test.
theorem shortcut_decides_own (policy : Policy) (schema : Schema) (render : Place) :
    let visitor := auditVisit policy render.path
    let log := visits schema visitor render.node {}
    stateAfter visitor {} log = findings policy schema render ∧
      ∀ before v w after, log = before ++ (v, w) :: after → v.node.kind.isMarkup →
        let foreign := (stateAfter visitor {} before).foreign
        v.trail.Leads schema render.node ∧
          (isOwn foreign [v.entry.toEntry] v.ancestors ↔ Own v.trail) ∧
          ∀ a : Trail, a.entries <:+ v.ancestors → a.node.kind.isMarkup →
            (a.path ∈ foreign ↔ ¬Own a) ∧ (a.path ∈ foreign → ¬isOwn foreign [v.entry.toEntry] v.ancestors) := by
  intro visitor log
  have hsweep : Sweep (Trail.kids schema) [Trail.root render.node] (trailLog log) := visits_sweep visitor render.node {}
  have hanswers : Answers visitor {} log (findings policy schema render) := visits_answers visitor render.node {}
  refine ⟨hanswers.stateAfter_eq, ?_⟩
  intro before v w after hlog hm foreign
  have hfull : trailLog log = trailLog before ++ (v.trail, w) :: trailLog after := by simp [hlog, trailLog]
  obtain ⟨hp, hj⟩ := judged_before hsweep (hlog ▸ hanswers) (by simp [hlog]) (List.forall_mem_nil _) .start
  have hown : isOwn foreign [v.entry.toEntry] v.ancestors ↔ Own v.trail := by
    rw [← decide_eq_true_iff (p := Own v.trail)]
    exact Bool.eq_iff_iff.mp (hj.isOwn_eq hsweep hfull hp hm)
  refine ⟨hsweep.leads (v.trail, w) (by simp [hfull]), hown, fun a ha hk => ?_⟩
  have hmem : a.path ∈ foreign ↔ ¬Own a := hj.mem_foreign_iff hsweep hfull hp ha hk
  refine ⟨hmem, fun hforeign hpasses => hmem.mp hforeign ?_⟩
  exact (hown.mp hpasses).of_suffix (ha.trans (List.suffix_cons ..)) hk

namespace Sample

def arrow (body : Link) : Node :=
  .branch .arrowFunctionExpression {} [body]

def braces (inside : Node) : Node :=
  .branch .jsxExpressionContainer {} [.one .expression inside]

-- Rows that a call makes, beside a function that renders in its place.
def rows : Node :=
  element "Provider" [] [
    braces (.branch .callExpression {} [.many .arguments
      [arrow (.one .body (element "Row" [] [element "Cell" [] []]))]]),
    braces (arrow (.one .body (.branch .functionBody {} [.many .body
      [.branch .returnStatement {} [.one .argument (element "Panel" [] [])]]])))]

end Sample

-- The audit does not look past the row to tell that the cell in it is foreign too.
theorem shortcut_decides_own_rows :
    let visitor := auditVisit Sample.policy []
    let log := visits default visitor Sample.rows {}
    ∃ before v w after, log = before ++ (v, w) :: after ∧ v.node.kind.isMarkup ∧ v.node.name = some "Cell" ∧
      let foreign := (stateAfter visitor {} before).foreign
      v.path.tail ∈ foreign ∧ ¬isOwn foreign [v.entry.toEntry] v.ancestors ∧ ¬Own v.trail := by
  intro visitor log
  have hchecks : log[11]?.any fun l => decide (l.1.node.kind.isMarkup ∧ l.1.node.name = some "Cell" ∧
      l.1.path.tail ∈ (stateAfter visitor {} (log.take 11)).foreign ∧ ¬Own l.1.trail) := by
    decide +kernel
  obtain ⟨⟨v, w⟩, hvisit, hchecks⟩ := (Option.any_eq_true _ _).mp hchecks
  obtain ⟨hmarkup, hname, hforeign, hown⟩ := of_decide_eq_true hchecks
  have hlog : log = log.take 11 ++ (v, w) :: log.drop 12 := by
    obtain ⟨hlength, hget⟩ := List.getElem?_eq_some_iff.mp hvisit
    rw [← hget, ← List.drop_eq_getElem_cons hlength, List.take_append_drop]
  have hdecides := (shortcut_decides_own Sample.policy default (.root Sample.rows)).right _ v w _ hlog hmarkup
  refine ⟨_, v, w, _, hlog, hmarkup, hname, hforeign, ?_, hown⟩
  exact fun h => hown (hdecides.right.left.mp h)

end MarkerLint
