import MarkerLint.Proofs.Audit.Ownership
import MarkerLint.Proofs.Search.LevelOrder

namespace MarkerLint

open Outline

def isMarked (policy : Policy) (n : Node) : Bool :=
  n.kind = .jsxElement && hasAttribute n policy.marker

-- Nothing below fragments and marked elements is looked at.
def closes (policy : Policy) (n : Node) : Bool :=
  isFragment n || isMarked policy n

structure LacksMarker (policy : Policy) (t : Trail) : Prop where
  element : t.node.kind = .jsxElement
  fragment : isFragment t.node = false
  marker : hasAttribute t.node policy.marker = false
  excluded : t.node.name.any policy.isExcluded = false
  own : Own t

-- An excluded element without the marker.
structure LookedThrough (policy : Policy) (t : Trail) : Prop where
  element : t.node.kind = .jsxElement
  fragment : isFragment t.node = false
  marker : hasAttribute t.node policy.marker = false
  excluded : t.node.name.any policy.isExcluded = true

structure OwnMarked (policy : Policy) (t : Trail) : Prop where
  marked : isMarked policy t.node = true
  own : Own t

instance (policy : Policy) (t : Trail) : Decidable (LacksMarker policy t) :=
  decidable_of_iff
    (t.node.kind = .jsxElement ∧ isFragment t.node = false ∧ hasAttribute t.node policy.marker = false ∧
      t.node.name.any policy.isExcluded = false ∧ Own t)
    ⟨fun ⟨h₁, h₂, h₃, h₄, h₅⟩ => ⟨h₁, h₂, h₃, h₄, h₅⟩, fun ⟨h₁, h₂, h₃, h₄, h₅⟩ => ⟨h₁, h₂, h₃, h₄, h₅⟩⟩

instance (policy : Policy) (t : Trail) : Decidable (LookedThrough policy t) :=
  decidable_of_iff
    (t.node.kind = .jsxElement ∧ isFragment t.node = false ∧ hasAttribute t.node policy.marker = false ∧
      t.node.name.any policy.isExcluded = true)
    ⟨fun ⟨h₁, h₂, h₃, h₄⟩ => ⟨h₁, h₂, h₃, h₄⟩, fun ⟨h₁, h₂, h₃, h₄⟩ => ⟨h₁, h₂, h₃, h₄⟩⟩

instance (policy : Policy) (t : Trail) : Decidable (OwnMarked policy t) :=
  decidable_of_iff (isMarked policy t.node = true ∧ Own t) ⟨fun ⟨h₁, h₂⟩ => ⟨h₁, h₂⟩, fun ⟨h₁, h₂⟩ => ⟨h₁, h₂⟩⟩

section

variable {policy : Policy} {n : Node}

theorem isFragment_of_isMarked (h : isMarked policy n) : isFragment n = false := by
  simp only [isMarked, Bool.and_eq_true, decide_eq_true_eq] at h
  have ⟨hk, ha⟩ := h
  simp only [isFragment, hk]
  cases ho : n.child? .openingElement
  case none => simp
  case some opening =>
    simp only [hasAttribute, ho, List.any_eq_true] at ha
    have ⟨a, ha, _⟩ := ha
    simp [List.ne_nil_of_mem ha]

-- Markup is an element if it is no fragment.
theorem kind_of_isMarkup (h : n.kind.isMarkup) (hf : isFragment n = false) : n.kind = .jsxElement := by
  cases hk : n.kind <;> simp [hk, Kind.isMarkup, isFragment] at h hf
  rfl

theorem isMarkup_of_element (h : n.kind = .jsxElement) : n.kind.isMarkup := by
  rw [h]
  rfl

end

section

variable (policy : Policy) {t : Trail}

-- Only elements that are no fragments are asked for the marker.
theorem lacksMarker_iff (hk : t.node.kind = .jsxElement) (hf : isFragment t.node = false) :
    LacksMarker policy t ↔
      hasAttribute t.node policy.marker = false ∧ t.node.name.any policy.isExcluded = false ∧ Own t where
  mp h := ⟨h.marker, h.excluded, h.own⟩
  mpr := fun ⟨hm, he, ho⟩ => ⟨hk, hf, hm, he, ho⟩

theorem lookedThrough_iff (hk : t.node.kind = .jsxElement) (hf : isFragment t.node = false) :
    LookedThrough policy t ↔
      hasAttribute t.node policy.marker = false ∧ t.node.name.any policy.isExcluded = true where
  mp h := ⟨h.marker, h.excluded⟩
  mpr := fun ⟨hm, he⟩ => ⟨hk, hf, hm, he⟩

theorem ownMarked_iff (hk : t.node.kind = .jsxElement) :
    OwnMarked policy t ↔ hasAttribute t.node policy.marker = true ∧ Own t where
  mp h := ⟨by simpa [isMarked, hk] using h.marked, h.own⟩
  mpr := fun ⟨hm, ho⟩ => ⟨by simp [isMarked, hk, hm], ho⟩

theorem not_asked (h : t.node.kind = .jsxElement → isFragment t.node) :
    ¬LacksMarker policy t ∧ ¬LookedThrough policy t ∧ ¬OwnMarked policy t := by
  refine ⟨fun l => ?_, fun l => ?_, fun l => ?_⟩
  · exact absurd (h l.element) (by simp [l.fragment])
  · exact absurd (h l.element) (by simp [l.fragment])
  · have hf := isFragment_of_isMarked l.marked
    have := l.marked
    simp only [isMarked, Bool.and_eq_true, decide_eq_true_eq] at this
    exact absurd (h this.left) (by simp [hf])

end

-- What is foreign is known of all that was visited.
structure Judged (policy : Policy) (done : List Trail) (found : Findings) : Prop where
  target : found.target = none
  excluded : found.excluded ↔ ∃ t ∈ done, LookedThrough policy t
  satisfied : found.satisfied ↔ ∃ t ∈ done, OwnMarked policy t
  foreign : ∀ p, p ∈ found.foreign ↔
    ∃ t ∈ done, t.path = p ∧ t.node.kind.isMarkup ∧ isFragment t.node = false ∧ ¬Own t

-- The search ended at a trail that lacks the marker.
structure Ended (policy : Policy) (base : NodePath) (done : List Trail) (t : Trail) (found : Findings) : Prop where
  satisfied : found.satisfied ↔ ∃ u ∈ done, OwnMarked policy u
  target : found.target = if found.satisfied then none else some ⟨t.path ++ base, t.node⟩

namespace Judged

variable {policy : Policy} {base : NodePath} {done : List Trail} {found found' : Findings} {v : Visit} {t : Trail}

theorem start : Judged policy [] {} where
  target := rfl
  excluded := by simp
  satisfied := by simp
  foreign := by simp

theorem snoc (j : Judged policy done found) (target : found'.target = none)
    (excluded : found'.excluded ↔ found.excluded ∨ LookedThrough policy t)
    (satisfied : found'.satisfied ↔ found.satisfied ∨ OwnMarked policy t)
    (foreign : ∀ p, p ∈ found'.foreign ↔
      p ∈ found.foreign ∨ t.path = p ∧ t.node.kind.isMarkup ∧ isFragment t.node = false ∧ ¬Own t) :
    Judged policy (done ++ [t]) found' where
  target := target
  excluded := by simp [excluded, j.excluded, or_and_right, exists_or]
  satisfied := by simp [satisfied, j.satisfied, or_and_right, exists_or]
  foreign := by simp [foreign, j.foreign, or_and_right, exists_or]

-- A visit of what is not asked for the marker.
theorem visit_other {w : Walk} (j : Judged policy done found)
    (hn : v.node.kind.isMarkup → isFragment v.node) (h : auditVisit policy base found v = (w, found')) :
    w ≠ .stop ∧ ¬LacksMarker policy v.trail ∧ w.Respects (closes policy) v.node ∧
      Judged policy (done ++ [v.trail]) found' := by
  have hk : v.trail.node.kind = .jsxElement → isFragment v.trail.node := fun hk => hn (isMarkup_of_element hk)
  have ⟨hl, ht, hs⟩ := not_asked policy hk
  have hj : Judged policy (done ++ [v.trail]) found := by
    refine j.snoc j.target (by simp [ht]) (by simp [hs]) fun p => ?_
    simp only [Visit.trail_node, iff_self_or]
    exact fun ⟨_, hm, hf, _⟩ => absurd (hn hm) (by simp [hf])
  by_cases hm : v.node.kind.isMarkup
  case pos =>
    simp only [auditVisit, hm, hn hm, Bool.not_true, Bool.false_eq_true, ↓reduceIte, Prod.mk.injEq] at h
    obtain ⟨rfl, rfl⟩ := h
    exact ⟨nofun, hl, ⟨fun _ => by simp [closes, hn hm], nofun⟩, hj⟩
  case neg =>
    simp only [auditVisit, hm, Bool.not_false, ↓reduceIte, Prod.mk.injEq] at h
    obtain ⟨rfl, rfl⟩ := h
    refine ⟨nofun, hl, ⟨nofun, fun _ => ?_⟩, hj⟩
    have hf : isFragment v.node = false := by
      cases hk : v.node.kind <;> simp_all [isFragment, Kind.isMarkup]
    have he : v.node.kind ≠ .jsxElement := fun hk => hm (isMarkup_of_element hk)
    simp [closes, isMarked, hf, he]

-- A visit of an element: it ends the search if the element lacks the marker.
theorem visit_element {w : Walk} (j : Judged policy done found) (hk : v.node.kind = .jsxElement)
    (hf : isFragment v.node = false) (ho : isOwn found.foreign [v.entry.toEntry] v.ancestors = decide (Own v.trail))
    (h : auditVisit policy base found v = (w, found')) :
    w = .stop ∧ LacksMarker policy v.trail ∧ Ended policy base done v.trail found' ∨
      w ≠ .stop ∧ ¬LacksMarker policy v.trail ∧ w.Respects (closes policy) v.node ∧
        Judged policy (done ++ [v.trail]) found' := by
  have hm := isMarkup_of_element hk
  have hl : LacksMarker policy v.trail ↔ _ := lacksMarker_iff policy hk hf
  have ht : LookedThrough policy v.trail ↔ _ := lookedThrough_iff policy hk hf
  have hs : OwnMarked policy v.trail ↔ _ := ownMarked_iff policy hk
  simp only [Visit.trail_node] at hl ht hs
  simp only [auditVisit, hm, hf, ho, Bool.not_true, Bool.false_eq_true, ↓reduceIte, decide_eq_true_eq] at h
  -- Whether the element is foreign is noted first, and changes nothing else.
  generalize hn : (if Own v.trail then found else { found with foreign := v.path :: found.foreign }) = noted at h
  have hnt : noted.target = none := by
    rw [← hn]
    split <;> exact j.target
  have hne : noted.excluded = found.excluded := by
    rw [← hn]
    split <;> rfl
  have hns : noted.satisfied = found.satisfied := by
    rw [← hn]
    split <;> rfl
  have hnf : ∀ p, p ∈ noted.foreign ↔
      p ∈ found.foreign ∨ v.path = p ∧ v.node.kind.isMarkup ∧ isFragment v.node = false ∧ ¬Own v.trail := by
    intro p
    rw [← hn]
    split
    case isTrue hw => simp [hw]
    case isFalse hw => simp [hw, hm, hf, or_comm, eq_comm]
  by_cases hmark : hasAttribute v.node policy.marker
  case pos =>
    simp only [hmark, ↓reduceIte, Prod.mk.injEq] at h
    obtain ⟨rfl, rfl⟩ := h
    refine .inr ⟨nofun, by simp [hl, hmark], ⟨fun _ => by simp [closes, isMarked, hk, hmark], nofun⟩, ?_⟩
    exact j.snoc hnt (by simp [hne, ht, hmark]) (by simp [hns, hs, hmark]) hnf
  case neg =>
    have hopen : closes policy v.node = false := by simp [closes, isMarked, hf, hmark]
    by_cases hex : v.node.name.any policy.isExcluded
    case pos =>
      simp only [hmark, hex, Bool.false_eq_true, ↓reduceIte, Prod.mk.injEq] at h
      obtain ⟨rfl, rfl⟩ := h
      refine .inr ⟨nofun, by simp [hl, hex], ⟨nofun, fun _ => hopen⟩, ?_⟩
      exact j.snoc hnt (by simp [ht, hmark, hex]) (by simp [hns, hs, hmark]) hnf
    case neg =>
      by_cases hw : Own v.trail
      case neg =>
        simp only [hmark, hex, hw, decide_false, Bool.not_false, Bool.false_eq_true, ↓reduceIte, Prod.mk.injEq] at h
        obtain ⟨rfl, rfl⟩ := h
        refine .inr ⟨nofun, by simp [hl, hw], ⟨nofun, fun _ => hopen⟩, ?_⟩
        exact j.snoc hnt (by simp [hne, ht, hex]) (by simp [hns, hs, hmark]) hnf
      case pos =>
        refine .inl ?_
        simp only [hmark, hex, hw, decide_true, Bool.not_true, Bool.false_eq_true, ↓reduceIte] at h
        have hlack : LacksMarker policy v.trail := by simp [hl, hmark, hex, hw]
        split at h
        all_goals
          obtain ⟨rfl, rfl⟩ := Prod.mk.inj h
          refine ⟨rfl, hlack, ⟨by simp [hns, j.satisfied], ?_⟩⟩
          simp_all

end Judged

-- An answer that neither ends the search nor leaves an element without the marker behind.
structure Passed (policy : Policy) (l : Trail × Walk) : Prop where
  goesOn : l.2 ≠ .stop
  respects : l.2.Respects (closes policy) l.1.node
  lacksNot : ¬LacksMarker policy l.1

section

variable {policy : Policy} {schema : Schema} {base : NodePath} {n : Node} {full done : List (Trail × Walk)}
variable {found final : Findings}

-- Of the markup above a node that is visited, it is known which is foreign.
theorem Judged.mem_foreign_iff (j : Judged policy (done.map Prod.fst) found)
    (s : Sweep (Trail.kids schema) [Trail.root n] full) {t a : Trail} {w : Walk} {after : List (Trail × Walk)}
    (hf : full = done ++ (t, w) :: after) (hp : ∀ l ∈ done, Passed policy l) (hs : a.entries <:+ t.above)
    (hk : a.node.kind.isMarkup) : a.path ∈ found.foreign ↔ ¬Own a := by
  have hlead : ∀ l ∈ done, Trail.Leads schema n l.1 :=
    fun l hl => s.leads l (hf ▸ List.mem_append_left _ hl)
  have ha : (a, .descend) ∈ done := s.above_before hf hs
  have hfrag : isFragment a.node = false := by
    have := (hp _ ha).respects.right rfl
    simp only [closes, Bool.or_eq_false_iff] at this
    exact this.left
  rw [j.foreign]
  constructor
  case mp =>
    rintro ⟨u, hu, he, _, _, ho⟩
    have ⟨l, hl, hlu⟩ := List.mem_map.mp hu
    have : u = a := (hlu ▸ hlead l hl).eq_of_path (hlead _ ha) he
    exact this ▸ ho
  case mpr =>
    exact fun ho => ⟨a, List.mem_map.mpr ⟨_, ha, rfl⟩, rfl, hk, hfrag, ho⟩

-- The audit knows by looking up to the nearest markup what the rule asks of the whole way.
theorem Judged.isOwn_eq (j : Judged policy (done.map Prod.fst) found)
    (s : Sweep (Trail.kids schema) [Trail.root n] full) {t : Trail} {w : Walk} {after : List (Trail × Walk)}
    (hf : full = done ++ (t, w) :: after) (hp : ∀ l ∈ done, Passed policy l) (hm : t.node.kind.isMarkup) :
    isOwn found.foreign [t.here] t.above = decide (Own t) := by
  rw [isOwn_eq_rendersInPlace, Bool.eq_iff_iff, decide_eq_true_eq, own_iff (isFunction_of_isMarkup hm)]
  intro markup rest hs hk
  let a : Trail := ⟨markup, rest⟩
  have hown : Own a ↔ rendersInPlace [markup] rest := own_iff (isFunction_of_isMarkup hk)
  have hmem : a.path ∈ found.foreign ↔ ¬Own a := j.mem_foreign_iff s hf hp hs hk
  rw [Bool.eq_iff_iff, List.contains_iff_mem, Bool.not_eq_true', ← Bool.not_eq_true, ← hown]
  exact hmem

-- One visit of the audit, when all visits before it passed.
theorem Judged.visit {v : Visit} {w : Walk} {found' : Findings} {after : List (Trail × Walk)}
    (j : Judged policy (done.map Prod.fst) found) (s : Sweep (Trail.kids schema) [Trail.root n] full)
    (hf : full = done ++ (v.trail, w) :: after) (hp : ∀ l ∈ done, Passed policy l)
    (hv : auditVisit policy base found v = (w, found')) :
    w = .stop ∧ LacksMarker policy v.trail ∧ Ended policy base (done.map Prod.fst) v.trail found' ∨
      Passed policy (v.trail, w) ∧ Judged policy ((done ++ [(v.trail, w)]).map Prod.fst) found' := by
  have hstep : w = .stop ∧ LacksMarker policy v.trail ∧ Ended policy base (done.map Prod.fst) v.trail found' ∨
      w ≠ .stop ∧ ¬LacksMarker policy v.trail ∧ w.Respects (closes policy) v.node ∧
        Judged policy (done.map Prod.fst ++ [v.trail]) found' := by
    by_cases hm : v.node.kind.isMarkup → isFragment v.node
    case pos => exact .inr (j.visit_other hm hv)
    case neg =>
      simp only [Classical.not_imp, Bool.not_eq_true] at hm
      have ho := j.isOwn_eq s hf hp hm.left
      exact j.visit_element (kind_of_isMarkup hm.left hm.right) hm.right ho hv
  obtain h | ⟨hw, hl, hr, hj⟩ := hstep
  · exact .inl h
  · exact .inr ⟨⟨hw, hr, hl⟩, by simpa using hj⟩

-- What is true of the visits made so far is carried through the rest of the run.
theorem audit_run {log : List (Visit × Walk)} (s : Sweep (Trail.kids schema) [Trail.root n] full)
    (a : Answers (auditVisit policy base) found log final) (hf : full = done ++ trailLog log)
    (hp : ∀ l ∈ done, Passed policy l) (j : Judged policy (done.map Prod.fst) found) :
    (∀ l ∈ full, Passed policy l) ∧ Judged policy (full.map Prod.fst) final ∨
      ∃ before t, full = before ++ [(t, .stop)] ∧ (∀ l ∈ before, Passed policy l) ∧ LacksMarker policy t ∧
        Ended policy base (before.map Prod.fst) t final := by
  induction a generalizing done
  case nil =>
    obtain rfl : full = done := by simpa [trailLog] using hf
    exact .inl ⟨hp, j⟩
  case cons found found' final v w log hv ha hi =>
    replace hf : full = done ++ (v.trail, w) :: trailLog log := hf
    cases j.visit s hf hp hv
    case inl h =>
      have ⟨hw, hl, he⟩ := h
      subst hw
      have ⟨hlog, _⟩ := s.stop_last hf
      obtain rfl := List.map_eq_nil_iff.mp hlog
      cases ha
      exact .inr ⟨done, v.trail, hf, hp, hl, he⟩
    case inr h =>
      refine @hi (done ++ [(v.trail, w)]) (by simpa using hf) ?_ h.right
      exact List.forall_mem_append.mpr ⟨hp, List.forall_mem_singleton.mpr h.left⟩

end

-- The markup of a component, level by level, as far as the audit may look.
def renderListing (policy : Policy) (schema : Schema) (render : Node) : List Trail :=
  listing schema (closes policy) render

-- All that the audit finds, said of the listing: nothing in it lacks the marker, or the search ends at
-- the first that does.
theorem findings_cases (policy : Policy) (schema : Schema) (render : Place) :
    (∀ t ∈ renderListing policy schema render.node, ¬LacksMarker policy t) ∧
        Judged policy (renderListing policy schema render.node) (findings policy schema render) ∨
      ∃ before t rest, renderListing policy schema render.node = before ++ t :: rest ∧
        (∀ u ∈ before, ¬LacksMarker policy u) ∧ LacksMarker policy t ∧
        Ended policy render.path before t (findings policy schema render) := by
  obtain ⟨log, hs, ha⟩ := search_sweeps schema (auditVisit policy render.path) render.node {}
  cases audit_run hs ha (List.nil_append _).symm (List.forall_mem_nil _) .start
  case inl h =>
    obtain ⟨hp, hj⟩ := h
    have hl : renderListing policy schema render.node = (trailLog log).map Prod.fst := by
      cases hs.listing_cases fun l hl => (hp l hl).respects
      case inl h => exact h.left
      case inr h =>
        obtain ⟨before, t, _, hb, _⟩ := h
        exact absurd rfl (hp (t, .stop) (by simp [hb])).goesOn
    refine .inl ⟨fun t ht => ?_, hl ▸ hj⟩
    obtain ⟨l, hl, ht⟩ := List.mem_map.mp (hl ▸ ht)
    exact ht ▸ (hp l hl).lacksNot
  case inr h =>
    obtain ⟨before, t, hb, hp, hl, he⟩ := h
    have hr : ∀ l ∈ trailLog log, l.2.Respects (closes policy) l.1.node := by
      rw [hb]
      exact List.forall_mem_append.mpr ⟨fun l hl => (hp l hl).respects, by simp [Walk.Respects]⟩
    cases hs.listing_cases hr
    case inl h => exact absurd (hb ▸ by simp) (h.right t)
    case inr h =>
      obtain ⟨before', t', rest, hb', _, hlist⟩ := h
      obtain ⟨rfl, ht⟩ := List.append_inj' (hb.symm.trans hb') rfl
      simp only [List.cons.injEq, Prod.mk.injEq, and_true] at ht
      subst ht
      refine .inr ⟨before.map Prod.fst, t, rest, hlist, fun u hu => ?_, hl, he⟩
      obtain ⟨l, hl, hu⟩ := List.mem_map.mp hu
      exact hu ▸ (hp l hl).lacksNot

section

variable {policy : Policy} {schema : Schema} {render : Place}

theorem exists_of_target {place : Place} (h : (findings policy schema render).target = some place) :
    ∃ t ∈ renderListing policy schema render.node, LacksMarker policy t ∧
      place = ⟨t.path ++ render.path, t.node⟩ := by
  cases findings_cases policy schema render
  case inl hj => simp [hj.right.target] at h
  case inr hc =>
    have ⟨before, t, rest, hL, _, ht, he⟩ := hc
    refine ⟨t, by simp [hL], ht, ?_⟩
    rw [he.target] at h
    split at h
    case isTrue => contradiction
    case isFalse => exact (Option.some.inj h).symm

theorem target_eq_none_of_forall (h : ∀ t ∈ renderListing policy schema render.node, ¬LacksMarker policy t) :
    (findings policy schema render).target = none := by
  cases findings_cases policy schema render
  case inl hj => exact hj.right.target
  case inr hc =>
    have ⟨before, t, rest, hL, _, ht, _⟩ := hc
    exact absurd ht (h t (by simp [hL]))

-- A marked element on the top level settles the audit if nothing lacks the marker up to there.
theorem target_eq_none_of_ownMarked {upTo rest : List Trail} {u : Trail}
    (h : renderListing policy schema render.node = upTo ++ rest) (hl : ∀ t ∈ upTo, ¬LacksMarker policy t)
    (hu : u ∈ upTo) (ho : OwnMarked policy u) : (findings policy schema render).target = none := by
  cases findings_cases policy schema render
  case inl hj => exact hj.right.target
  case inr hc =>
    have ⟨before, t, rest', hL, _, ht, he⟩ := hc
    have hb : u ∈ before := by
      obtain ⟨_, rfl, _⟩ | ⟨more, rfl, hm⟩ := List.append_eq_append_iff.mp (h.symm.trans hL)
      · exact List.mem_append_left _ hu
      · cases more
        case nil => simpa using hu
        case cons x _ =>
          obtain ⟨rfl, _⟩ := List.cons.inj hm
          exact absurd ht (hl t (by simp))
    rw [he.target, if_pos (he.satisfied.mpr ⟨u, hb, ho⟩)]

end

-- The audit decides the rule. The target is the first element of the listing that lacks the marker, if
-- no marked element on the top level comes before it.
theorem audit_decides {candidate : Candidate} {component : String} (policy : Policy) (schema : Schema)
    (hname : candidate.name = some component) :
    let L := renderListing policy schema candidate.render.node
    let first := L.find? (LacksMarker policy ·)
    let preceding := L.takeWhile (¬LacksMarker policy ·)
    (∀ v, audit policy schema candidate = .violation v ↔
      ∃ t, first = some t ∧ (¬∃ u ∈ preceding, OwnMarked policy u) ∧
        v = .of policy component ⟨t.path ++ candidate.render.path, t.node⟩) ∧
    (audit policy schema candidate = .excluded ↔
      first = none ∧ (¬∃ u ∈ L, OwnMarked policy u) ∧ ∃ u ∈ L, LookedThrough policy u) ∧
    (audit policy schema candidate = .compliant ↔
      first.isSome ∧ (∃ u ∈ preceding, OwnMarked policy u) ∨
      first = none ∧ ((∃ u ∈ L, OwnMarked policy u) ∨ ¬∃ u ∈ L, LookedThrough policy u)) := by
  intro L first preceding
  simp only [audit, hname]
  cases findings_cases policy schema candidate.render
  case inl h =>
    have ⟨hl, hj⟩ := h
    have hfirst : first = none := by simpa [first, List.find?_eq_none] using hl
    simp only [L, hfirst, hj.target, ← hj.satisfied, ← hj.excluded]
    cases (findings policy schema candidate.render).satisfied <;>
      cases (findings policy schema candidate.render).excluded <;> simp
  case inr h =>
    have ⟨before, t, rest, hL, hb, ht, he⟩ := h
    have hfirst : first = some t := by
      have hnone : before.find? (LacksMarker policy ·) = none := by simpa [List.find?_eq_none] using hb
      simp [first, L, hL, List.find?_append, hnone, ht]
    have hpre : preceding = before := by
      simp only [preceding, L, hL]
      rw [List.takeWhile_append_of_pos (by simpa using hb)]
      simp [ht]
    simp only [hfirst, hpre, he.target, ← he.satisfied]
    cases (findings policy schema candidate.render).satisfied <;> simp [eq_comm]

namespace Sample

-- An element with its attributes and children.
def element (name : String) (attributes children : List Node) : Node :=
  .mk .jsxElement {} (some name)
    [.one .openingElement (.branch .jsxOpeningElement {} [.many .attributes attributes]), .many .children children]

-- Providers are looked through.
def policy : Policy where
  isExcluded name := name == "Provider"
  marker := "data-component"
  wrappers := []

-- Two elements side by side in a provider.
def badge : Node :=
  element "Provider" [] [element "Icon" [] [], element "Label" [] []]

def candidate : Candidate where
  name := some "Badge"
  form := .binding
  declaration := .root (.leaf .variableDeclarator {})
  exported := true
  render := .root badge

end Sample

theorem audit_decides_badge :
    Sample.candidate.name = some "Badge" ∧
      ∃ v, audit Sample.policy default Sample.candidate = .violation v ∧ v.target.path = [⟨.children, 0⟩] := by
  let first := (renderListing Sample.policy default Sample.badge).find? (LacksMarker Sample.policy ·)
  have hpath : first.map Trail.path = some [⟨.children, 0⟩] := by decide +kernel
  obtain ⟨t, ht, hp⟩ := Option.map_eq_some_iff.mp hpath
  refine ⟨rfl, _, ((audit_decides Sample.policy default rfl).left _).mpr ⟨t, ht, by decide +kernel, rfl⟩, ?_⟩
  simp [Violation.of, hp, Sample.candidate, Place.root]

end MarkerLint
