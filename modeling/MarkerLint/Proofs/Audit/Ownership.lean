import Mathlib.Data.List.Forall2
import MarkerLint.Component.Audit
import MarkerLint.Proofs.Search.Trail

-- What is on the top level of a component. The rule is about the whole way from the root of the markup down to a
-- node: every function on it is a child of markup and leads to the markup it returns. The audit looks up only to
-- the nearest markup and remembers what it found there.

namespace MarkerLint

open Outline

-- The function is what stands in braces that are a child of markup.
def InBraces (function : Entry) (above : List Entry) : Prop :=
  function.edge = some .expression ∧
    ∃ braces rest, above = braces :: rest ∧
      braces.node.kind = .jsxExpressionContainer ∧ braces.edge = some .children

-- The way down from a function goes into markup that is its body, or that its body returns.
inductive LeadsToMarkup : List Entry → Prop
  | body {body way} : body.edge = some .body → body.node.kind.isMarkup → LeadsToMarkup (body :: way)
  | returned {body statement markup way} :
    body.edge = some .body → body.node.kind = .functionBody →
    statement.edge = some .body → statement.node.kind = .returnStatement →
    markup.edge = some .argument → markup.node.kind.isMarkup →
    LeadsToMarkup (body :: statement :: markup :: way)

-- Every function on the way from the root renders in its place.
def Own (t : Trail) : Prop :=
  ∀ below function above, t.entries = below ++ function :: above → function.node.kind.isFunction →
    InBraces function above ∧ LeadsToMarkup below.reverse

theorem isFunction_of_isMarkup {k : Kind} (h : k.isMarkup) : k.isFunction = false := by
  cases k <;> simp [Kind.isMarkup] at h <;> rfl

theorem standsAsChild_iff {function : Entry} {above : List Entry} :
    standsAsChild function above.head? ↔ InBraces function above := by
  cases above
  case nil => simp [standsAsChild, InBraces]
  case cons => simp [standsAsChild, InBraces]

theorem leadsToResult_iff {way : List Entry} : leadsToResult way ↔ LeadsToMarkup way := by
  constructor
  case mp =>
    intro h
    cases way
    case nil => simp [leadsToResult] at h
    case cons body way =>
      by_cases hb : body.node.kind = .functionBody
      case neg =>
        simp only [leadsToResult, hb, ↓reduceIte, Bool.and_eq_true, decide_eq_true_eq] at h
        exact .body h.left h.right
      case pos =>
        match way with
        | [] | [_] => simp [leadsToResult, hb] at h
        | statement :: markup :: way =>
          simp only [leadsToResult, hb, ↓reduceIte, Bool.and_eq_true, decide_eq_true_eq] at h
          have ⟨h, ⟨⟨hs, hr⟩, hm⟩, hk⟩ := h
          exact .returned h hb hs hr hm hk
  case mpr =>
    intro h
    cases h
    case body body _ h hm =>
      have hb : body.node.kind ≠ .functionBody := by
        intro hb
        simp [hb, Kind.isMarkup] at hm
      simp [leadsToResult, h, hb, hm]
    case returned h hb hs hr hm hk => simp [leadsToResult, h, hb, hs, hr, hm, hk]

theorem isRenderProp_iff {function : Entry} {above below : List Entry} :
    isRenderProp function above.head? below ↔ InBraces function above ∧ LeadsToMarkup below := by
  rw [isRenderProp, Bool.and_eq_true, standsAsChild_iff, leadsToResult_iff]

-- The rule checked from the node upwards, with what was passed already in `below`.
def rendersInPlace (below : List Entry) : List Entry → Bool
  | [] => true
  | entry :: above =>
    (!entry.node.kind.isFunction || isRenderProp entry above.head? below) &&
      rendersInPlace (entry :: below) above

theorem rendersInPlace_iff {below above : List Entry} :
    rendersInPlace below above ↔
      ∀ passed function rest, above = passed ++ function :: rest → function.node.kind.isFunction →
        InBraces function rest ∧ LeadsToMarkup (passed.reverse ++ below) := by
  induction above generalizing below
  case nil => simp [rendersInPlace]
  case cons entry above hi =>
    simp only [rendersInPlace, Bool.and_eq_true, Bool.or_eq_true, Bool.not_eq_true', isRenderProp_iff, hi]
    constructor
    case mp =>
      rintro ⟨h, hr⟩ passed function rest he hf
      cases passed
      case nil =>
        simp only [List.nil_append, List.cons.injEq] at he
        obtain ⟨rfl, rfl⟩ := he
        simpa [hf] using h
      case cons _ passed =>
        simp only [List.cons_append, List.cons.injEq] at he
        obtain ⟨rfl, he⟩ := he
        simpa using hr passed function rest he hf
    case mpr =>
      intro h
      refine ⟨?_, fun passed function rest he hf => ?_⟩
      · by_cases hf : entry.node.kind.isFunction
        case pos => exact .inr (by simpa using h [] entry above rfl hf)
        case neg => exact .inl (by simpa using hf)
      · simpa using h (entry :: passed) function rest (by simp [he]) hf

theorem own_iff {t : Trail} (h : t.node.kind.isFunction = false) :
    Own t ↔ rendersInPlace [t.here] t.above := by
  rw [rendersInPlace_iff, Own]
  constructor
  case mp =>
    intro ho passed function rest he hf
    simpa using ho (t.here :: passed) function rest (by simp [Trail.entries, he]) hf
  case mpr =>
    intro ho below function above he hf
    cases below
    case nil =>
      simp only [Trail.entries, List.nil_append, List.cons.injEq] at he
      rw [← he.left] at hf
      exact absurd hf (by simpa [Trail.node] using h)
    case cons _ below =>
      simp only [Trail.entries, List.cons_append, List.cons.injEq] at he
      simpa [← he.left] using ho below function above he.right hf

instance (t : Trail) : Decidable (Own t) :=
  match h : t.node.kind.isFunction with
  | false => decidable_of_iff _ (own_iff h).symm
  | true => isFalse fun ho => nomatch (ho [] t.here t.above rfl h).right

-- Below markup nothing adds to the way that leads to it.
theorem leadsToResult_append_markup {markup : Entry} (h : markup.node.kind.isMarkup) (way below : List Entry) :
    leadsToResult (way ++ markup :: below) = leadsToResult (way ++ [markup]) := by
  have hb : markup.node.kind ≠ .functionBody := by
    intro hb
    simp [hb, Kind.isMarkup] at h
  have hr : markup.node.kind ≠ .returnStatement := by
    intro hr
    simp [hr, Kind.isMarkup] at h
  match way with
  | [] => simp [leadsToResult, hb]
  | [body] => cases below <;> simp [leadsToResult, hr]
  | [body, statement] => simp [leadsToResult]
  | body :: statement :: result :: way => simp [leadsToResult]

theorem rendersInPlace_append_markup {markup : Entry} (h : markup.node.kind.isMarkup)
    (way below above : List Entry) :
    rendersInPlace (way ++ markup :: below) above = rendersInPlace (way ++ [markup]) above := by
  induction above generalizing way
  case nil => rfl
  case cons entry above hi =>
    have := hi (entry :: way)
    simp only [List.cons_append] at this
    simp only [rendersInPlace, isRenderProp, leadsToResult_append_markup h way below, this]

-- Looking up to the nearest markup is enough if what is foreign is known there.
theorem isOwn_eq_rendersInPlace {foreign : List NodePath} {below above : List Entry}
    (h : ∀ markup rest, markup :: rest <:+ above → markup.node.kind.isMarkup →
      foreign.contains (pathOfChain (markup :: rest)) = !rendersInPlace [markup] rest) :
    isOwn foreign below above = rendersInPlace below above := by
  induction above generalizing below
  case nil => rfl
  case cons entry above hi =>
    replace hi := @hi (entry :: below) fun markup rest hs => h markup rest (hs.trans (List.suffix_cons ..))
    by_cases hm : entry.node.kind.isMarkup
    case pos =>
      have hf := isFunction_of_isMarkup hm
      have := rendersInPlace_append_markup hm [] below above
      simp only [List.nil_append] at this
      simp only [isOwn, hm, ↓reduceIte, h entry above List.suffix_rfl hm, rendersInPlace, hf, this]
      simp
    case neg =>
      by_cases hf : entry.node.kind.isFunction && !isRenderProp entry above.head? below
      case pos =>
        simp only [Bool.and_eq_true, Bool.not_eq_true'] at hf
        simp [isOwn, hm, rendersInPlace, hf]
      case neg =>
        have hr : (!entry.node.kind.isFunction || isRenderProp entry above.head? below) = true := by
          revert hf
          cases entry.node.kind.isFunction <;> cases isRenderProp entry above.head? below <;> simp
        simp only [isOwn, hm, hf, rendersInPlace, hr, hi]
        simp

-- Markup above something on the top level is on the top level itself.
theorem Own.of_suffix {t a : Trail} (h : Own t) (hs : a.entries <:+ t.entries) (hm : a.node.kind.isMarkup) :
    Own a := by
  intro below function above he hf
  have ⟨passed, ht⟩ := hs
  have ⟨hb, hl⟩ := h (passed ++ below) function above (by simp [← ht, he]) hf
  refine ⟨hb, ?_⟩
  cases below
  case nil =>
    obtain rfl : a.here = function := (List.cons.inj he).left
    exact absurd hf (by simpa [Trail.node] using isFunction_of_isMarkup hm)
  case cons _ below =>
    obtain ⟨rfl, _⟩ := List.cons.inj he
    rw [← leadsToResult_iff, List.reverse_append, List.reverse_cons, List.append_assoc, List.singleton_append,
      leadsToResult_append_markup hm] at hl
    rwa [← leadsToResult_iff, List.reverse_cons]

-- Entries that the rule cannot tell apart.
structure Resembles (e e' : Entry) : Prop where
  via : e'.via = e.via
  kind : e'.node.kind = e.node.kind

theorem Resembles.edge {e e' : Entry} (h : Resembles e e') : e'.edge = e.edge := by
  rw [Entry.edge, Entry.edge, h.via]

theorem vias_congr {above above' : List Entry} (h : List.Forall₂ Resembles above above') :
    above'.filterMap Entry.via = above.filterMap Entry.via := by
  induction h
  case nil => rfl
  case cons he _ hi => rw [List.filterMap_cons, List.filterMap_cons, he.via, hi]

theorem leadsToResult_congr {way way' : List Entry} (h : List.Forall₂ Resembles way way') :
    leadsToResult way' = leadsToResult way := by
  match h with
  | .nil => rfl
  | .cons hb .nil | .cons hb (.cons hs .nil) => simp [leadsToResult, hb.edge, hb.kind]
  | .cons hb (.cons hs (.cons hr _)) =>
    simp [leadsToResult, hb.edge, hb.kind, hs.edge, hs.kind, hr.edge, hr.kind]

theorem standsAsChild_congr {entry entry' : Entry} {above above' : List Entry} (he : Resembles entry entry')
    (ha : List.Forall₂ Resembles above above') :
    standsAsChild entry' above'.head? = standsAsChild entry above.head? := by
  cases ha
  case nil => simp [standsAsChild, he.edge]
  case cons hp _ => simp [standsAsChild, he.edge, hp.edge, hp.kind]

theorem rendersInPlace_congr {below below' above above' : List Entry} (hb : List.Forall₂ Resembles below below')
    (ha : List.Forall₂ Resembles above above') :
    rendersInPlace below' above' = rendersInPlace below above := by
  induction ha generalizing below below'
  case nil => rfl
  case cons entry entry' above above' he ha hi =>
    have hs := standsAsChild_congr he ha
    simp only [rendersInPlace, isRenderProp, he.kind, hs, leadsToResult_congr hb, hi (.cons he hb)]

theorem own_congr {t t' : Trail} (h : List.Forall₂ Resembles t.entries t'.entries)
    (hf : t.node.kind.isFunction = false) : Own t' ↔ Own t := by
  have ⟨he, ha⟩ := List.forall₂_cons.mp h
  have hf' : t'.node.kind.isFunction = false := by
    rw [← hf, Trail.node, Trail.node, he.kind]
  rw [own_iff hf, own_iff hf', rendersInPlace_congr (.cons he .nil) ha]

end MarkerLint
