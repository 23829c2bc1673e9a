import MarkerLint.Proofs.Marking.Relation

-- What marking does to the audit of one piece of markup. A target closes what is below it, so the new listing is
-- the old one without what is below targets. Where the old listing has something that settles the audit, the new
-- one has a marked element on the top level at the same point or before.

namespace MarkerLint

open Outline

-- The second list keeps what the first one has, in its order, except for what may be dropped.
inductive Thinned {α β : Type} (Keep : α → β → Prop) (Drop : α → Prop) : List α → List β → Prop
  | nil : Thinned Keep Drop [] []
  | keep {a b l l'} : Keep a b → Thinned Keep Drop l l' → Thinned Keep Drop (a :: l) (b :: l')
  | drop {a l l'} : Drop a → Thinned Keep Drop l l' → Thinned Keep Drop (a :: l) l'

namespace Thinned

variable {α β : Type} {Keep : α → β → Prop} {Drop : α → Prop} {l k : List α} {l' k' : List β} {a : α} {b : β}

theorem of_forall₂ (h : List.Forall₂ Keep l l') : Thinned Keep Drop l l' := by
  induction h
  case nil => exact .nil
  case cons h _ hi => exact .keep h hi

theorem of_drop (h : ∀ a ∈ l, Drop a) : Thinned Keep Drop l ([] : List β) := by
  induction l
  case nil => exact .nil
  case cons hi =>
    have ⟨ha, h⟩ := List.forall_mem_cons.mp h
    exact .drop ha (hi h)

theorem append (h : Thinned Keep Drop l l') (hk : Thinned Keep Drop k k') :
    Thinned Keep Drop (l ++ k) (l' ++ k') := by
  induction h
  case nil => exact hk
  case keep h _ hi => exact .keep h hi
  case drop h _ hi => exact .drop h hi

theorem flatMap {f : α → List α} {g : β → List β} (hk : ∀ a b, Keep a b → Thinned Keep Drop (f a) (g b))
    (hd : ∀ a, Drop a → ∀ k ∈ f a, Drop k) (h : Thinned Keep Drop l l') :
    Thinned Keep Drop (l.flatMap f) (l'.flatMap g) := by
  induction h
  case nil => exact .nil
  case keep h _ hi => exact (hk _ _ h).append hi
  case drop h _ hi => exact (of_drop (hd _ h)).append hi

theorem split (h : Thinned Keep Drop (l ++ k) l') :
    ∃ m m', l' = m ++ m' ∧ Thinned Keep Drop l m ∧ Thinned Keep Drop k m' := by
  induction l generalizing l'
  case nil => exact ⟨[], l', rfl, .nil, h⟩
  case cons hi =>
    cases h
    case keep h hl =>
      have ⟨m, m', he, hm, hm'⟩ := hi hl
      exact ⟨_ :: m, m', by simp [he], .keep h hm, hm'⟩
    case drop h hl =>
      have ⟨m, m', he, hm, hm'⟩ := hi hl
      exact ⟨m, m', he, .drop h hm, hm'⟩

theorem kept (h : Thinned Keep Drop l l') (ha : a ∈ l) (hd : ¬Drop a) : ∃ b ∈ l', Keep a b := by
  induction h
  case nil => contradiction
  case keep b _ _ h _ hi =>
    cases List.mem_cons.mp ha
    case inl ha => exact ⟨b, List.mem_cons_self, ha ▸ h⟩
    case inr ha =>
      have ⟨b, hb, h⟩ := hi ha
      exact ⟨b, List.mem_cons_of_mem _ hb, h⟩
  case drop h _ hi =>
    cases List.mem_cons.mp ha
    case inl ha => exact absurd (ha ▸ h) hd
    case inr ha => exact hi ha

theorem origin (h : Thinned Keep Drop l l') (hb : b ∈ l') : ∃ a ∈ l, Keep a b := by
  induction h
  case nil => contradiction
  case keep a _ _ _ h _ hi =>
    cases List.mem_cons.mp hb
    case inl hb => exact ⟨a, List.mem_cons_self, hb ▸ h⟩
    case inr hb =>
      have ⟨a, ha, h⟩ := hi hb
      exact ⟨a, List.mem_cons_of_mem _ ha, h⟩
  case drop hi =>
    have ⟨a, ha, h⟩ := hi hb
    exact ⟨a, List.mem_cons_of_mem _ ha, h⟩

end Thinned

-- A piece of markup and the same piece marked. Targets in it are elements that can take an attribute.
structure MarkedRender (policy : Policy) (schema : Schema) (targets : List NodePath) (r r' : Place) : Prop where
  marking : Marking policy.marker targets r.path r.node r'.node
  opening : ¬IsOpening targets r.path
  elements : ∀ t, Trail.Leads schema r.node t → t.path ++ r.path ∈ targets →
    t.node.kind = .jsxElement ∧ HasAttributeList t.node

-- Trails of the two pieces that go the same way.
structure Alike (policy : Policy) (schema : Schema) (targets : List NodePath) (r : Place) (t t' : Trail) : Prop where
  leads : Trail.Leads schema r.node t
  entries : List.Forall₂ Resembles t.entries t'.entries
  marking : Marking policy.marker targets (t.path ++ r.path) t.node t'.node
  opening : ¬IsOpening targets (t.path ++ r.path)

-- The trail leads through a target.
def Hidden (targets : List NodePath) (r : Place) (t : Trail) : Prop :=
  ∃ a : Trail, a.entries <:+ t.above ∧ a.path ++ r.path ∈ targets

section

variable {policy : Policy} {schema : Schema} {targets : List NodePath} {r r' : Place} {t t' u : Trail}

theorem Alike.forall₂_kids (a : Alike policy schema targets r t t') (h : t.path ++ r.path ∉ targets) :
    List.Forall₂ (Alike policy schema targets r) (t.kids schema) (t'.kids schema) := by
  have hp := fun e => a.marking.parallel (e := e) fun ha => a.opening ha.right
  refine Trail.forall₂_kids hp a.marking.kind_eq fun s c c' hk mc => ?_
  refine ⟨.child a.leads hk, .cons ⟨rfl, mc.kind_eq⟩ a.entries, mc, ?_⟩
  -- The path of a kid is an opening tag of its parent only, and the parent is no target.
  rintro ⟨x, hx, he⟩
  obtain ⟨_, rfl⟩ := List.cons.inj he
  exact h hx

-- What lacks the marker in the end lacked it before and is no target.
theorem Alike.lacksMarker (a : Alike policy schema targets r t t') (m : MarkedRender policy schema targets r r')
    (h : LacksMarker policy t') : LacksMarker policy t ∧ t.path ++ r.path ∉ targets := by
  have hn : t.path ++ r.path ∉ targets := by
    intro ht
    have := a.marking.hasAttribute_of_mem ht (m.elements t a.leads ht).right
    rw [h.marker] at this
    contradiction
  have hk : t.node.kind = .jsxElement := a.marking.kind_eq ▸ h.element
  exact ⟨⟨hk, a.marking.isFragment_eq hn ▸ h.fragment, a.marking.hasAttribute_eq hn _ ▸ h.marker,
    a.marking.name_eq ▸ h.excluded, (own_congr a.entries (by rw [hk]; rfl)).mp h.own⟩, hn⟩

theorem Hidden.kid {k : Trail} (hk : k ∈ t.kids schema) (h : Hidden targets r t ∨ t.path ++ r.path ∈ targets) :
    Hidden targets r k := by
  obtain ⟨s, c, _, rfl⟩ := Trail.mem_kids.mp hk
  cases h
  case inl h =>
    have ⟨a, ha, ht⟩ := h
    exact ⟨a, ha.trans (List.suffix_cons ..), ht⟩
  case inr h => exact ⟨t, List.suffix_rfl, h⟩

-- Of the targets on the way to a target, the topmost is not hidden.
theorem exists_topmost (h : u.path ++ r.path ∈ targets) :
    ∃ a : Trail, a.entries <:+ u.entries ∧ a.path ++ r.path ∈ targets ∧ ¬Hidden targets r a := by
  induction hd : u.above.length using Nat.strongRecOn generalizing u
  case _ d hi =>
    by_cases hh : Hidden targets r u
    case neg => exact ⟨u, List.suffix_rfl, h, hh⟩
    case pos =>
      obtain ⟨b, hb, ht⟩ := hh
      have hl : b.above.length < d := by
        have := hb.length_le
        simp only [Trail.entries, List.length_cons] at this
        omega
      obtain ⟨a, ha, hta, hna⟩ := hi _ hl ht rfl
      exact ⟨a, ha.trans (hb.trans (List.suffix_cons ..)), hta, hna⟩

namespace MarkedRender

variable (m : MarkedRender policy schema targets r r')

include m

theorem alike_root : Alike policy schema targets r (.root r.node) (.root r'.node) where
  leads := .root
  entries := .cons ⟨rfl, m.marking.kind_eq⟩ .nil
  marking := m.marking
  opening := m.opening

theorem thinned_openKids (a : Alike policy schema targets r t t') :
    Thinned (Alike policy schema targets r) (Hidden targets r)
      (t.openKids schema (closes policy)) (t'.openKids schema (closes policy)) := by
  by_cases ht : t.path ++ r.path ∈ targets
  case pos =>
    have ⟨hk, hl⟩ := m.elements t a.leads ht
    have hm := a.marking.hasAttribute_of_mem ht hl
    have hc : closes policy t'.node = true := by simp [closes, isMarked, a.marking.kind_eq, hk, hm]
    simp only [Trail.openKids, hc, ↓reduceIte]
    split
    case isTrue => exact .nil
    case isFalse => exact .of_drop fun k hk => .kid hk (.inr ht)
  case neg =>
    simp only [Trail.openKids, a.marking.closes_eq ht]
    split
    case isTrue => exact .nil
    case isFalse => exact .of_forall₂ (a.forall₂_kids ht)

theorem thinned_levelOrder {level level' : List Trail}
    (h : Thinned (Alike policy schema targets r) (Hidden targets r) level level') :
    Thinned (Alike policy schema targets r) (Hidden targets r)
      (levelOrder schema (closes policy) level) (levelOrder schema (closes policy) level') := by
  have hnext {level level'} (h : Thinned (Alike policy schema targets r) (Hidden targets r) level level') :=
    h.flatMap (fun _ _ => m.thinned_openKids) fun _ ht _ hk => .kid (mem_kids_of_openKids hk) (.inl ht)
  fun_induction levelOrder schema (closes policy) level generalizing level'
  case case1 =>
    cases h
    simpa [levelOrder] using .nil
  case case2 t level hi =>
    rw [levelOrder_eq level']
    exact h.append (hi (hnext h))

theorem thinned_listing :
    Thinned (Alike policy schema targets r) (Hidden targets r)
      (renderListing policy schema r.node) (renderListing policy schema r'.node) :=
  m.thinned_levelOrder (.keep m.alike_root .nil)

-- What is listed up to some point, before and after the marking.
theorem thinned_upTo {upTo rest : List Trail} (h : renderListing policy schema r.node = upTo ++ rest) :
    ∃ upTo' rest', renderListing policy schema r'.node = upTo' ++ rest' ∧
      Thinned (Alike policy schema targets r) (Hidden targets r) upTo upTo' := by
  have ⟨upTo', rest', he, ht, _⟩ := (h ▸ m.thinned_listing).split
  exact ⟨upTo', rest', he, ht⟩

-- A marked element or a target on the top level leaves a marked element on the top level behind: itself,
-- or the topmost target above it.
theorem exists_ownMarked {upTo rest upTo' : List Trail} (h : renderListing policy schema r.node = upTo ++ rest)
    (ht : Thinned (Alike policy schema targets r) (Hidden targets r) upTo upTo') (hu : u ∈ upTo) (ho : Own u)
    (hm : OwnMarked policy u ∨ u.path ++ r.path ∈ targets) : ∃ u' ∈ upTo', OwnMarked policy u' := by
  obtain ⟨before, after, hb⟩ := List.append_of_mem hu
  have hL : renderListing policy schema r.node = before ++ u :: (after ++ rest) := by simp [h, hb]
  have hlead : ∀ a ∈ upTo, Trail.Leads schema r.node a :=
    fun a ha => leads_of_mem_listing (h ▸ List.mem_append_left _ ha)
  by_cases hh : ∃ v : Trail, v.entries <:+ u.entries ∧ v.path ++ r.path ∈ targets
  case pos =>
    obtain ⟨v, hv, hvt⟩ := hh
    obtain ⟨a, ha, hat, hah⟩ := exists_topmost hvt
    have hs := ha.trans hv
    have hau : a ∈ upTo := by
      cases List.suffix_cons_iff.mp hs
      case inl he =>
        simp only [Trail.entries, List.cons.injEq] at he
        exact Trail.ext he.left he.right ▸ hu
      case inr hs => exact hb ▸ List.mem_append_left _ (above_before_listing hL hs)
    obtain ⟨hk, hl⟩ := m.elements a (hlead a hau) hat
    obtain ⟨a', ha', hal⟩ := ht.kept hau hah
    have hown : Own a' := (own_congr hal.entries (by rw [hk]; rfl)).mpr (ho.of_suffix hs (isMarkup_of_element hk))
    exact ⟨a', ha', by simp [isMarked, hal.marking.kind_eq, hk, hal.marking.hasAttribute_of_mem hat hl], hown⟩
  case neg =>
    have hn : u.path ++ r.path ∉ targets := fun ht => hh ⟨u, List.suffix_rfl, ht⟩
    have hd : ¬Hidden targets r u := by
      rintro ⟨a, ha, hat⟩
      exact hh ⟨a, ha.trans (List.suffix_cons ..), hat⟩
    obtain ⟨u', hu', hal⟩ := ht.kept hu hd
    have hmark : isMarked policy u.node = true := (hm.resolve_right hn).marked
    have hk : u.node.kind = .jsxElement := by
      simp only [isMarked, Bool.and_eq_true, decide_eq_true_eq] at hmark
      exact hmark.left
    have hown : Own u' := (own_congr hal.entries (by rw [hk]; rfl)).mpr ho
    exact ⟨u', hu', by simpa [isMarked, hal.marking.kind_eq, hal.marking.hasAttribute_eq hn] using hmark, hown⟩

-- If what the audit found, if anything, was marked, it finds nothing now.
theorem target_eq_none (h : ∀ place, (findings policy schema r).target = some place → place.path ∈ targets) :
    (findings policy schema r').target = none := by
  cases findings_cases policy schema r
  case inl hc =>
    refine target_eq_none_of_forall fun t' ht' hl => ?_
    have ⟨t, ht, hal⟩ := m.thinned_listing.origin ht'
    exact hc.left t ht (hal.lacksMarker m hl).left
  case inr hc =>
    have ⟨before, t, rest, hL, hb, ht, he⟩ := hc
    by_cases hs : (findings policy schema r).satisfied
    case pos =>
      have ⟨u, hu, ho⟩ := he.satisfied.mp hs
      have ⟨upTo', rest', hL', hth⟩ := m.thinned_upTo hL
      have ⟨u', hu', ho'⟩ := m.exists_ownMarked hL hth hu ho.own (.inl ho)
      refine target_eq_none_of_ownMarked hL' (fun v' hv' hl => ?_) hu' ho'
      have ⟨v, hv, hal⟩ := hth.origin hv'
      exact hb v hv (hal.lacksMarker m hl).left
    case neg =>
      -- The first element that lacked the marker is a target now.
      have htarget : t.path ++ r.path ∈ targets := h _ (by rw [he.target, if_neg hs])
      replace hL : renderListing policy schema r.node = (before ++ [t]) ++ rest := by simp [hL]
      have ⟨upTo', rest', hL', hth⟩ := m.thinned_upTo hL
      have ⟨u', hu', ho'⟩ := m.exists_ownMarked hL hth (by simp) ht.own (.inr htarget)
      refine target_eq_none_of_ownMarked hL' (fun v' hv' hl => ?_) hu' ho'
      have ⟨v, hv, hal⟩ := hth.origin hv'
      cases List.mem_append.mp hv
      case inl hv => exact hb v hv (hal.lacksMarker m hl).left
      case inr hv =>
        obtain rfl := List.mem_singleton.mp hv
        exact (hal.lacksMarker m hl).right htarget

end MarkedRender

end
end MarkerLint
