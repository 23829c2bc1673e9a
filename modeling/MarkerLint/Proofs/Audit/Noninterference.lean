import MarkerLint.Proofs.Audit.Decision
import MarkerLint.Proofs.Audit.Tag
import MarkerLint.Proofs.Outline.Alteration

namespace MarkerLint

open Outline

-- Some function on the way up does not stand in braces that are a child of markup.
def behindClosure : List Entry → Bool
  | [] => false
  | entry :: above => entry.node.kind.isFunction && !standsAsChild entry above.head? || behindClosure above

theorem exists_closure {above : List Entry} (h : behindClosure above) :
    ∃ passed function rest, above = passed ++ function :: rest ∧ function.node.kind.isFunction ∧
      ¬InBraces function rest := by
  induction above
  case nil => contradiction
  case cons entry above hi =>
    simp only [behindClosure, Bool.or_eq_true, Bool.and_eq_true, Bool.not_eq_true'] at h
    cases h
    case inl h =>
      refine ⟨[], entry, above, rfl, h.left, fun hb => ?_⟩
      rw [standsAsChild_iff.mpr hb] at h
      exact Bool.noConfusion h.right
    case inr h =>
      have ⟨passed, function, rest, he, hf, hn⟩ := hi h
      exact ⟨entry :: passed, function, rest, by simp [he], hf, hn⟩

theorem behindClosure_congr {above above' : List Entry} (h : List.Forall₂ Resembles above above') :
    behindClosure above' = behindClosure above := by
  induction h
  case nil => rfl
  case cons he ha hi => simp only [behindClosure, he.kind, standsAsChild_congr he ha, hi]

-- No function above keeps the node off the top level for where it stands.
def isSeen (t : Trail) : Bool :=
  !behindClosure t.above

theorem Own.isSeen {t : Trail} (h : Own t) : isSeen t := by
  by_contra hs
  have hb : behindClosure t.above := by simpa [MarkerLint.isSeen] using hs
  have ⟨passed, function, rest, he, hf, hn⟩ := exists_closure hb
  have ht : t.entries = (t.here :: passed) ++ function :: rest := by simp [Trail.entries, he]
  exact hn (h _ function rest ht hf).left

-- The path leads to what stands in braces that are a child of something.
def Outline.Node.isBraced (root : Node) : NodePath → Bool
  | s :: t :: path =>
    s.edge = .expression && t.edge = .children &&
      (root.at? (t :: path)).any fun braces => braces.kind = .jsxExpressionContainer
  | _ => false

section

variable {schema : Schema} {closed : Node → Bool} {root : Node} {t k : Trail}

theorem isSeen_kid (hk : k ∈ t.kids schema) : isSeen k = !behindClosure t.entries := by
  have ⟨s, c, _, hc⟩ := Trail.mem_kids.mp hk
  rw [hc]
  rfl

theorem not_isSeen_kid (h : isSeen t = false) (hk : k ∈ t.kids schema) : isSeen k = false := by
  have hb : behindClosure t.above := by simpa [isSeen] using h
  simp [isSeen_kid hk, Trail.entries, behindClosure, hb]

theorem filter_openKids_of_behindClosure (h : behindClosure t.entries) :
    (t.openKids schema closed).filter isSeen = [] := by
  refine List.filter_eq_nil_iff.mpr fun k hk => ?_
  simp [isSeen_kid (mem_kids_of_openKids hk), h]

-- What a search finds in braces has a path that says so.
theorem isBraced_of_inBraces (hl : Trail.Leads schema root t) (h : InBraces t.here t.above) :
    root.isBraced t.path := by
  obtain ⟨here, above⟩ := t
  obtain ⟨hx, braces, rest, rfl, hk, hc⟩ := h
  have ⟨s, hs, hse⟩ := Option.map_eq_some_iff.mp hx
  have ⟨u, hu, hue⟩ := Option.map_eq_some_iff.mp hc
  have hat := hl.of_above.at?_path
  have hpath : (⟨here, braces :: rest⟩ : Trail).path = s :: u :: rest.filterMap Entry.via := by
    rw [Trail.path, Trail.entries, List.filterMap_cons_some hs, List.filterMap_cons_some hu]
  rw [Trail.path, Trail.entries, List.filterMap_cons_some hu] at hat
  simp [hpath, Node.isBraced, hse, hue, hat, Trail.node, hk]

end

-- Nodes that the audit cannot tell apart.
structure LooksAlike (n n' : Node) : Prop where
  face : n'.face = n.face
  tag : n.kind = .jsxElement → n'.tag? = n.tag?

namespace LooksAlike

variable {policy : Policy} {n n' : Node}

theorem kind (h : LooksAlike n n') : n'.kind = n.kind :=
  congrArg Prod.fst h.face

theorem span (h : LooksAlike n n') : n'.span = n.span :=
  congrArg (·.2.1) h.face

theorem name (h : LooksAlike n n') : n'.name = n.name :=
  congrArg (·.2.2) h.face

theorem isFragment_eq (h : LooksAlike n n') : isFragment n' = isFragment n := by
  rw [Bool.eq_iff_iff, isFragment_iff, isFragment_iff, h.kind, h.name]
  refine or_congr_right (and_congr_right fun hk => ?_)
  rw [Node.attributeLooks?_eq, Node.attributeLooks?_eq, h.tag hk]

theorem hasAttribute_eq (h : LooksAlike n n') (hk : n.kind = .jsxElement) (name : String) :
    hasAttribute n' name = hasAttribute n name := by
  rw [Bool.eq_iff_iff, hasAttribute_iff, hasAttribute_iff, Node.attributeLooks?_eq, Node.attributeLooks?_eq,
    h.tag hk]

theorem closes_eq (h : LooksAlike n n') : closes policy n' = closes policy n := by
  rw [closes, closes, h.isFragment_eq, isMarked, isMarked, h.kind]
  by_cases hk : n.kind = .jsxElement
  case pos => rw [h.hasAttribute_eq hk]
  case neg => simp [hk]

end LooksAlike

-- What stands in the place of an opening tag is one.
def OpensProperly (n : Node) : Prop :=
  ∀ opening ∈ n.child? .openingElement, opening.kind = .jsxOpeningElement

instance : DecidablePred OpensProperly :=
  fun n => inferInstanceAs (Decidable (∀ opening ∈ n.child? .openingElement, _))

-- A change at the spot that shows neither in the node there nor in an opening tag.
structure Discreet (root : Node) (spot : NodePath) (f : Node → Node) : Prop where
  openings : root.Every OpensProperly
  face : ∀ n, (f n).face = n.face
  aside : ∀ n, root.at? spot = some n → n.kind ≠ .jsxOpeningElement
  tag : ∀ n, root.at? spot = some n → n.kind = .jsxElement → (f n).tag? = n.tag?

-- A tag that is not itself the spot reads the same.
theorem Outline.Altered.tagView_eq {f : Node → Node} {spot path : NodePath} {n n' : Node}
    (hf : ∀ n, (f n).face = n.face) (h : Altered f spot path n n') (hne : path ≠ spot) : n'.tagView = n.tagView := by
  have hlook : (n'.children .attributes).map Node.look = (n.children .attributes).map Node.look :=
    (h.parallel hne .attributes).map_children fun hc => by
      have hface := hc.face_eq hf
      simp only [Node.face, Prod.mk.injEq] at hface
      simp [Node.look, hface]
  have hspan : n'.span = n.span := congrArg (·.2.1) (h.face_eq hf)
  have hstop (e : Edge) : (n'.child? e).map (·.span.stop) = (n.child? e).map (·.span.stop) :=
    (h.parallel hne e).map_child? fun hc => congrArg (·.2.1.stop) (hc.face_eq hf)
  simp only [Node.tagView, hlook, hspan, Option.map_or, hstop]

-- Trails to one place, before and after the change.
structure Twin (schema : Schema) (root : Node) (spot : NodePath) (f : Node → Node) (t t' : Trail) : Prop where
  leads : Trail.Leads schema root t
  entries : List.Forall₂ Resembles t.entries t'.entries
  altered : Altered f spot t.path t.node t'.node

namespace Twin

variable {schema : Schema} {spot : NodePath} {root : Node} {f : Node → Node} {t t' : Trail}

theorem start (schema : Schema) (root : Node) (spot : NodePath) {f : Node → Node} (hf : ∀ n, (f n).face = n.face) :
    Twin schema root spot f (.root root) (.root (root.alterAt spot f)) := by
  have altered : Altered f spot [] root (root.alterAt spot f) := .toward spot (by simp)
  refine ⟨.root, .cons ⟨rfl, ?_⟩ .nil, altered⟩
  exact congrArg Prod.fst (altered.face_eq hf)

theorem path_eq (h : Twin schema root spot f t t') : t'.path = t.path :=
  vias_congr h.entries

theorem looksAlike (h : Twin schema root spot f t t') (d : Discreet root spot f) : LooksAlike t.node t'.node where
  face := h.altered.face_eq d.face
  tag := by
    intro hk
    by_cases hne : t.path = spot
    case pos =>
      have ha := h.altered
      rw [hne] at ha
      rw [ha.eq_at_spot]
      exact d.tag t.node (hne ▸ h.leads.at?_path) hk
    case neg =>
      rw [Node.tag?, Node.tag?]
      cases rel_cases (h.altered.parallel hne .openingElement).child?
      case inl hc => rw [hc.left, hc.right]
      case inr hc =>
        obtain ⟨o, o', ho, ho', hr⟩ := hc
        have hat : root.at? (⟨.openingElement, 0⟩ :: t.path) = some o := by
          simp [Node.at?, h.leads.at?_path, Node.follow_of_child? ho]
        have hkind : o.kind = .jsxOpeningElement := d.openings _ _ h.leads.at?_path o ho
        have hspot : (⟨.openingElement, 0⟩ :: t.path : NodePath) ≠ spot :=
          fun he => d.aside o (he ▸ hat) hkind
        rw [ho, ho', Option.map_some, Option.map_some, hr.tagView_eq d.face hspot]

-- Away from the spot the kids are twins.
theorem forall₂_kids (h : Twin schema root spot f t t') (d : Discreet root spot f) (hne : t.path ≠ spot) :
    List.Forall₂ (Twin schema root spot f) (t.kids schema) (t'.kids schema) := by
  refine Trail.forall₂_kids (h.altered.parallel hne) (h.looksAlike d).kind fun s c c' hk hc => ?_
  exact ⟨.child h.leads hk, .cons ⟨rfl, congrArg Prod.fst (hc.face_eq d.face)⟩ h.entries, hc⟩

theorem judgements (policy : Policy) (h : Twin schema root spot f t t') (d : Discreet root spot f) :
    (LacksMarker policy t' ↔ LacksMarker policy t) ∧ (LookedThrough policy t' ↔ LookedThrough policy t) ∧
      (OwnMarked policy t' ↔ OwnMarked policy t) := by
  have ha := h.looksAlike d
  by_cases hn : t.node.kind = .jsxElement → isFragment t.node
  case pos =>
    have hn' : t'.node.kind = .jsxElement → isFragment t'.node := by rwa [ha.kind, ha.isFragment_eq]
    have ⟨hl, he, ho⟩ := not_asked policy hn
    have ⟨hl', he', ho'⟩ := not_asked policy hn'
    exact ⟨iff_of_false hl' hl, iff_of_false he' he, iff_of_false ho' ho⟩
  case neg =>
    obtain ⟨hk, hf⟩ := Classical.not_imp.mp hn
    replace hf : isFragment t.node = false := by simpa using hf
    have hk' : t'.node.kind = .jsxElement := ha.kind.trans hk
    have hf' : isFragment t'.node = false := ha.isFragment_eq.trans hf
    have hown := own_congr h.entries (isFunction_of_isMarkup (isMarkup_of_element hk))
    have hmark := ha.hasAttribute_eq hk policy.marker
    rw [lacksMarker_iff policy hk hf, lacksMarker_iff policy hk' hf', lookedThrough_iff policy hk hf,
      lookedThrough_iff policy hk' hf', ownMarked_iff policy hk, ownMarked_iff policy hk', hmark, ha.name, hown]
    exact ⟨.rfl, .rfl, .rfl⟩

theorem settles_eq (policy : Policy) (h : Twin schema root spot f t t') (d : Discreet root spot f) :
    decide (Settles policy t') = decide (Settles policy t) := by
  have ⟨hl, _, ho⟩ := h.judgements policy d
  rw [decide_eq_decide, Settles, Settles, hl, ho]

end Twin

-- Violations at one position, with the same texts.
structure Violation.Agrees (v w : Violation) : Prop where
  component : w.component = v.component
  path : w.target.path = v.target.path
  span : w.target.node.span = v.target.node.span
  openingSpan : w.openingSpan = v.openingSpan
  insertionPoint : w.insertionPoint = v.insertionPoint
  fixText : w.fixText = v.fixText

inductive Outcome.Agrees : Outcome → Outcome → Prop
  | compliant : Agrees .compliant .compliant
  | excluded : Agrees .excluded .excluded
  | violation {v w} : v.Agrees w → Agrees (.violation v) (.violation w)

section

variable {policy : Policy} {schema : Schema} {component : String} {base spot : NodePath} {root : Node}
  {f : Node → Node} {t t' : Trail} {listed listed' : List Trail}

theorem Twin.agrees (h : Twin schema root spot f t t') (d : Discreet root spot f) (ht : LacksMarker policy t) :
    (Violation.of policy component ⟨t.path ++ base, t.node⟩).Agrees
      (.of policy component ⟨t'.path ++ base, t'.node⟩) := by
  have ha := h.looksAlike d
  have htag := ha.tag ht.element
  refine ⟨rfl, by simp [Violation.of, h.path_eq], ha.span, ?_, ?_, rfl⟩
  · simp [Violation.openingSpan_eq, Violation.of, htag, ha.span]
  · simp [Violation.of, markerOffset_eq, htag, ha.span]

-- Listings that correspond come to the same verdict.
theorem Discreet.verdict_agrees (d : Discreet root spot f)
    (h : List.Forall₂ (Twin schema root spot f) listed listed') :
    (verdict policy component base listed).Agrees (verdict policy component base listed') := by
  unfold verdict
  cases rel_cases (rel_find? h fun _ _ ht => ht.settles_eq policy d)
  case inl hn =>
    have hex := exists_mem_iff h fun _ _ ht => (ht.judgements policy d).right.left
    simp only [hn.left, hn.right, hex]
    split
    case isTrue => exact .excluded
    case isFalse => exact .compliant
  case inr hs =>
    have ⟨t, t', ht, ht', htwin⟩ := hs
    simp only [ht, ht', (htwin.judgements policy d).left]
    split
    case isTrue hl => exact .violation (htwin.agrees d hl)
    case isFalse => exact .compliant

-- For violations it is enough that what is seen of the listings corresponds.
theorem Discreet.violation?_agrees (d : Discreet root spot f)
    (h : List.Forall₂ (Twin schema root spot f) (listed.filter isSeen) (listed'.filter isSeen)) :
    Option.Rel Violation.Agrees (verdict policy component base listed).violation?
      (verdict policy component base listed').violation? := by
  have hseen (l : List Trail) : (l.filter isSeen).find? (Settles policy ·) = l.find? (Settles policy ·) := by
    rw [List.find?_filter]
    congr 1
    funext t
    rw [decide_eq_decide, decide_eq_true_eq, and_iff_right_iff_imp]
    exact fun hs => hs.elim (·.own.isSeen) (·.own.isSeen)
  rw [violation?_verdict, violation?_verdict, ← hseen listed, ← hseen listed']
  refine rel_bind (rel_find? h fun _ _ ht => ht.settles_eq policy d) fun t t' ht => ?_
  simp only [(ht.judgements policy d).left]
  split
  case isTrue hl => exact .some (ht.agrees d hl)
  case isFalse => exact .none

-- What is seen of the listings corresponds if nothing is seen below the spot.
theorem Discreet.forall₂_renderListing {seen : Trail → Bool} (d : Discreet root spot f)
    (hdown : ∀ t, seen t = false → ∀ k ∈ t.kids schema, seen k = false)
    (hsame : ∀ t t', Twin schema root spot f t t' → seen t' = seen t)
    (hspot : ∀ t t', Twin schema root spot f t t' → t.path = spot →
      (t.openKids schema (closes policy)).filter seen = [] ∧ (t'.openKids schema (closes policy)).filter seen = []) :
    List.Forall₂ (Twin schema root spot f) ((renderListing policy schema root).filter seen)
      ((renderListing policy schema (root.alterAt spot f)).filter seen) := by
  have hfilter {l l' : List Trail} (h : List.Forall₂ (Twin schema root spot f) l l') :
      List.Forall₂ (Twin schema root spot f) (l.filter seen) (l'.filter seen) :=
    List.rel_filter (fun t t' ht => by simp [hsame t t' ht]) h
  refine forall₂_levelOrder hdown (fun t t' ht => ?_) (hfilter (.cons (.start schema root spot d.face) .nil))
  by_cases hne : t.path = spot
  case pos =>
    rw [(hspot t t' ht hne).left, (hspot t t' ht hne).right]
    exact .nil
  case neg =>
    rw [Trail.openKids, Trail.openKids, (ht.looksAlike d).closes_eq]
    split
    case isTrue => exact .nil
    case isFalse => exact hfilter (ht.forall₂_kids d hne)

theorem discreet_of_withLinks {function : Node} (hopen : root.Every OpensProperly) (hf : root.at? spot = some function)
    (hk : function.kind.isFunction) (links : List Link) : Discreet root spot (·.withLinks links) where
  openings := hopen
  face _ := rfl
  aside n hn := by
    obtain rfl : function = n := Option.some.inj (hf.symm.trans hn)
    intro ho
    simp [ho, Kind.isFunction] at hk
  tag n hn he := by
    obtain rfl : function = n := Option.some.inj (hf.symm.trans hn)
    simp [he, Kind.isFunction] at hk

theorem discreet_of_withChildren {markup : Node} (hopen : root.Every OpensProperly) (hm : root.at? spot = some markup)
    (hc : closes policy markup) (children : List Node) : Discreet root spot (·.withChildren children) where
  openings := hopen
  face _ := rfl
  aside n hn := by
    obtain rfl : markup = n := Option.some.inj (hm.symm.trans hn)
    intro ho
    simp [closes, isFragment, isMarked, ho] at hc
  tag n _ _ := by
    have hl : (n.withChildren children).link? .openingElement = n.link? .openingElement :=
      Node.link?_withChildren (by decide) children
    simp only [Node.tag?, Node.child?, hl]

-- Nothing is seen below a function that does not stand in braces.
theorem Twin.filter_kids_of_function (h : Twin schema root spot f t t') (hk : t.node.kind.isFunction)
    (hb : root.isBraced t.path = false) :
    (t.openKids schema (closes policy)).filter isSeen = [] ∧
      (t'.openKids schema (closes policy)).filter isSeen = [] := by
  have hstands : standsAsChild t.here t.above.head? = false := by
    rw [Bool.eq_false_iff, ne_eq, standsAsChild_iff]
    intro hi
    simp [isBraced_of_inBraces h.leads hi] at hb
  have hc : behindClosure t.entries := by
    rw [Trail.node] at hk
    simp [Trail.entries, behindClosure, hk, hstands]
  have hc' : behindClosure t'.entries := (behindClosure_congr h.entries).trans hc
  exact ⟨filter_openKids_of_behindClosure hc, filter_openKids_of_behindClosure hc'⟩

theorem Twin.openKids_of_closes (h : Twin schema root spot f t t') (d : Discreet root spot f)
    (hc : closes policy t.node) :
    t.openKids schema (closes policy) = [] ∧ t'.openKids schema (closes policy) = [] := by
  have hc' : closes policy t'.node := (h.looksAlike d).closes_eq.trans hc
  simp [Trail.openKids, hc, hc']

end

section

variable {policy : Policy} {schema : Schema} {candidate : Candidate} {spot : NodePath}

theorem violation?_agrees_of_function {function : Node} (hopen : candidate.render.node.Every OpensProperly)
    (hf : candidate.render.node.at? spot = some function) (hk : function.kind.isFunction)
    (hb : candidate.render.node.isBraced spot = false) (links : List Link) :
    let changed := candidate.rendering (candidate.render.node.alterAt spot (·.withLinks links))
    Option.Rel Violation.Agrees (audit policy schema candidate).violation?
      (audit policy schema changed).violation? := by
  intro changed
  cases hname : candidate.name
  case none =>
    have hname' : changed.name = none := hname
    rw [audit_of_anonymous policy schema hname, audit_of_anonymous policy schema hname']
    exact .none
  case some component =>
    have hname' : changed.name = some component := hname
    have d := discreet_of_withLinks hopen hf hk links
    rw [audit_eq_verdict policy schema hname, audit_eq_verdict policy schema hname']
    refine d.violation?_agrees (d.forall₂_renderListing (fun t hs k hk => not_isSeen_kid hs hk) ?_ ?_)
    · intro t t' ht
      rw [isSeen, isSeen, behindClosure_congr (List.forall₂_cons.mp ht.entries).right]
    · intro t t' ht hspot
      have ht' := ht.leads.at?_path
      rw [hspot, hf, Option.some.injEq] at ht'
      exact ht.filter_kids_of_function (ht' ▸ hk) (hspot ▸ hb)

theorem audit_agrees_of_closes {markup : Node} (hopen : candidate.render.node.Every OpensProperly)
    (hm : candidate.render.node.at? spot = some markup) (hc : closes policy markup) (children : List Node) :
    let changed := candidate.rendering (candidate.render.node.alterAt spot (·.withChildren children))
    (audit policy schema candidate).Agrees (audit policy schema changed) := by
  intro changed
  cases hname : candidate.name
  case none =>
    have hname' : changed.name = none := hname
    rw [audit_of_anonymous policy schema hname, audit_of_anonymous policy schema hname']
    exact .compliant
  case some component =>
    have hname' : changed.name = some component := hname
    have d := discreet_of_withChildren hopen hm hc children
    rw [audit_eq_verdict policy schema hname, audit_eq_verdict policy schema hname']
    -- Below the spot nothing is listed, so all that is listed is seen.
    have hall := @Discreet.forall₂_renderListing policy schema _ _ _ (fun _ => true) d
    simp only [List.filter_true] at hall
    refine d.verdict_agrees (hall (by simp) (by simp) fun t t' ht hspot => ?_)
    have ht' := ht.leads.at?_path
    rw [hspot, hm, Option.some.injEq] at ht'
    exact ht.openKids_of_closes d (ht' ▸ hc)

end

-- What a function holds is of no account for a violation unless the function is in braces as a child of
-- markup, and what a fragment or a marked element holds is of no account at all.
theorem audit_ignores_what_is_closed_off {candidate : Candidate} (policy : Policy) (schema : Schema)
    (hopen : candidate.render.node.Every OpensProperly) :
    (∀ spot function links, candidate.render.node.at? spot = some function → function.kind.isFunction →
      candidate.render.node.isBraced spot = false →
      let changed := candidate.rendering (candidate.render.node.alterAt spot (·.withLinks links))
      Option.Rel Violation.Agrees (audit policy schema candidate).violation?
        (audit policy schema changed).violation?) ∧
    (∀ spot markup children, candidate.render.node.at? spot = some markup →
      isFragment markup ∨ isMarked policy markup →
      let changed := candidate.rendering (candidate.render.node.alterAt spot (·.withChildren children))
      (audit policy schema candidate).Agrees (audit policy schema changed)) := by
  constructor
  case left =>
    intro spot function links hf hk hb
    exact violation?_agrees_of_function hopen hf hk hb links
  case right =>
    intro spot markup children hm hc
    exact audit_agrees_of_closes hopen hm (by simpa [closes] using hc) children

namespace Sample

-- `() => <Item />`
def callback : Node :=
  .branch .arrowFunctionExpression {} [.one .body (element "Item" [] [])]

-- `<Fragment><Icon /></Fragment>`
def group : Node :=
  element "Fragment" [] [element "Icon" [] []]

-- A function in a call, a fragment and an element, side by side in a provider.
def menu : Node :=
  element "Provider" []
    [.branch .jsxExpressionContainer {} [.one .expression (.branch .callExpression {} [.many .arguments [callback]])],
      group, element "Label" [] []]

end Sample

-- Whatever the function returns and the fragment holds, it is the last element that lacks the marker.
theorem audit_ignores_what_is_closed_off_menu :
    let candidate : Candidate := { Sample.candidate with render := .root Sample.menu }
    let marked := Sample.element "Item" [.named .jsxAttribute {} "data-component"] []
    let returning := Sample.menu.alterAt [⟨.arguments, 0⟩, ⟨.expression, 0⟩, ⟨.children, 0⟩]
      (·.withLinks [.one .body marked])
    let holding := Sample.menu.alterAt [⟨.children, 1⟩] (·.withChildren [marked, Sample.menu])
    (audit Sample.policy default candidate).violation?.map (·.target.path) = some [⟨.children, 2⟩] ∧
      Option.Rel Violation.Agrees (audit Sample.policy default candidate).violation?
        (audit Sample.policy default (candidate.rendering returning)).violation? ∧
      (audit Sample.policy default candidate).Agrees (audit Sample.policy default (candidate.rendering holding)) := by
  intro candidate marked returning holding
  have hopen : candidate.render.node.Every OpensProperly := by decide +kernel
  have ⟨hfunction, hclosed⟩ := audit_ignores_what_is_closed_off Sample.policy default hopen
  refine ⟨by decide +kernel, ?_, ?_⟩
  · exact hfunction _ Sample.callback _ rfl rfl (by decide +kernel)
  · exact hclosed _ Sample.group _ rfl (.inl (by decide +kernel))

end MarkerLint
