import MarkerLint.Proofs.Component.Correspondence
import MarkerLint.Proofs.Component.Rendering

namespace MarkerLint

open Outline

namespace Outline.Place

-- The same place in a tree that stands at a path.
def under (p : Place) (base : NodePath) : Place :=
  ⟨p.path ++ base, p.node⟩

theorem child?_under (p : Place) (base : NodePath) (e : Edge) :
    (p.under base).child? e = (p.child? e).map (·.under base) := by
  simp [child?, under, Function.comp_def]

theorem children_under (p : Place) (base : NodePath) (e : Edge) :
    (p.under base).children e = (p.children e).map (·.under base) := by
  apply List.ext_getElem <;> simp [children, under]

end Outline.Place

-- A place cannot be told from the same place in a tree that stands elsewhere.
theorem correspondence_under (base : NodePath) : Correspondence fun q q' => q' = q.under base where
  kind_eq h := h ▸ rfl
  name_eq h := h ▸ rfl
  child? {q q' e} h _ := by
    rw [h, q.child?_under]
    cases q.child? e
    case none => exact .none
    case some => exact .some rfl
  children {q q' e} h _ := by
    rw [h, q.children_under, List.forall₂_map_right_iff]
    exact List.forall₂_same.mpr fun _ _ => rfl

-- The same value in a tree that stands at a path.
def RenderingValue.under (r : RenderingValue) (base : NodePath) : RenderingValue :=
  { r with render := r.render.under base }

theorem renderingValue?_under (policy : Policy) (p : Place) (base : NodePath) :
    renderingValue? policy (p.under base) = (renderingValue? policy p).map (·.under base) := by
  have hrel := (correspondence_under base).renderingValue? policy (q := p) rfl
  obtain ⟨hr, hr'⟩ | ⟨r, r', hr, hr', h⟩ := rel_cases hrel
  · simp [hr, hr']
  · obtain ⟨form, render, innerName⟩ := r'
    obtain ⟨rfl, rfl, rfl⟩ := h
    simpa [hr, RenderingValue.under] using hr'

-- The name that a value bears itself: that of the function or class, or of the function in a call.
def ownName? (value : Node) : Option String :=
  match value.kind with
  | .callExpression =>
    match value.children .arguments with
    | [function] => function.identifier? .id
    | _ => none
  | _ => value.identifier? .id

theorem arguments_of_wrappedFunction? {policy : Policy} {p wrapped : Place}
    (h : policy.wrappedFunction? p = some wrapped) : p.node.children .arguments = [wrapped.node] := by
  rw [← p.map_node_children]
  unfold Policy.wrappedFunction? at h
  split at h
  case isFalse => contradiction
  case isTrue =>
    split at h
    case h_2 => contradiction
    case h_1 argument ha =>
      split at h
      case h_3 => contradiction
      all_goals
        obtain rfl := Option.some.inj h
        simp [ha]

theorem innerName_eq_ownName? {policy : Policy} {p : Place} {r : RenderingValue}
    (h : renderingValue? policy p = some r) : r.innerName = ownName? p.node := by
  unfold renderingValue? at h
  unfold ownName?
  split at h
  case h_1 hk | h_2 hk | h_3 hk =>
    obtain ⟨_, _, hr⟩ := Option.bind_eq_some_iff.mp h
    obtain rfl := Option.some.inj hr
    simp [hk]
  case h_4 hk =>
    obtain ⟨wrapped, hw, h⟩ := Option.bind_eq_some_iff.mp h
    obtain ⟨_, _, hr⟩ := Option.bind_eq_some_iff.mp h
    obtain rfl := Option.some.inj hr
    have ha := arguments_of_wrappedFunction? hw
    simp [hk, ha]
  case h_5 => contradiction

-- How a value is declared.
inductive Context where
  -- `const N = e`
  | binding
  -- `export const N = e`
  | exportedBinding
  -- `N = e`
  | assignment
  -- `export default e`
  | defaultExport
  -- `export default N = e`
  | defaultAssignment
  deriving DecidableEq

-- A declaration of one variable that holds the value.
def Binds (name : String) (value declaration : Node) : Prop :=
  declaration.kind = .variableDeclaration ∧ ∃ declarator, declaration.children .declarations = [declarator] ∧
    declarator.identifier? .id = some name ∧ declarator.child? .init = some value

-- An assignment of the value to the name.
def Assigns (name : String) (value expression : Node) : Prop :=
  expression.kind = .assignmentExpression ∧ expression.identifier? .left = some name ∧
    expression.child? .right = some value

namespace Context

-- The statement declares the value in this way.
def Declares (name : String) (value statement : Node) : Context → Prop
  | binding => Binds name value statement
  | exportedBinding =>
    statement.kind = .exportNamedDeclaration ∧ ∃ d, statement.child? .declaration = some d ∧ Binds name value d
  | assignment =>
    statement.kind = .expressionStatement ∧ ∃ e, statement.child? .expression = some e ∧ Assigns name value e
  | defaultExport => statement.kind = .exportDefaultDeclaration ∧ statement.child? .declaration = some value
  | defaultAssignment =>
    statement.kind = .exportDefaultDeclaration ∧ ∃ e, statement.child? .declaration = some e ∧ Assigns name value e

-- The way from the statement to the value.
def way : Context → NodePath
  | binding => [⟨.init, 0⟩, ⟨.declarations, 0⟩]
  | exportedBinding => [⟨.init, 0⟩, ⟨.declarations, 0⟩, ⟨.declaration, 0⟩]
  | assignment => [⟨.right, 0⟩, ⟨.expression, 0⟩]
  | defaultExport => [⟨.declaration, 0⟩]
  | defaultAssignment => [⟨.right, 0⟩, ⟨.declaration, 0⟩]

def isExport : Context → Bool
  | binding | assignment => false
  | exportedBinding | defaultExport | defaultAssignment => true

-- A default export of the value itself has no other name than the value has.
def nameOf (name : String) (value : Node) : Context → Option String
  | defaultExport => ownName? value
  | _ => some name

def formOf (form : Form) : Context → Form
  | assignment | defaultAssignment => .assignment
  | _ => form

end Context

variable {policy : Policy} {name : String} {value : Node} {p : Place}

theorem declarationCandidates_of_binds (policy : Policy) (exported : Bool) (h : Binds name value p.node) :
    ∃ declaration, declarationCandidates policy exported p =
      ((renderingValue? policy ⟨⟨.init, 0⟩ :: ⟨.declarations, 0⟩ :: p.path, value⟩).map fun r =>
        ⟨name, r.form, declaration, exported, r.render⟩).toList := by
  obtain ⟨hk, declarator, hd, hid, hinit⟩ := h
  let place : Place := ⟨⟨.declarations, 0⟩ :: p.path, declarator⟩
  have hc : p.children .declarations = [place] := by simp [Place.children, hd, place]
  have hi : place.child? .init = some _ := Place.child?_of_node hinit
  have hid : place.node.identifier? .id = some name := hid
  refine ⟨place, ?_⟩
  simp only [declarationCandidates, hk, hc, List.filterMap_cons, List.filterMap_nil, declaratorCandidate?, hid, hi,
    Option.bind_eq_bind, Option.bind_some]
  cases renderingValue? policy ⟨_, value⟩ <;> rfl

theorem expressionCandidate?_of_assigns (policy : Policy) (exported : Bool) (h : Assigns name value p.node) :
    expressionCandidate? policy exported p =
      (renderingValue? policy ⟨⟨.right, 0⟩ :: p.path, value⟩).map fun r =>
        ⟨name, .assignment, p, exported, r.render⟩ := by
  obtain ⟨hk, hleft, hright⟩ := h
  have hr := Place.child?_of_node hright
  simp only [expressionCandidate?, hk, hleft, hr, Option.bind_eq_bind, Option.bind_some]
  cases renderingValue? policy ⟨_, value⟩ <;> rfl

-- An exported call passes the test for functions without name.
theorem expressionCandidate?_of_call (h : p.node.kind = .callExpression) :
    expressionCandidate? policy true p =
      (renderingValue? policy p).map fun r => ⟨r.innerName, r.form, p, true, r.render⟩ := by
  simp only [expressionCandidate?, renderingValue?, h, Option.bind_eq_bind]
  cases policy.wrappedFunction? p
  case none => rfl
  case some wrapped =>
    simp only [Option.bind_some, Bool.not_true, Bool.and_false, Bool.false_eq_true, ↓reduceIte]
    cases functionRender? wrapped <;> rfl

theorem defaultCandidates_of_value
    (h : p.node.kind ∉ [.functionDeclaration, .classDeclaration, .assignmentExpression]) :
    defaultCandidates policy p =
      ((renderingValue? policy p).map fun r => ⟨r.innerName, r.form, p, true, r.render⟩).toList := by
  unfold defaultCandidates
  split
  case h_1 hk | h_2 hk | h_3 hk => simp [hk] at h
  case h_4 hk => rw [expressionCandidate?_of_call hk]
  case h_5 => rfl

-- In every context, what there is to find depends on the value alone.
theorem Context.candidates_of_declares (policy : Policy) {context : Context}
    (hvalue : value.kind ∉ [.functionDeclaration, .classDeclaration, .assignmentExpression])
    (h : context.Declares name value p.node) :
    ∃ declaration, (TopLevel.ofStatement policy p).candidates =
      ((renderingValue? policy ((Place.root value).under (context.way ++ p.path))).map fun r =>
        { name := context.nameOf name value, form := context.formOf r.form, declaration,
          exported := context.isExport, render := r.render }).toList := by
  cases context
  case binding =>
    obtain ⟨declaration, hc⟩ := declarationCandidates_of_binds policy false h
    have hs : (TopLevel.ofStatement policy p).candidates = declarationCandidates policy false p := by
      simp [TopLevel.ofStatement, h.left]
    exact ⟨declaration, hs.trans hc⟩
  case exportedBinding =>
    obtain ⟨hk, d, hd, hb⟩ := h
    let place : Place := ⟨⟨.declaration, 0⟩ :: p.path, d⟩
    obtain ⟨declaration, hc⟩ := declarationCandidates_of_binds policy true (p := place) hb
    have hs : (TopLevel.ofStatement policy p).candidates = declarationCandidates policy true place := by
      simp [TopLevel.ofStatement, hk, Place.child?_of_node hd, place]
    exact ⟨declaration, hs.trans hc⟩
  case assignment =>
    obtain ⟨hk, e, he, ha⟩ := h
    let place : Place := ⟨⟨.expression, 0⟩ :: p.path, e⟩
    have hc := expressionCandidate?_of_assigns policy false (p := place) ha
    have hs : (TopLevel.ofStatement policy p).candidates = (expressionCandidate? policy false place).toList := by
      simp [TopLevel.ofStatement, declarationCandidates, hk, Place.child?_of_node he, place]
    exact ⟨place, hs.trans (congrArg Option.toList hc)⟩
  case defaultExport =>
    obtain ⟨hk, hd⟩ := h
    let place : Place := ⟨⟨.declaration, 0⟩ :: p.path, value⟩
    have hs : (TopLevel.ofStatement policy p).candidates = defaultCandidates policy place := by
      by_cases hi : value.kind = .identifier
      case pos =>
        simp [TopLevel.ofStatement, hk, Place.child?_of_node hd, hi, place, TopLevel.candidates, defaultCandidates,
          renderingValue?]
      case neg => simp [TopLevel.ofStatement, hk, Place.child?_of_node hd, hi, place]
    refine ⟨place, (hs.trans (defaultCandidates_of_value hvalue)).trans ?_⟩
    change _ = ((renderingValue? policy place).map _).toList
    cases hr : renderingValue? policy place
    case none => rfl
    case some r => simp [innerName_eq_ownName? hr, nameOf, formOf, isExport, place]
  case defaultAssignment =>
    obtain ⟨hk, e, he, ha⟩ := h
    let place : Place := ⟨⟨.declaration, 0⟩ :: p.path, e⟩
    have hc := expressionCandidate?_of_assigns policy true (p := place) ha
    have hs : (TopLevel.ofStatement policy p).candidates = (expressionCandidate? policy true place).toList := by
      simp [TopLevel.ofStatement, defaultCandidates, hk, Place.child?_of_node he, ha.left, place]
    exact ⟨place, hs.trans (congrArg Option.toList hc)⟩

theorem TopLevel.eq_components {t : TopLevel} {c : Candidate} (h : t.candidates = [c]) : t = .components [c] := by
  cases t
  case components => exact congrArg _ h
  case exports | other => contradiction

-- A value that is no declaration or assignment itself is classified alike in all contexts. It is a component
-- in none of them, or it is one in each: with the same markup, exported where the context is an export,
-- under the name that is declared or else its own, and in the form of the value unless it is assigned.
theorem contexts_classify_alike (policy : Policy) {name : String} {value : Node} (statement : Context → Place)
    (hvalue : value.kind ∉ [.functionDeclaration, .classDeclaration, .assignmentExpression])
    (hdeclares : ∀ context : Context, context.Declares name value (statement context).node) :
    renderingValue? policy (.root value) = none ∧
        (∀ context, (TopLevel.ofStatement policy (statement context)).candidates = []) ∨
      ∃ r, renderingValue? policy (.root value) = some r ∧ r.render.In value ∧
        ∀ context : Context, ∃ declaration, TopLevel.ofStatement policy (statement context) = .components [
          { name := context.nameOf name value, form := context.formOf r.form, declaration,
            exported := context.isExport,
            render := r.render.under (context.way ++ (statement context).path) }] := by
  have hcandidates := fun context => Context.candidates_of_declares policy hvalue (hdeclares context)
  simp only [renderingValue?_under, Option.map_map] at hcandidates
  cases hr : renderingValue? policy (.root value)
  case none =>
    refine .inl ⟨rfl, fun context => ?_⟩
    obtain ⟨_, hc⟩ := hcandidates context
    simpa [hr] using hc
  case some r =>
    have hin : r.render.In value := Place.within_root.mp (renderingValue?_renders hr).within
    refine .inr ⟨r, rfl, hin, fun context => ?_⟩
    obtain ⟨declaration, hc⟩ := hcandidates context
    rw [hr] at hc
    exact ⟨declaration, TopLevel.eq_components hc⟩

namespace Sample

def wrapping : Policy where
  isExcluded _ := false
  marker := "data-component"
  wrappers := ["forwardRef"]

-- `forwardRef(function Inner() { … })` around one element
def forwarded : Node :=
  .branch .callExpression {} [.one .callee (.named .identifier {} "forwardRef"), .many .arguments [
    .branch .functionExpression {} [.one .id (.named .identifier {} "Inner"), .one .body (.leaf .jsxElement {})]]]

-- The call, declared under the name `Tile`.
def declaring : Context → Node :=
  let name := Node.named .identifier {} "Tile"
  let binding := Node.branch .variableDeclaration {} [.many .declarations [
    .branch .variableDeclarator {} [.one .id name, .one .init forwarded]]]
  let assignment := Node.branch .assignmentExpression {} [.one .left name, .one .right forwarded]
  fun
    | .binding => binding
    | .exportedBinding => .branch .exportNamedDeclaration {} [.one .declaration binding]
    | .assignment => .branch .expressionStatement {} [.one .expression assignment]
    | .defaultExport => .branch .exportDefaultDeclaration {} [.one .declaration forwarded]
    | .defaultAssignment => .branch .exportDefaultDeclaration {} [.one .declaration assignment]

end Sample

theorem contexts_classify_alike_forwarded :
    (∀ context : Context, context.Declares "Tile" Sample.forwarded (Sample.declaring context)) ∧
      ∀ context : Context, ∃ declaration,
        TopLevel.ofStatement Sample.wrapping (.root (Sample.declaring context)) = .components [
          { name := if context = .defaultExport then some "Inner" else some "Tile",
            form := context.formOf .refForwarding, declaration, exported := context.isExport,
            render := ⟨[⟨.body, 0⟩, ⟨.arguments, 0⟩] ++ context.way, .leaf .jsxElement {}⟩ }] := by
  have hdeclares : ∀ context : Context, context.Declares "Tile" Sample.forwarded (Sample.declaring context) := by
    intro context
    cases context
    case binding => exact ⟨rfl, _, rfl, rfl, rfl⟩
    case exportedBinding => exact ⟨rfl, _, rfl, rfl, _, rfl, rfl, rfl⟩
    case assignment | defaultAssignment => exact ⟨rfl, _, rfl, rfl, rfl, rfl⟩
    case defaultExport => exact ⟨rfl, rfl⟩
  have hvalue : renderingValue? Sample.wrapping (.root Sample.forwarded) =
      some ⟨.refForwarding, ⟨[⟨.body, 0⟩, ⟨.arguments, 0⟩], .leaf .jsxElement {}⟩, some "Inner"⟩ := by
    rfl
  refine ⟨hdeclares, ?_⟩
  obtain ⟨hnone, _⟩ | ⟨r, hr, _, hcontexts⟩ := contexts_classify_alike Sample.wrapping
    (fun context => .root (Sample.declaring context)) (by decide) hdeclares
  · simp [hvalue] at hnone
  · obtain rfl := Option.some.inj (hvalue.symm.trans hr)
    intro context
    obtain ⟨declaration, hc⟩ := hcontexts context
    exact ⟨declaration, by cases context <;> exact hc⟩

end MarkerLint
