import MarkerLint.Files.Tree
import MarkerLint.Pattern.Expr
import MarkerLint.Text.Scan

-- Ignore files: which of them count for a directory, the rules they hold, and what the rules say about a path. The
-- last rule that fits decides; a rule with an exclamation mark keeps what others leave out.

namespace MarkerLint.Files

open Pattern

inductive IgnoreSign where
  | expr (e : Expr)
  | anyFront
  | anyBelow
  | anyBetween
  deriving Inhabited

namespace IgnoreSign

def slash : Expr :=
  .literal '/'

def anyText : Expr :=
  .star (.chars (.compl .empty))

def nameChar : Expr :=
  .chars (.compl (.single '/'.toNat))

def toExpr : IgnoreSign → Expr
  | expr e => e
  | anyFront => .alt (.alt .empty slash) (.seq anyText slash)
  | anyBelow => .seq slash anyText
  | anyBetween => .alt slash (.sequence [slash, anyText, slash])

end IgnoreSign

-- What was read of a rule: the open alternatives, innermost first, each with its last sign first.
structure RuleReading where
  signs : List IgnoreSign := []
  -- Alternatives that were read already, for every open brace, with the signs before the brace.
  braces : List (List Expr × List IgnoreSign) := []
  previous : Option Char := none

namespace RuleReading

def push (r : RuleReading) (s : IgnoreSign) (last : Char) : RuleReading :=
  { r with signs := s :: r.signs, previous := some last }

def joined (signs : List IgnoreSign) : Expr :=
  .sequence (signs.reverse.map IgnoreSign.toExpr)

-- The expression of a whole rule. Two stars alone fit everything.
def whole (r : RuleReading) : Expr :=
  match r.signs with
  | [.anyFront] => IgnoreSign.anyText
  | signs => joined signs

def comma (r : RuleReading) : RuleReading :=
  match r.braces with
  | (read, outer) :: braces => ⟨[], (joined r.signs :: read, outer) :: braces, some ','⟩
  | [] => r.push (.expr (.literal ',')) ','

def openBrace (r : RuleReading) : RuleReading :=
  ⟨[], ([], r.signs) :: r.braces, some '\x7b'⟩

def closeBrace? (r : RuleReading) : Option RuleReading :=
  match r.braces with
  | (read, outer) :: braces =>
    let alternatives := (joined r.signs :: read).foldr (fun e rest => match rest with
      | some rest => some (.alt e rest)
      | none => some e) none
    some ⟨.expr (alternatives.getD .empty) :: outer, braces, some '\x7d'⟩
  | [] => none

def star (r : RuleReading) (count : Nat) : RuleReading :=
  let one := IgnoreSign.expr (.star IgnoreSign.nameChar)
  { r with signs := List.replicate count one ++ r.signs, previous := some '*' }

def replaceSlash (r : RuleReading) (s : IgnoreSign) (last : Char) : RuleReading :=
  match r.signs with
  | .anyFront :: signs => { r with signs := .anyFront :: signs, previous := some last }
  | .anyBelow :: signs => { r with signs := .anyBelow :: signs, previous := some last }
  | _ :: signs => { r with signs := s :: signs, previous := some last }
  | [] => { r with signs := [s], previous := some last }

-- Two stars. They are special only if they make up a whole part of the path.
def doubleStar (r : RuleReading) (cs : List Char) : RuleReading × List Char :=
  let inBraces := !r.braces.isEmpty
  let atStart := r.previous = some '/' || (inBraces && (r.previous = some ',' || r.previous = some '\x7b'))
  if r.signs.isEmpty then
    match cs with
    | [] => ({ r with signs := [.anyFront], previous := some '*' }, [])
    | '/' :: cs => ({ r with signs := [.anyFront], previous := some '/' }, cs)
    | cs => (r.star 2, cs)
  else if !atStart then
    (r.star 2, cs)
  else
    match cs with
    | [] => (r.replaceSlash .anyBelow '*', [])
    | '/' :: cs => (r.replaceSlash .anyBetween '/', cs)
    | c :: cs =>
      if inBraces && (c = ',' || c = '\x7d') then (r.replaceSlash .anyBelow '*', c :: cs) else (r.star 2, c :: cs)

end RuleReading

structure SetReading where
  ranges : List (Char × Char) := []
  inRange : Bool := false
  first : Bool := true

def readIgnoreSet? (r : SetReading) : List Char → Option (List (Char × Char) × List Char)
  | [] => none
  | c :: cs =>
    if c = ']' && !r.first then
      some (if r.inRange then ('-', '-') :: r.ranges else r.ranges, cs)
    else if c = '-' && !r.first && !r.inRange then
      readIgnoreSet? { r with inRange := true, first := false } cs
    else if r.inRange then
      match r.ranges with
      | (low, _) :: ranges => if c < low then none else readIgnoreSet? ⟨(low, c) :: ranges, false, false⟩ cs
      | [] => none
    else
      readIgnoreSet? ⟨(c, c) :: r.ranges, false, false⟩ cs

def readIgnoreClass? (cs : List Char) : Option (Expr × List Char) :=
  let ofRanges := fun (ranges : List (Char × Char)) =>
    CharSet.ofRanges (ranges.map fun (a, b) => (a.toNat, b.toNat))
  match cs with
  | '!' :: cs | '^' :: cs => (readIgnoreSet? {} cs).map fun (ranges, rest) => (.chars (.compl (ofRanges ranges)), rest)
  | cs => (readIgnoreSet? {} cs).map fun (ranges, rest) => (.chars (ofRanges ranges), rest)

def ruleStep (r : RuleReading) : List Char → Except Unit (Text.ScanStep RuleReading Expr)
  | [] => if r.braces.isEmpty then .ok (.done r.whole []) else .error ()
  | '?' :: cs => .ok (.more (r.push (.expr IgnoreSign.nameChar) '?') cs)
  | '*' :: '*' :: cs =>
    let (r, rest) := r.doubleStar cs
    .ok (.more r rest)
  | '*' :: cs => .ok (.more (r.star 1) cs)
  | '[' :: cs =>
    match readIgnoreClass? cs with
    | some (e, rest) => .ok (.more (r.push (.expr e) ']') rest)
    | none => .error ()
  | '\\' :: c :: cs => .ok (.more (r.push (.expr (.literal c)) c) cs)
  | ['\\'] => .error ()
  | c :: cs =>
    if c = ',' then .ok (.more r.comma cs)
    else if c = '\x7b' then .ok (.more r.openBrace cs)
    else if c = '\x7d' then
      match r.closeBrace? with
      | some r => .ok (.more r cs)
      | none => .error ()
    else .ok (.more (r.push (.expr (.literal c)) c) cs)

structure IgnoreRule where
  expr : Expr
  keeps : Bool
  directoriesOnly : Bool

namespace IgnoreRule

-- Blanks at the end do not count, unless a backslash stands before the last one.
def trimEnd (line : List Char) : List Char :=
  match line.reverse with
  | ' ' :: '\\' :: _ => line
  | back => (back.dropWhile Text.isBlank).reverse

-- A rule without a slash fits at any depth, one that ends in two stars only what is inside.
def widen (anchored : Bool) (line : List Char) : List Char :=
  let hasFront := line = ['*', '*'] || ['*', '*', '/'].isPrefixOf line
  let line := if anchored || line.contains '/' || hasFront then line else '*' :: '*' :: '/' :: line
  if ['/', '*', '*'].isSuffixOf line then line ++ ['/', '*'] else line

def dropSlash (line : List Char) : List Char × Bool :=
  match line.reverse with
  | '/' :: '\\' :: back => (back.reverse, true)
  | '/' :: back => (back.reverse, true)
  | _ => (line, false)

def ofLine? (line : List Char) : Option IgnoreRule :=
  if line.head? = some '#' then none
  else
    let line := trimEnd line
    if line.isEmpty then none
    else
      let (keeps, anchored, line) := match line with
        | '\\' :: '!' :: cs => (false, false, '!' :: cs)
        | '\\' :: '#' :: cs => (false, false, '#' :: cs)
        | '!' :: '/' :: cs => (true, true, cs)
        | '!' :: cs => (true, false, cs)
        | '/' :: cs => (false, true, cs)
        | cs => (false, false, cs)
      let (line, directoriesOnly) := dropSlash line
      match Text.scan () ruleStep {} (widen anchored line) with
      | .ok (expr, _) => some ⟨expr, keeps, directoriesOnly⟩
      | .error _ => none

end IgnoreRule

def linesOfText : List Char → List (List Char)
  | [] => [[]]
  | '\r' :: '\n' :: cs => [] :: linesOfText cs
  | '\n' :: cs => [] :: linesOfText cs
  | c :: cs =>
    match linesOfText cs with
    | [] => [[c]]
    | l :: ls => (c :: l) :: ls

def ignoreRules (text : List Char) : List IgnoreRule :=
  let text := match text with
    | '\ufeff' :: cs => cs
    | cs => cs
  (linesOfText text).filterMap IgnoreRule.ofLine?

inductive Verdict where
  | ignored
  | kept
  deriving DecidableEq, Inhabited, Repr

def verdict? (rules : List IgnoreRule) (path : List Char) (isDirectory : Bool) : Option Verdict :=
  (rules.reverse.find? fun r => (!r.directoriesOnly || isDirectory) && r.expr.isFullMatch path).map fun r =>
    if r.keeps then .kept else .ignored

structure IgnoreLevel where
  depth : Nat
  ownRules : List IgnoreRule
  sharedRules : List IgnoreRule
  privateRules : List IgnoreRule
  isRepository : Bool

namespace IgnoreLevel

def rulesAt (directory : FileTree) (l : Location) : List IgnoreRule :=
  match directory.read? l with
  | some text => ignoreRules text
  | none => []

def ofDirectory (depth : Nat) (directory : FileTree) : IgnoreLevel where
  depth := depth
  ownRules := rulesAt directory [".ignore"]
  sharedRules := rulesAt directory [".gitignore"]
  privateRules := rulesAt directory [".git", "info", "exclude"]
  isRepository := (directory.entry? ".git").isSome

def relative (level : IgnoreLevel) (l : Location) : List Char :=
  ("/".intercalate (l.drop level.depth)).toList

def firstVerdict? (rules : IgnoreLevel → List IgnoreRule) (levels : List IgnoreLevel) (l : Location)
    (isDirectory : Bool) : Option Verdict :=
  levels.findSome? fun level => verdict? (rules level) (level.relative l) isDirectory

-- The levels up to the root of the innermost repository; none if there is no repository.
def inRepository (levels : List IgnoreLevel) : List IgnoreLevel :=
  if levels.any isRepository then
    levels.takeWhile (!·.isRepository) ++ (levels.find? isRepository).toList
  else
    []

-- What all levels say, the innermost of which comes first. Rules for all tools go before those of version control.
def decide? (levels : List IgnoreLevel) (l : Location) (isDirectory : Bool) : Option Verdict :=
  let repository := inRepository levels
  (firstVerdict? ownRules levels l isDirectory).or
    ((firstVerdict? sharedRules repository l isDirectory).or (firstVerdict? privateRules repository l isDirectory))

end IgnoreLevel
end MarkerLint.Files
