import MarkerLint.Files.Tree
import MarkerLint.Pattern.Expr
import MarkerLint.Text.Scan

namespace MarkerLint.Files

open Pattern

inductive GlobSign where
  | char (c : Char)
  | anyChar
  | anyText
  | anyDepth
  | set (s : CharSet)
  deriving Inhabited

namespace GlobSign

def isChar : GlobSign → Bool
  | char _ => true
  | _ => false

def expr : GlobSign → Expr
  | char c => .literal c
  | anyChar => .chars (.compl .empty)
  | anyText | anyDepth => .star (.chars (.compl .empty))
  | set s => .chars s

end GlobSign

def readSetItems : List Char → CharSet
  | a :: '-' :: b :: cs => .union (.range a.toNat b.toNat) (readSetItems cs)
  | c :: cs => .union (.single c.toNat) (readSetItems cs)
  | [] => .empty

-- A set behind its opening bracket. The first character of a set is one of its own, even a bracket.
def readSet? (cs : List Char) : Option (CharSet × List Char) :=
  let closed := fun (first : Char) (cs : List Char) =>
    let (inside, rest) := cs.span (· != ']')
    match rest with
    | _ :: rest => some (readSetItems (first :: inside), rest)
    | [] => none
  match cs with
  | '!' :: c :: cs => (closed c cs).map fun (s, rest) => (.compl s, rest)
  | ['!'] => none
  | c :: cs => closed c cs
  | [] => none

structure GlobReading where
  signs : List GlobSign := []
  atStart : Bool := true

def GlobReading.push (r : GlobReading) (s : GlobSign) (atStart : Bool) : GlobReading :=
  ⟨s :: r.signs, atStart⟩

-- One sign of a glob. Two stars must make up a whole part, and more are not allowed.
def globStep (r : GlobReading) : List Char → Except Unit (Text.ScanStep GlobReading (List GlobSign))
  | [] => .ok (.done r.signs.reverse [])
  | '?' :: cs => .ok (.more (r.push .anyChar false) cs)
  | '*' :: '*' :: cs =>
    match r.atStart, cs with
    | true, [] => .ok (.more (r.push .anyDepth true) [])
    | true, '/' :: cs => .ok (.more (r.push .anyDepth true) cs)
    | _, _ => .error ()
  | '*' :: cs => .ok (.more (r.push .anyText false) cs)
  | '[' :: cs =>
    match readSet? cs with
    | some (s, rest) => .ok (.more (r.push (.set s) false) rest)
    | none => .error ()
  | c :: cs => .ok (.more (r.push (.char c) (c = '/')) cs)

def readGlob? (text : List Char) : Option (List GlobSign) :=
  match Text.scan () globStep {} text with
  | .ok (signs, _) => some signs
  | .error _ => none

inductive GlobPart where
  | literal (name : String)
  | pattern (e : Expr) (leadingPoint : Bool)
  | anyDepth

namespace GlobPart

def ofSigns : List GlobSign → GlobPart
  | [.anyDepth] => .anyDepth
  | signs =>
    if signs.all GlobSign.isChar then
      .literal (String.ofList (signs.filterMap fun s => match s with
        | .char c => some c
        | _ => none))
    else
      .pattern (.sequence (signs.map GlobSign.expr)) (match signs with
        | .char '.' :: _ => true
        | _ => false)

def accepts (p : GlobPart) (name : String) : Bool :=
  match p with
  | literal n => n = name
  | pattern e _ => e.isFullMatch name.toList
  | anyDepth => true

end GlobPart

structure Glob where
  isAbsolute : Bool
  parts : List GlobPart
  directoriesOnly : Bool

namespace Glob

def isGlob (text : String) : Bool :=
  text.any fun c => c = '*' || c = '?' || c = '['

def literalBase (text : List Char) : FilePath :=
  let plain := (segments text).takeWhile fun s => !isGlob (String.ofList s)
  let base := "/".intercalate (plain.map String.ofList)
  if base.isEmpty then ⟨if text.head? = some '/' then "/" else "."⟩ else ⟨base⟩

def ofText? (text : List Char) : Option Glob := do
  let _ ← readGlob? text
  let relative := text.dropWhile (· = '/')
  let segments := segments relative
  let segments := if segments.getLast? = some [] then segments.dropLast else segments
  let parts ← segments.mapM fun s => (readGlob? s).map GlobPart.ofSigns
  some ⟨text.head? = some '/', parts, text.getLast? = some '/'⟩

structure Reached where
  path : FilePath
  location : Location

-- The path of an entry; the working directory itself is not spelled.
def entryPath (p : FilePath) (name : String) : FilePath :=
  if p.parts = [.current] then ⟨name⟩ else p.join name

def enter (r : Reached) (l : Location) : Reached :=
  ⟨l.foldl entryPath r.path, r.location ++ l⟩

def special? (disk : Disk) (path : FilePath) : Option Reached :=
  (disk.locate? path).map fun l => ⟨path, l⟩

-- The places that a part stands for, from a place on; `**` is looked through by `expandFrom`.
def partPlaces (disk : Disk) (r : Reached) : GlobPart → List Reached
  | .literal name => (special? disk (entryPath r.path name)).toList
  | .pattern e leadingPoint =>
    match disk.tree.at? r.location with
    | some (.directory es) =>
      let named := (es.filter fun x => e.isFullMatch x.name.toList).map fun x => enter r [x.name]
      let dotted := if leadingPoint then [".", ".."].filter fun s => e.isFullMatch s.toList else []
      named ++ dotted.filterMap fun s => special? disk (r.path.join s)
    | _ => []
  | .anyDepth => []

def below (disk : Disk) (r : Reached) : List (Reached × FileTree) :=
  match disk.tree.at? r.location with
  | some t => t.descendants.map fun (l, d) => (enter r l, d)
  | none => []

-- The places that the parts of a glob lead to. Behind `**` a part is only a name.
def expandFrom (disk : Disk) : List GlobPart → Reached → List Reached
  | [], r => [r]
  | .anyDepth :: parts, r => expandBelow disk parts r
  | part :: parts, r => (partPlaces disk r part).flatMap (expandFrom disk parts)
where
  -- The same for the parts behind `**`. With none left, it stands for directories.
  expandBelow (disk : Disk) : List GlobPart → Reached → List Reached
    | [], r => (below disk r).filterMap fun (d, t) => if t.isDirectory then some d else none
    | .anyDepth :: parts, r => expandBelow disk parts r
    | part :: parts, r =>
      ((below disk r).filter fun (d, _) => d.path.fileName?.any part.accepts).flatMap fun (d, _) =>
        expandFrom disk parts d

def expand (g : Glob) (disk : Disk) : List FilePath :=
  let origin : Reached := if g.isAbsolute then ⟨⟨"/"⟩, []⟩ else ⟨⟨"."⟩, disk.workingDirectory⟩
  let places := expandFrom disk g.parts origin
  let kept := places.filter fun r =>
    !g.directoriesOnly || (disk.tree.at? r.location).any FileTree.isDirectory
  kept.map Reached.path

end Glob
end MarkerLint.Files
