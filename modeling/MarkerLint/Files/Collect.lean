import MarkerLint.Files.Glob
import MarkerLint.Files.Ignore

-- The files that patterns stand for. A glob is expanded, and any other pattern is a file or a directory to walk
-- through, in which hidden and ignored entries are left out.

namespace MarkerLint.Files

def isHidden (name : String) : Bool :=
  name.toList.head? = some '.'

-- An entry is walked through unless rules leave it out. A hidden one must be kept by a rule.
def isWalked (levels : List IgnoreLevel) (l : Location) (name : String) (isDirectory : Bool) : Bool :=
  match IgnoreLevel.decide? levels l isDirectory with
  | some .ignored => false
  | some .kept => true
  | none => !isHidden name

mutual

def walk (levels : List IgnoreLevel) (path : FilePath) (l : Location) : FileTree → List FilePath
  | .file _ => [path]
  | .directory es => walkEntries (.ofDirectory l.length (.directory es) :: levels) path l es

def walkEntries (levels : List IgnoreLevel) (path : FilePath) (l : Location) : List Entry → List FilePath
  | [] => []
  | e :: es => walkEntry levels path l e ++ walkEntries levels path l es

def walkEntry (levels : List IgnoreLevel) (path : FilePath) (l : Location) : Entry → List FilePath
  | .mk name tree =>
    let inside := l ++ [name]
    if isWalked levels inside name tree.isDirectory then walk levels (path.join name) inside tree else []

end

def levelsAbove (tree : FileTree) (l : Location) : List IgnoreLevel :=
  ((List.range l.length).filterMap fun depth =>
    (tree.at? (l.take depth)).map (IgnoreLevel.ofDirectory depth)).reverse

def walkFrom (disk : Disk) (path : FilePath) : List FilePath :=
  match disk.locate? path with
  | none => []
  | some l =>
    match disk.tree.at? l with
    | some tree => walk (levelsAbove disk.tree l) path l tree
    | none => []

-- Packages that were installed are never linted by a glob.
def packageDirectory : String := "node_modules"

-- What a pattern stands for. A malformed glob stands for nothing.
def matchedBy (disk : Disk) (pattern : String) : List FilePath :=
  if Glob.isGlob pattern then
    match Glob.ofText? pattern.toList with
    | some g => (g.expand disk).filter fun p => p.isLintable && !p.hasPart packageDirectory
    | none => []
  else
    (walkFrom disk ⟨pattern⟩).filter FilePath.isLintable

def mergeAdjacent : List FilePath → List FilePath
  | [] => []
  | [p] => [p]
  | p :: q :: ps =>
    if p.same q then mergeAdjacent (p :: ps) else p :: mergeAdjacent (q :: ps)

def collect (disk : Disk) (patterns : List String) : List FilePath :=
  mergeAdjacent ((patterns.flatMap (matchedBy disk)).mergeSort FilePath.le)

end MarkerLint.Files
