import MarkerLint.Files.Path

namespace MarkerLint.Files

inductive Content where
  | text (chars : List Char)
  | binary (bytes : List UInt8)
  deriving DecidableEq, Inhabited, Repr

mutual

inductive FileTree where
  | file (content : Content)
  | directory (entries : List Entry)

inductive Entry where
  | mk (name : String) (tree : FileTree)

end

instance : Inhabited FileTree :=
  ⟨.directory []⟩

abbrev Location := List String

namespace Entry

def name : Entry → String
  | mk n _ => n

def tree : Entry → FileTree
  | mk _ t => t

end Entry

namespace FileTree

def isDirectory : FileTree → Bool
  | directory _ => true
  | file _ => false

def entries : FileTree → List Entry
  | directory es => es
  | file _ => []

def entry? (t : FileTree) (name : String) : Option FileTree :=
  (t.entries.find? (·.name == name)).map Entry.tree

def at? : FileTree → Location → Option FileTree
  | t, [] => some t
  | t, n :: ns => (t.entry? n).bind (·.at? ns)

def read? (t : FileTree) (l : Location) : Option (List Char) :=
  match t.at? l with
  | some (file (.text cs)) => some cs
  | _ => none

def modifyAt (f : FileTree → FileTree) : Location → FileTree → FileTree
  | [], t => f t
  | _ :: _, file c => file c
  | n :: ns, directory es =>
    directory (es.map fun e => if e.name = n then .mk n (modifyAt f ns e.tree) else e)

def write (t : FileTree) (l : Location) (text : List Char) : FileTree :=
  t.modifyAt (fun old => match old with
    | file _ => file (.text text)
    | directory es => directory es) l

def graft (tree : FileTree) : Location → FileTree → FileTree
  | [], _ => tree
  | n :: ns, t =>
    match t.entry? n with
    | some _ => directory (t.entries.map fun e => if e.name = n then .mk n (graft tree ns e.tree) else e)
    | none => directory (t.entries ++ [.mk n (graft tree ns (directory []))])

def insert (t : FileTree) (l : Location) (content : Content) : FileTree :=
  graft (file content) l t

mutual

-- All places below a tree with the names that lead there, directories before what they hold.
def descendants : FileTree → List (Location × FileTree)
  | file _ => []
  | directory es => descendantsOfEntries es

def descendantsOfEntries : List Entry → List (Location × FileTree)
  | [] => []
  | e :: es => descendantsOfEntry e ++ descendantsOfEntries es

def descendantsOfEntry : Entry → List (Location × FileTree)
  | .mk n t => ([n], t) :: (descendants t).map fun (l, d) => (n :: l, d)

end

def files (t : FileTree) : List (Location × Content) :=
  t.descendants.filterMap fun (l, d) =>
    match d with
    | file c => some (l, c)
    | directory _ => none

end FileTree

structure Disk where
  tree : FileTree
  workingDirectory : Location := []
  isWritable : Location → Bool := fun _ => true

namespace Disk

-- One step of following a path: all but the last place must be directories.
def follow? (disk : Disk) (l : Location) (segment : List Char) : Option Location := do
  let here ← disk.tree.at? l
  if here.isDirectory then
    match segment with
    | [] | ['.'] => some l
    | ['.', '.'] => some l.dropLast
    | cs =>
      let next := l ++ [String.ofList cs]
      (disk.tree.at? next).map fun _ => next
  else
    none

-- Where a path would lead if all directories on the way were there.
def locationOf (workingDirectory : Location) (p : FilePath) : Location :=
  p.parts.foldl (fun l part => match part with
    | .root => []
    | .current => l
    | .parent => l.dropLast
    | .name n => l ++ [n]) workingDirectory

def locate? (disk : Disk) (p : FilePath) : Option Location :=
  if p.text.isEmpty then
    none
  else
    let origin := if p.isAbsolute then [] else disk.workingDirectory
    (segments p.text.toList).foldlM disk.follow? origin

def read? (disk : Disk) (p : FilePath) : Option (List Char) :=
  (disk.locate? p).bind disk.tree.read?

def write? (disk : Disk) (p : FilePath) (text : List Char) : Option Disk := do
  let l ← disk.locate? p
  if disk.isWritable l then some { disk with tree := disk.tree.write l text } else none

end Disk
end MarkerLint.Files
