
namespace MarkerLint.Files

def segments : List Char → List (List Char)
  | [] => [[]]
  | c :: cs =>
    if c = '/' then [] :: segments cs
    else
      match segments cs with
      | [] => [[c]]
      | s :: ss => (c :: s) :: ss

-- A part of a path. The order of the constructors is the order of parts.
inductive Part where
  | root
  | current
  | parent
  | name (text : String)
  deriving DecidableEq, Inhabited, Repr

namespace Part

def rank : Part → Nat
  | root => 0
  | current => 1
  | parent => 2
  | name _ => 3

def le : Part → Part → Bool
  | name a, name b => a ≤ b
  | a, b => a.rank ≤ b.rank

end Part

structure FilePath where
  text : String
  deriving DecidableEq, Inhabited, Repr

namespace FilePath

def isAbsolute (p : FilePath) : Bool :=
  p.text.toList.head? = some '/'

-- A part that is not the first: empty ones and single points say nothing.
def laterPart? : List Char → Option Part
  | [] => none
  | ['.'] => none
  | ['.', '.'] => some .parent
  | cs => some (.name (String.ofList cs))

-- The parts of a path. Only at the front does a single point count.
def parts (p : FilePath) : List Part :=
  match segments p.text.toList with
  | [] => []
  | first :: later =>
    let front :=
      if p.isAbsolute then [.root]
      else if first = ['.'] then [.current]
      else (laterPart? first).toList
    front ++ later.filterMap laterPart?

def leParts : List Part → List Part → Bool
  | [], _ => true
  | _ :: _, [] => false
  | a :: as, b :: bs => if a = b then leParts as bs else a.le b

def le (p q : FilePath) : Bool :=
  leParts p.parts q.parts

-- Spelled perhaps in two ways, but the same part by part.
def same (p q : FilePath) : Bool :=
  p.parts = q.parts

def join (p : FilePath) (name : String) : FilePath :=
  if p.text.isEmpty || p.text.endsWith "/" then ⟨p.text ++ name⟩ else ⟨p.text ++ "/" ++ name⟩

def fileName? (p : FilePath) : Option String :=
  match p.parts.getLast? with
  | some (.name n) => some n
  | _ => none

-- What follows the last point of a name, unless that point begins the name.
def extensionOf? (name : List Char) : Option (List Char) :=
  let back := name.reverse.takeWhile (· != '.')
  if back.length + 1 < name.length then some back.reverse else none

def lintedExtensions : List String :=
  ["js", "jsx", "mjs", "cjs", "ts", "tsx", "mts", "cts"]

-- Files of declarations hold no markup.
def declarationEndings : List String :=
  [".d.ts", ".d.mts", ".d.cts"]

def isLintable (p : FilePath) : Bool :=
  match p.fileName? with
  | none => false
  | some name =>
    !(declarationEndings.any fun ending => name.endsWith ending) &&
      ((extensionOf? name.toList).map String.ofList).any lintedExtensions.contains

def hasPart (p : FilePath) (name : String) : Bool :=
  p.parts.contains (.name name)

end FilePath
end MarkerLint.Files
