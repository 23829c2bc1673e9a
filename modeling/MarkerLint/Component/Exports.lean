-- Which declared names are public. An export list may stand anywhere in a module, so declarations and lists are
-- collected first and matched at the end.

namespace MarkerLint

inductive ExportState where
  | declared
  | exported
  deriving DecidableEq, Inhabited, Repr

structure ExportTracker where
  declared : List (String × ExportState) := []
  listed : List String := []
  deriving Inhabited, Repr

structure Reachability where
  names : List String
  deriving Inhabited, Repr

namespace ExportTracker

def raise (name : String) (state : ExportState) : List (String × ExportState) → List (String × ExportState)
  | [] => [(name, state)]
  | (n, s) :: rest =>
    if n = name then
      (n, if state = .exported then .exported else s) :: rest
    else
      (n, s) :: raise name state rest

-- Records a declaration. A name that is exported stays so.
def declare (t : ExportTracker) (name : String) (exported : Bool) : ExportTracker :=
  { t with declared := raise name (if exported then .exported else .declared) t.declared }

def list (t : ExportTracker) (name : String) : ExportTracker :=
  if t.listed.contains name then t else { t with listed := name :: t.listed }

def state? (t : ExportTracker) (name : String) : Option ExportState :=
  t.declared.lookup name

-- A name is public if it was declared in an export, or was declared and is listed.
def finish (t : ExportTracker) : Reachability :=
  ⟨(t.declared.filter fun (name, state) => state = .exported || t.listed.contains name).map Prod.fst⟩

end ExportTracker

namespace Reachability

def isExported (r : Reachability) (name : String) : Bool :=
  r.names.contains name

def count (r : Reachability) : Nat :=
  r.names.length

end Reachability
end MarkerLint
