
namespace MarkerLint

structure Policy where
  -- Elements with such a name are looked through.
  isExcluded : String → Bool
  marker : String
  -- Functions that take a component and give it back.
  wrappers : List String

def Policy.isWrapper (p : Policy) (name : String) : Bool :=
  p.wrappers.contains name

end MarkerLint
