
namespace MarkerLint.Script

structure Language where
  typescript : Bool
  markup : Bool
  -- The file is a module for certain; otherwise that shows in what it holds.
  isModule : Bool
  deriving DecidableEq, Inhabited, Repr

def extension? (file : List Char) : Option (List Char) :=
  if file.contains '.' then some (file.reverse.takeWhile (· != '.')).reverse else none

-- Only `tsx` has both types and markup, and `ts`, `mts` and `cts` have types alone.
def Language.ofFile (file : String) : Language :=
  match (extension? file.toList).map String.ofList with
  | some "tsx" => ⟨true, true, false⟩
  | some "ts" | some "mts" | some "cts" => ⟨true, false, false⟩
  | _ => ⟨false, true, true⟩

end MarkerLint.Script
