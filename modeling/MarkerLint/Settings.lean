import MarkerLint.Json.Reader
import MarkerLint.Json.Value
import MarkerLint.Pattern.Reader
import MarkerLint.Policy

namespace MarkerLint

structure MarkerOptions where
  excludeComponentNames : List String := ["Provider$"]
  markerAttribute : String := "data-component"
  componentWrappers : List String := ["forwardRef"]
  deriving DecidableEq, Inhabited, Repr

structure Settings where
  schemaReference : Option String := none
  markerOptions : MarkerOptions := {}
  deriving DecidableEq, Inhabited, Repr

def Settings.fileName : String := "hallmark.config.json"

inductive SettingsError where
  | unreadable
  | invalid (cause : Json.ReadError)
  | invalidPattern (pattern : String) (cause : Pattern.PatternError)
  | emptyMarker
  deriving DecidableEq, Inhabited, Repr

def SettingsError.message : SettingsError → String
  | unreadable => "failed to read the configuration"
  | invalid _ => "failed to parse the configuration"
  | invalidPattern pattern _ => s!"invalid exclude pattern `{pattern}`"
  | emptyMarker => "marker attribute name must not be empty"

namespace Json

-- A record is read from an object, in which members may come in any order and unknown ones are passed over, or from
-- an array that holds the members in order.
structure RecordReader (α : Type) where
  keys : List String
  readMember : Nat → α → List Char → Except ReadError (Read α)

namespace RecordReader

variable {α : Type}

abbrev ObjectState (α : Type) := α × List Nat × Bool

-- One member of an object. A known member must not come twice.
def objectStep (r : RecordReader α) (state : ObjectState α) (cs : List Char) :
    Except ReadError (Text.ScanStep (ObjectState α) α) := do
  let (record, seen, first) := state
  let (more, rest) ← nextMember first cs
  if !more then
    .ok (.done record rest)
  else
    let (key, rest) ← readString rest
    match r.keys.idxOf? key with
    | none =>
      let rest ← skipValue (← readColon rest)
      .ok (.more (record, seen, false) rest)
    | some i =>
      if seen.contains i then
        .error .mismatch
      else
        let (record, rest) ← r.readMember i record (← readColon rest)
        .ok (.more (record, i :: seen, false) rest)

-- The members of an array from the one with index `i` on; those that are missing stay as they are.
def readElements (r : RecordReader α) (record : α) (cs : List Char) : List Nat → Except ReadError (Read α)
  | [] => do .ok (record, ← endArray cs)
  | i :: is => do
    let (more, rest) ← nextElement (i == 0) cs
    if more then
      let (record, rest) ← r.readMember i record rest
      r.readElements record rest is
    else
      .ok (record, ← endArray rest)

def read (r : RecordReader α) (defaults : α) (cs : List Char) : Except ReadError (Read α) :=
  match skipBlanks cs with
  | '{' :: rest => Text.scan .malformed r.objectStep (defaults, [], true) rest
  | '[' :: rest => r.readElements defaults rest (List.range r.keys.length)
  | cs => .error (mismatchAt cs)

end RecordReader
end Json

open Json in
def MarkerOptions.reader : RecordReader MarkerOptions where
  keys := ["excludeComponentNames", "markerAttribute", "componentWrappers"]
  readMember i options cs :=
    match i with
    | 0 => do
      let (names, rest) ← readStrings cs
      .ok ({ options with excludeComponentNames := names }, rest)
    | 1 => do
      let (marker, rest) ← readStringValue cs
      .ok ({ options with markerAttribute := marker }, rest)
    | _ => do
      let (wrappers, rest) ← readStrings cs
      .ok ({ options with componentWrappers := wrappers }, rest)

namespace Settings

open Json in
def reader : RecordReader Settings where
  keys := ["$schema", "dataComponent"]
  readMember i settings cs :=
    match i with
    | 0 => do
      let (reference, rest) ← readOptionalString cs
      .ok ({ settings with schemaReference := reference }, rest)
    | _ => do
      let (options, rest) ← MarkerOptions.reader.read {} cs
      .ok ({ settings with markerOptions := options }, rest)

def ofText (text : List Char) : Except Json.ReadError Settings := do
  let (settings, rest) ← reader.read {} text
  if (Json.skipBlanks rest).isEmpty then .ok settings else .error .malformed

end Settings

def MarkerOptions.toJson (o : MarkerOptions) : Json :=
  .object [
    ("excludeComponentNames", .array (o.excludeComponentNames.map .text)),
    ("markerAttribute", .text o.markerAttribute),
    ("componentWrappers", .array (o.componentWrappers.map .text))]

def Settings.toJson (s : Settings) : Json :=
  .object ((s.schemaReference.map fun r => ("$schema", Json.text r)).toList ++
    [("dataComponent", s.markerOptions.toJson)])

def lastSegment (name : List Char) : List Char :=
  (name.reverse.takeWhile (· != '.')).reverse

def matchesAny (patterns : List (List Char → Bool)) (name : String) : Bool :=
  patterns.any fun isMatch => isMatch name.toList || isMatch (lastSegment name.toList)

def readPatterns (engine : Pattern.Engine) : List String → Except SettingsError (List (List Char → Bool))
  | [] => .ok []
  | p :: ps =>
    match engine p.toList with
    | .error cause => .error (.invalidPattern p cause)
    | .ok isMatch => do .ok (isMatch :: (← readPatterns engine ps))

-- Patterns are looked at first, then the marker.
def MarkerOptions.compileWith (engine : Pattern.Engine) (o : MarkerOptions) : Except SettingsError Policy := do
  let patterns ← readPatterns engine o.excludeComponentNames
  if o.markerAttribute.isEmpty then
    .error .emptyMarker
  else
    .ok { isExcluded := matchesAny patterns, marker := o.markerAttribute, wrappers := o.componentWrappers }

def MarkerOptions.compile (o : MarkerOptions) : Except SettingsError Policy :=
  o.compileWith Pattern.standard

end MarkerLint
