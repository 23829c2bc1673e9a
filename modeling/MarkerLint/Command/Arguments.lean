
namespace MarkerLint.Command

structure LintArguments where
  patterns : List String := ["."]
  fix : Bool := false
  config : Option String := none
  format : String := "text"
  maxWarnings : Option Nat := none
  quiet : Bool := false
  deriving DecidableEq, Inhabited, Repr

inductive Invocation where
  | lint (arguments : LintArguments)
  | version
  | help
  deriving DecidableEq, Inhabited, Repr

inductive UsageError where
  | unexpected (argument : String)
  | missingValue (option : String)
  | invalidValue (option value : String)
  | repeated (option : String)
  deriving DecidableEq, Inhabited, Repr

inductive ValueOption where
  | config
  | format
  | maxWarnings
  deriving DecidableEq, Inhabited, Repr

def ValueOption.name : ValueOption → String
  | config => "config"
  | format => "format"
  | maxWarnings => "max-warnings"

def numberLimit : Nat := UInt64.size - 1

def readNumber? (text : String) : Option Nat :=
  let digits := match text.toList with
    | '+' :: cs => cs
    | cs => cs
  if digits.isEmpty || !digits.all Char.isDigit then none
  else
    let n := digits.foldl (fun n c => n * 10 + (c.toNat - '0'.toNat)) 0
    if n ≤ numberLimit then some n else none

-- What was read of the arguments of `lint`. No option may be given twice.
structure Collected where
  patterns : List String := []
  fix : Bool := false
  quiet : Bool := false
  config : Option String := none
  format : Option String := none
  maxWarnings : Option Nat := none
  pending : Option ValueOption := none
  deriving Inhabited

namespace Collected

def setFix (c : Collected) : Except UsageError Collected :=
  if c.fix then .error (.repeated "fix") else .ok { c with fix := true }

def setQuiet (c : Collected) : Except UsageError Collected :=
  if c.quiet then .error (.repeated "quiet") else .ok { c with quiet := true }

def setValue (c : Collected) (option : ValueOption) (value : String) : Except UsageError Collected :=
  let c := { c with pending := none }
  match option with
  | .config =>
    if c.config.isSome then .error (.repeated "config")
    else if value.isEmpty then .error (.missingValue "config")
    else .ok { c with config := some value }
  | .format =>
    if c.format.isSome then .error (.repeated "format") else .ok { c with format := some value }
  | .maxWarnings =>
    if c.maxWarnings.isSome then .error (.repeated "max-warnings")
    else
      match readNumber? value with
      | some n => .ok { c with maxWarnings := some n }
      | none => .error (.invalidValue "max-warnings" value)

-- The value may come with the option or as the next argument.
def option (c : Collected) (option : ValueOption) (value : Option String) : Except UsageError Collected :=
  match value with
  | some v => c.setValue option v
  | none => .ok { c with pending := some option }

def addPattern (c : Collected) (pattern : String) : Collected :=
  { c with patterns := c.patterns ++ [pattern] }

def arguments (c : Collected) : LintArguments where
  patterns := if c.patterns.isEmpty then ["."] else c.patterns
  fix := c.fix
  config := c.config
  format := c.format.getD "text"
  maxWarnings := c.maxWarnings
  quiet := c.quiet

end Collected

inductive Progress where
  | more (c : Collected)
  | help

def readLong (c : Collected) (name : String) (value : Option String) : Except UsageError Progress :=
  match name, value with
  | "fix", none => Progress.more <$> c.setFix
  | "quiet", none => Progress.more <$> c.setQuiet
  | "help", none => .ok .help
  | "config", value => Progress.more <$> c.option .config value
  | "format", value => Progress.more <$> c.option .format value
  | "max-warnings", value => Progress.more <$> c.option .maxWarnings value
  | name, _ => .error (.unexpected name)

def attachedValue : List Char → Option String
  | [] => none
  | '=' :: cs => some (String.ofList cs)
  | cs => some (String.ofList cs)

def readShort (c : Collected) : List Char → Except UsageError Progress
  | [] => .ok (.more c)
  | 'q' :: cs => do readShort (← c.setQuiet) cs
  | 'h' :: _ => .ok .help
  | 'c' :: cs => Progress.more <$> c.option .config (attachedValue cs)
  | 'f' :: cs => Progress.more <$> c.option .format (attachedValue cs)
  | o :: _ => .error (.unexpected (String.singleton o))

def splitValue (text : List Char) : String × Option String :=
  let (name, rest) := text.span (· != '=')
  (String.ofList name, match rest with
    | _ :: value => some (String.ofList value)
    | [] => none)

-- One argument of `lint`. What begins with a hyphen is never a value; a hyphen alone is one.
def readArgument (c : Collected) (argument : String) : Except UsageError Progress :=
  match argument.toList with
  | '-' :: '-' :: cs =>
    match c.pending with
    | some option => .error (.missingValue option.name)
    | none =>
      let (name, value) := splitValue cs
      readLong c name value
  | '-' :: o :: cs =>
    match c.pending with
    | some option => .error (.missingValue option.name)
    | none => readShort c (o :: cs)
  | _ =>
    match c.pending with
    | some option => Progress.more <$> c.setValue option argument
    | none => .ok (.more (c.addPattern argument))

-- The arguments of `lint`. Behind two hyphens there are only patterns.
def readLint (c : Collected) : List String → Except UsageError Invocation
  | [] =>
    match c.pending with
    | some option => .error (.missingValue option.name)
    | none => .ok (.lint c.arguments)
  | argument :: rest =>
    if argument = "--" then
      match c.pending with
      | some option => .error (.missingValue option.name)
      | none => .ok (.lint (rest.foldl Collected.addPattern c).arguments)
    else
      match readArgument c argument with
      | .error e => .error e
      | .ok .help => .ok .help
      | .ok (.more c) => readLint c rest

-- All arguments of the command. Without any, the working directory is linted.
def readArguments : List String → Except UsageError Invocation
  | [] => .ok (.lint {})
  | ["--"] => .ok (.lint {})
  | argument :: rest =>
    match argument.toList with
    | ['l', 'i', 'n', 't'] => readLint {} rest
    | ['h', 'e', 'l', 'p'] => .ok .help
    | '-' :: 'v' :: _ | '-' :: 'V' :: _ => .ok .version
    | '-' :: 'h' :: _ => .ok .help
    | '-' :: '-' :: cs =>
      match String.ofList cs with
      | "version" => .ok .version
      | "help" => .ok .help
      | _ => .error (.unexpected argument)
    | _ => .error (.unexpected argument)

end MarkerLint.Command
