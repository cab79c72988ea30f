import TextIntake.File.Path

set_option autoImplicit false

/-!
# Arguments of the command line

Flags and exactly one input, in any order.  A flag with a value takes the next
argument, whatever it is, unless that looks like a flag.  A flag that is given
again counts as given last.
-/

namespace TextIntake.CommandLine

/-- What the arguments say. -/
structure Arguments where
  optionsFile : Option Path := none
  logFile : Option Path := none
  encoding : Option Text := none
  noAutoDetect : Bool := false
  ignoreComments : Bool := false
  ignoreCase : Bool := false
  /-- a path, a URL, or `-` for the standard input -/
  input : Text := []
  deriving DecidableEq, Repr, Inhabited

/-- Why arguments were not accepted. -/
inductive ArgumentFault where
  | helpWanted
  | noInput
  | valueMissing (flag : String)
  | unknownFlag (flag : Text)
  | secondInput
  deriving DecidableEq, Repr, Inhabited

namespace ArgumentFault

/-- How the program is called. -/
def usage : String :=
  "usage: source-ingest [--options FILE] [--encoding NAME] [--no-auto-detect] " ++
    "[--ignore-comments] [--ignore-case] [--log FILE] <PATH|URL|->"

/-- The wording of a fault. -/
def message : ArgumentFault → String
  | helpWanted | noInput => usage
  | valueMissing flag => s!"{flag} needs a value\n{usage}"
  | unknownFlag flag => s!"unknown flag: {String.ofList flag}\n{usage}"
  | secondInput => s!"only one input allowed\n{usage}"

end ArgumentFault

namespace Arguments

/-- Whether an argument looks like a flag. -/
def isFlag (t : Text) : Bool := "--".toList.isPrefixOf t

/-- The flags that take a value, each with what the value does. -/
def valued : List (String × (Arguments → Text → Arguments)) := [
  ("--options", fun a v => { a with optionsFile := some v }),
  ("--log", fun a v => { a with logFile := some v }),
  ("--encoding", fun a v => { a with encoding := some v })]

/-- The flags that stand alone, each with what it does. -/
def switches : List (String × (Arguments → Arguments)) := [
  ("--no-auto-detect", fun a => { a with noAutoDetect := true }),
  ("--ignore-comments", fun a => { a with ignoreComments := true }),
  ("--ignore-case", fun a => { a with ignoreCase := true })]

/-- The ways to ask for help. -/
def helpFlags : List String := ["-h", "--help"]

/-- Reads arguments behind those that gave `a`; `seen` is the input among them. -/
def readFrom (a : Arguments) (seen : Option Text) : List Text → Except ArgumentFault Arguments
  | [] =>
    match seen with
    | some input => .ok { a with input }
    | none => .error .noInput
  | argument :: rest =>
    let word := String.ofList argument
    match valued.find? fun (name, _) => name == word with
    | some (name, put) =>
      match rest with
      | [] => .error (.valueMissing name)
      | value :: rest =>
        if isFlag value then .error (.valueMissing name) else readFrom (put a value) seen rest
    | none =>
      match switches.find? fun (name, _) => name == word with
      | some (_, put) => readFrom (put a) seen rest
      | none =>
        if helpFlags.contains word then .error .helpWanted
        else if isFlag argument then .error (.unknownFlag argument)
        else if seen.isSome then .error .secondInput
        else readFrom a (some argument) rest

/-- Reads arguments. -/
def read (arguments : List Text) : Except ArgumentFault Arguments := readFrom {} none arguments

end Arguments

end TextIntake.CommandLine
