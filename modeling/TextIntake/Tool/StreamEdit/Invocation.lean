import TextIntake.Tool.Arguments
import TextIntake.Tool.StreamEdit.Run

set_option autoImplicit false

/-!
# The stream editor

`sed` takes a script from its options, or else from its first operand, and edits its
other operands by it.
-/

namespace TextIntake.Tool.StreamEdit

/-- The options. -/
inductive Flag where
  | quiet
  | extended
  | separate
  | inPlace
  | nulls
  | unbuffered
  | strict
  | sandbox
  | width
  | expression
  | file
  /-- an option that changes nothing here -/
  | idle
  deriving DecidableEq, Repr, Inhabited

/-- How the options are written. -/
def forms : List (OptionForm Flag) := [
  { key := .quiet, letters := ['n'], words := ["quiet", "silent"] },
  { key := .extended, letters := ['E', 'r'], words := ["regexp-extended"] },
  { key := .separate, letters := ['s'], words := ["separate"] },
  { key := .inPlace, letters := ['i'], words := ["in-place"], taking := .perhaps },
  { key := .nulls, letters := ['z'], words := ["null-data", "zero-terminated"] },
  { key := .unbuffered, letters := ['u'], words := ["unbuffered", "line-buffered"] },
  { key := .strict, words := ["posix"] },
  { key := .sandbox, words := ["sandbox"] },
  { key := .width, letters := ['l'], words := ["line-length"], taking := .value },
  { key := .expression, letters := ['e'], words := ["expression"], taking := .value },
  { key := .file, letters := ['f'], words := ["file"], taking := .value },
  { key := .idle, letters := ['b'], words := ["binary"] },
  { key := .idle, words := ["follow-symlinks"] },
  { key := .idle, words := ["debug"] }]

/-- Settings with one more option. -/
def Settings.withFlag (s : Settings) : Flag × Text → Settings
  | (.quiet, _) => { s with quiet := true }
  | (.extended, _) => { s with extended := true }
  | (.separate, _) => { s with separate := true }
  | (.inPlace, ending) =>
    let form : Text := if ending.contains '*' then ending else '*' :: ending
    { s with separate := true, inPlace := some form }
  | (.nulls, _) => { s with terminator := Char.ofNat 0 }
  | (.unbuffered, _) => { s with unbuffered := true }
  | (.strict, _) => { s with strict := true }
  | (.sandbox, _) => { s with sandbox := true }
  | (.width, n) => { s with width := (number? (n.takeWhile Character.isDecimalDigit)).getD 0 }
  | (_, _) => s

/-- Reads one option, which may be a part of the script. -/
def readOption (option : Flag × Text) : Drafting Unit := do
  modify fun d => { d with settings := d.settings.withFlag option }
  match option with
  | (.expression, t) => Drafting.expressionPart t
  | (.file, name) => Drafting.filePart name
  | _ => return

/-- Reads the script that options and operands give: the script and the other operands.
There is none where nothing gives one. -/
def readScript (a : Arguments Flag) : Drafting (Option (Script × List Text)) := do
  a.options.forM readOption
  let isGiven := a.options.any fun (flag, _) => flag == .expression || flag == .file
  match isGiven, a.operands with
  | true, files => return some (← Drafting.complete, files)
  | false, t :: files =>
    Drafting.expressionPart t
    return some (← Drafting.complete, files)
  | false, [] => return none

/-- Ends with a complaint about a script. -/
def refuse (name : Text) (d : Draft) : Refusal → Act ExitStatus
  | .here message => do
    complain name (d.origin d.used ++ message)
    return .exited 1
  | .whole message code => do
    complain name message
    return .exited code

end TextIntake.Tool.StreamEdit

namespace TextIntake.Tool

/-- Edits texts by a script, with a shell for the commands in it. -/
def sed (shell : Tool) : Tool :=
  withArguments 1 false StreamEdit.forms fun name a => do
    let (result, d) ← (StreamEdit.readScript a).run.run { settings := {} }
    match result with
    | .error refusal => StreamEdit.refuse name d refusal
    | .ok none => return .exited 1
    | .ok (some (script, files)) =>
      let s := d.settings
      if s.inPlace.isSome ∧ files = [] then
        complain name "no input files".toList
        return .exited 4
      let s := { s with quiet := s.quiet || script.quiet }
      let script := { script with origin := d.origin 0 }
      return .exited (← StreamEdit.edit shell s script (orStandardInput files))

end TextIntake.Tool
