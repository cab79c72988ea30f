import TextIntake.Tool.Shell.Running

set_option autoImplicit false

/-!
# The shell

`sh` runs the commands in an argument, in a file, or on its standard input.
-/

namespace TextIntake.Tool.Shell

/-- The variables with which a shell starts. -/
def initialVariables (m : Machine) : List (Text × Variable) :=
  let given := m.process.environment.filter fun (name, _) => isName name
  let start : List (Text × Variable) :=
    given.map fun (name, value) => (name, { value := some value, exported := true })
  let own : List (Text × Text) := [
    ("IFS".toList, " \t\n".toList), ("OPTIND".toList, ['1']),
    ("PPID".toList, decimal m.process.parent)]
  let usual : List (Text × Text) := [
    ("PATH".toList, "/usr/local/sbin:/usr/local/bin:/usr/sbin:/usr/bin:/sbin:/bin".toList),
    ("PS1".toList, "# ".toList), ("PS2".toList, "> ".toList), ("PS4".toList, "+ ".toList)]
  let withOwn := own.foldl (fun vs (name, value) =>
    enter vs name { (lookup? vs name).getD {} with value := some value }) start
  let withUsual := usual.foldl (fun vs (name, value) =>
    if (lookup? vs name).isSome then vs else enter vs name { value := some value }) withOwn
  enter withUsual "PWD".toList
    { value := some (Builtin.pathOf m.process.place), exported := true }

/-- The state with which a shell starts. -/
def initialState (name : Text) (m : Machine) : State where
  name := name
  number := m.process.number
  vars := initialVariables m
  line := 0

/-- Runs the commands of a text from its start, showing them when that is wanted. -/
def runScript (x : Engine) (t : Text) : Sh Nat := do
  if ← Sh.isOn 'v' then Sh.writeError t
  x.runText {} t

/-- Runs a shell with its arguments. -/
def run (x : Engine) (arguments : List Text) : Sh Nat := do
  let a ← Builtin.switchAll true (arguments.length + 1) arguments
  let fromInput : Sh Nat := do
    match ← Sh.act (Machine.readAll 0) with
    | .ok t => runScript x t
    | .error _ => return 0
  if a.wantsCommand then
    match a.rest with
    | [] => Sh.fail "-c requires an argument".toList
    | text :: rest =>
      match rest with
      | [] => pure ()
      | name :: rest => modify fun s => { s with name, positional := rest }
      let alsoInput ← Sh.isOn 's'
      modify fun s => { s with line := 1 }
      let status ← x.runText {} text
      if alsoInput ∧ (← get).skip = .nothing then fromInput else return status
  else
    let readsInput ← Sh.isOn 's'
    match a.rest with
    | name :: rest =>
      if readsInput then
        modify fun s => { s with positional := a.rest }
        fromInput
      else
        let t ← Engine.readSource name
        modify fun s => { s with name, positional := rest }
        runScript x t
    | [] =>
      modify fun s => { s with options := 's' :: s.options }
      fromInput

end TextIntake.Tool.Shell

namespace TextIntake.Tool

/-- Runs commands, with the tools of a host for programs. -/
def sh (tools : Shell.Tools) : Tool := fun name arguments => do
  let x := Shell.Engine.ofTools tools
  x.process (Shell.initialState name (← get)) do
    let status ← Shell.run x arguments
    modify fun s => { s with status }
    return status

end TextIntake.Tool
