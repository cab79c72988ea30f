import TextIntake.Command.Failure
import TextIntake.Tool.Shell.Commands

set_option autoImplicit false

/-!
# The state of a shell

What a shell remembers between commands: variables, functions, aliases, traps, options,
parameters, and how the last command ended.  A step of a shell works on this state and
on the machine, and may stop everything.
-/

namespace TextIntake.Tool.Shell

/-- A variable.  One without a value may still be marked. -/
structure Variable where
  value : Option Text := none
  exported : Bool := false
  readOnly : Bool := false
  deriving DecidableEq, Repr, Inhabited

/-- A function. -/
structure Function where
  line : Nat
  body : Command
  deriving Inhabited

/-- What is left out until a loop, a function or a file ends. -/
inductive Skip where
  | nothing
  /-- the rest of so many loops -/
  | loops (count : Nat)
  /-- the rest of so many rounds of loops, the last of which goes on -/
  | rounds (count : Nat)
  | function
  /-- the same, keeping the status that was there before -/
  | keeping
  deriving DecidableEq, Repr, Inhabited

/-- What a local variable or `-` stood for outside. -/
inductive Saved where
  | variable (name : Text) (outside : Option Variable)
  | options (outside : List Char)
  deriving DecidableEq, Repr, Inhabited

/-- A process in the background. -/
structure Job where
  number : Nat
  /-- when it was started -/
  start : Nat
  /-- what it does -/
  act : Act ExitStatus
  /-- how and when it ended, once that is known -/
  result : Option (ExitStatus × Nat) := none
  deriving Inhabited

/-- What a shell remembers. -/
structure State where
  /-- the name in front of messages -/
  name : Text
  /-- the number of the outermost shell -/
  number : Nat
  positional : List Text := []
  vars : List (Text × Variable) := []
  functions : List (Text × Function) := []
  aliases : List (Text × Text) := []
  /-- actions by the numbers of signals; zero is the end -/
  traps : List (Nat × Text) := []
  /-- the letters of the options that are on -/
  options : List Char := []
  /-- how the last command ended -/
  status : Nat := 0
  /-- how the last substituted command ended -/
  outputStatus : Nat := 0
  /-- the line for messages, and the one for the variable -/
  line : Nat := 1
  shownLine : Nat := 1
  /-- the line on which the function starts that runs -/
  functionLine : Nat := 0
  /-- the builtin that runs -/
  builtin : Option Text := none
  skip : Skip := .nothing
  /-- how many loops run -/
  loops : Nat := 0
  /-- how many functions run -/
  depth : Nat := 0
  /-- what local variables stood for, the innermost function first -/
  locals : List (List Saved) := []
  /-- what the builtin has written so far, the last first -/
  written : List Text := []
  /-- which operand `getopts` is to read next, and how much of the last one it has read -/
  optionIndex : Nat := 1
  optionOffset : Option Nat := none
  jobs : List Job := []
  /-- the process that was last started in the background -/
  lastJob : Option Nat := none
  /-- signals whose actions are still to be run -/
  pending : List Nat := []
  /-- the status in front of an action -/
  savedStatus : Option Nat := none
  documents : List (Nat × Document) := []
  nextDocument : Nat := 0
  /-- whether words are being expanded for a trace -/
  isTracing : Bool := false
  /-- the line up to which commands are read -/
  readLine : Nat := 1
  /-- the commands that were found on the way through the path -/
  found : List Text := []
  /-- what is taken from the rights of new files -/
  mask : Nat := 0o022
  deriving Inhabited

/-! ## Entries by name -/

/-- The entry of a name. -/
def lookup? {α : Type} (entries : List (Text × α)) (name : Text) : Option α :=
  (entries.find? fun (n, _) => n == name).map Prod.snd

/-- Entries with a new one in place of those of its name. -/
def enter {α : Type} (entries : List (Text × α)) (name : Text) (a : α) : List (Text × α) :=
  match entries with
  | [] => [(name, a)]
  | (n, b) :: rest => if n = name then (name, a) :: rest else (n, b) :: enter rest name a

/-- Entries without those of a name. -/
def erase {α : Type} (entries : List (Text × α)) (name : Text) : List (Text × α) :=
  entries.filter fun (n, _) => n != name

namespace State

/-- What stands in front of messages. -/
def heading (s : State) : Text :=
  let place := s.name ++ ": ".toList ++ decimal s.line ++ ": ".toList
  match s.builtin with
  | some name => place ++ name ++ ": ".toList
  | none => place

/-- The name of the variable that tells the line. -/
def lineName : Text := "LINENO".toList

/-- The value of a variable. -/
def value? (s : State) (name : Text) : Option Text :=
  match lookup? s.vars name with
  | some v => v.value
  | none => if name = lineName then some (decimal s.shownLine) else none

/-- The characters that separate fields. -/
def separators (s : State) : Text :=
  match lookup? s.vars "IFS".toList with
  | some v => v.value.getD [' ', '\t', '\n']
  | none => [' ', '\t', '\n']

/-- Gives back what a saved thing stood for. -/
def restore (s : State) : Saved → State
  | .options outside => { s with options := outside }
  | .variable name none => { s with vars := erase s.vars name }
  | .variable name (some v) => { s with vars := enter s.vars name v }

/-- The variables that programs see. -/
def environment (s : State) : List (Text × Text) :=
  s.vars.filterMap fun (name, v) =>
    if v.exported then v.value.map fun value => (name, value) else none

end State

/-- What stops a shell. -/
inductive Stop where
  /-- a failure; its message is written already -/
  | failure
  /-- the end of the shell -/
  | ending
  /-- the end of the shell, asked for with a status or without -/
  | exit (status : Option Nat)
  /-- the end of the process, without any more to do -/
  | gone (status : ExitStatus)
  deriving DecidableEq, Repr, Inhabited

/-- A step of a shell. -/
abbrev Sh := ExceptT Stop (StateT State Act)

namespace Sh

/-- A step of the machine. -/
def act {α : Type} (a : Act α) : Sh α := fun s => do return (.ok (← a), s)

/-- The state of the machine. -/
def machine : Sh Machine := act get

/-- Runs a step, and gives what came of it. -/
def tried {α : Type} (step : Sh α) : Sh (Except Stop α) := fun s => do
  let (r, s) ← step s
  return (.ok r, s)

/-- Waits for what never comes. -/
def stuck {α : Type} : Sh α := do
  act Machine.hang
  throw (.gone (.exited 0))

/-- Does some work; the shell stops when the time is over. -/
def spend (amount : Nat) : Sh Unit := do
  act (Machine.spend amount)
  if ← act Machine.isOver then throw (.gone (.exited 0))

/-! ## Messages -/

/-- Writes a message. -/
def warn (message : Text) : Sh Unit := do
  let s ← get
  let _ ← act (Machine.write 2 (s.heading ++ message ++ ['\n']))

/-- Writes out what a builtin has written. -/
def flush : Sh Bool := do
  let t := (← get).written.reverse.flatten
  modify fun s => { s with written := [] }
  match ← act (Machine.write 1 t) with
  | .ok _ => return true
  | .error _ => return false

/-- Fails with a message. -/
def fail {α : Type} (message : Text) : Sh α := do
  modify fun s => { s with status := 2 }
  warn message
  let _ ← flush
  throw .failure

/-- Fails because of a text that is no number. -/
def failNumber {α : Type} (t : Text) : Sh α := fail ("Illegal number: ".toList ++ t)

/-- Writes a message, or text that stands for one, without a heading. -/
def writeError (t : Text) : Sh Unit := do
  let _ ← act (Machine.write 2 t)

/-- Writes to the standard output when the builtin ends. -/
def put (t : Text) : Sh Unit := modify fun s => { s with written := t :: s.written }

/-- Whether an option is on. -/
def isOn (option : Char) : Sh Bool := do return (← get).options.contains option

/-- Gives the line of a command. -/
def atLine (line : Nat) : Sh Unit :=
  modify fun s =>
    { s with line, shownLine := if s.functionLine = 0 then line else line + 1 - s.functionLine }

/-! ## Variables -/

/-- The value of a variable. -/
def value? (name : Text) : Sh (Option Text) := do return (← get).value? name

/-- Changes a variable; one that is read-only is not changed. -/
def assign (name : Text) (value : Option Text) (exported : Bool) : Sh Unit := do
  let s ← get
  let v := (lookup? s.vars name).getD {}
  if v.readOnly then fail (name ++ ": is read only".toList)
  let exported := v.exported || exported || s.options.contains 'a'
  set { s with vars := enter s.vars name { v with value, exported } }
  if name = "OPTIND".toList then
    let n := (number? (value.getD [])).getD 0
    modify fun s => { s with optionIndex := if n = 0 then 1 else n, optionOffset := none }

/-- Fails when a text is no name. -/
def checkName (name : Text) : Sh Unit := do
  if !isName name then fail (name ++ ": bad variable name".toList)

/-- Changes a variable whose name may be none. -/
def assignNamed (name : Text) (value : Option Text) (exported : Bool) : Sh Unit := do
  checkName name
  assign name value exported

/-- Marks a variable. -/
def mark (name : Text) (change : Variable → Variable) : Sh Unit :=
  modify fun s =>
    let v := (lookup? s.vars name).getD {}
    { s with vars := enter s.vars name (change v) }

/-- Removes a variable. -/
def unset (name : Text) : Sh Unit := do
  let s ← get
  match lookup? s.vars name with
  | none => return
  | some v =>
    if v.readOnly then fail (name ++ ": is read only".toList)
    set { s with vars := erase s.vars name }

/-- The name and the value of an assignment. -/
def splitAssignment (t : Text) : Text × Option Text :=
  (t.takeWhile (· ≠ '='),
    if t.contains '=' then some ((t.dropWhile (· ≠ '=')).drop 1) else none)

/-- Carries out an assignment. -/
def assignText (t : Text) (exported : Bool) : Sh Unit :=
  let (name, value) := splitAssignment t
  assign name (some (value.getD [])) exported

/-- Makes a variable, or the options, local to the function that runs. -/
def makeLocal (t : Text) (exported : Bool) : Sh Unit := do
  let s ← get
  let remember (x : Saved) : Sh Unit :=
    modify fun s =>
      match s.locals with
      | [] => s
      | frame :: frames => { s with locals := (x :: frame) :: frames }
  if t = ['-'] then remember (.options s.options)
  else
    let (name, value) := splitAssignment t
    let outside := lookup? s.vars name
    match value with
    | some _ => assign name value exported
    | none => if outside.isNone then mark name fun v => { v with exported := v.exported || exported }
    remember (.variable name outside)

/-- Opens a frame for local variables. -/
def pushLocals : Sh Unit := modify fun s => { s with locals := [] :: s.locals }

/-- Leaves the frames of local variables that are above `count` others. -/
def popLocals (count : Nat) : Sh Unit :=
  modify fun s =>
    let frames := s.locals.take (s.locals.length - count)
    { frames.flatten.foldl State.restore s with locals := s.locals.drop (s.locals.length - count) }

/-! ## Numbers -/

/-- The largest number. -/
def largest : Int := 0x7FFFFFFFFFFFFFFF

/-- Digits that were read behind a sign. -/
structure Digits where
  /-- the number that they write -/
  exact : Int := 0
  rest : Text
  isThere : Bool := true

namespace Digits

/-- The number within what 64 bits can hold. -/
def value (d : Digits) : Int := max (-largest - 1) (min largest d.exact)

/-- Whether 64 bits can hold the number. -/
def isInRange (d : Digits) : Bool := d.value == d.exact

end Digits

/-- Reads a whole number from the start of a text.  Base zero stands for decimal, octal
behind a zero and hexadecimal behind `0x`. -/
def readInteger (base : Nat) (t : Text) : Digits :=
  let whole := t
  let t := t.dropWhile isSpace
  let (negative, t) : Bool × Text :=
    match t with
    | '-' :: t => (true, t)
    | '+' :: t => (false, t)
    | t => (false, t)
  let isHex : Bool :=
    match t with
    | '0' :: x :: d :: _ => (x == 'x' || x == 'X') && (hexValue? d).isSome
    | _ => false
  let (base, t) : Nat × Text :=
    if base ≠ 0 then (base, t)
    else if isHex then (16, t.drop 2)
    else if t.head? = some '0' then (8, t)
    else (10, t)
  let isDigit (c : Char) : Bool := (hexValue? c).any (· < base)
  let digits := t.takeWhile isDigit
  if digits = [] then { rest := whole, isThere := false }
  else
    let n : Int := digits.foldl (fun n c => n * base + (hexValue? c).getD 0) (0 : Nat)
    { exact := if negative then -n else n, rest := t.drop digits.length }

/-- The number that a text stands for. -/
def integer (base : Nat) (t : Text) : Sh Int := do
  let d := readInteger base t
  if !d.isInRange ∨ (base ≠ 0 ∧ !d.isThere) ∨ !(d.rest.all isSpace) then failNumber t
  else return d.value

/-- The count that a text stands for. -/
def count (t : Text) : Sh Nat := do
  let n ← integer 10 t
  if n < 0 ∨ 0x7FFFFFFF < n then failNumber t else return n.toNat

end Sh

end TextIntake.Tool.Shell
