import TextIntake.Tool.Shell.Builtin.Control
import TextIntake.Tool.Shell.Lookup

set_option autoImplicit false

/-!
# Running text and processes

How a shell runs a text of commands, and how a part of it becomes a process of its own.
What runs a single command is left open here.
-/

namespace TextIntake.Tool.Shell

/-- What is known of the place of a command. -/
structure Place where
  /-- whether its status is looked at -/
  isTested : Bool := false
  /-- whether the process ends behind it -/
  isLast : Bool := false
  deriving DecidableEq, Repr, Inhabited

/-- What parts of a shell need of each other. -/
structure Engine where
  tools : Tools
  /-- runs a command -/
  run : Command → Place → Sh Nat

namespace Engine

/-! ## Texts of commands -/

/-- Runs what is left of a text, line by line. -/
def runLines (x : Engine) (p : Place) : Nat → Progress → Nat → Sh Nat
  | 0, _, status => return status
  | fuel + 1, progress, status => do
    let s ← get
    match readLine { progress with
        aliases := s.aliases, documents := s.documents, nextDocument := s.nextDocument } with
    | .error fault =>
      modify fun s => { s with line := fault.line }
      Sh.fail fault.message
    | .ok l =>
      modify fun s =>
        { s with
          documents := l.progress.documents
          nextDocument := l.progress.nextDocument
          readLine := l.progress.line }
      if l.isOver then return status
      let status ← match l.command with
        | none => pure status
        | some c => x.run c { p with isLast := p.isLast && l.isLast }
      if (← get).skip ≠ .nothing then return status
      runLines x p fuel l.progress status

/-- Runs a text of commands. -/
def runText (x : Engine) (p : Place) (t : Text) : Sh Nat := do
  let before := (← get).readLine
  let status ← runLines x p Machine.fullWork { layers := [{ text := t }] } 0
  modify fun s => { s with readLine := before }
  return status

/-! ## Actions of signals -/

/-- Runs the action of a signal.  The status stays unless the action returns. -/
def runAction (x : Engine) (n : Nat) : Sh Unit := do
  let s ← get
  match (s.traps.find? fun (k, _) => k == n).map Prod.snd with
  | none => return
  | some action =>
    set { s with savedStatus := some (s.savedStatus.getD s.status) }
    let _ ← x.runText {} action
    modify fun after =>
      { after with
        savedStatus := s.savedStatus
        status := if after.skip = .function then after.status else s.status }

/-- Runs the actions of the signals that have come. -/
def runActions (x : Engine) : Sh Unit := do
  Signal.receive
  let s ← get
  if !s.pending.isEmpty ∧ s.skip = .nothing then
    set { s with pending := [] }
    ((List.range Signal.count).filter s.pending.contains).forM (runAction x)

/-! ## Processes -/

/-- Runs the action of the end of a shell: with which status it ends. -/
def runLastAction (x : Engine) (status : Nat) : StateT State Act ExitStatus := do
  let s ← get
  match (s.traps.find? fun (k, _) => k == 0).map Prod.snd with
  | none => return .exited (status % 256)
  | some action =>
    set { s with
      traps := s.traps.filter fun (k, _) => k != 0
      skip := .nothing
      status
      savedStatus := some status }
    match ← (x.runText {} action).run with
    | .error (.exit (some n)) => return .exited (n % 256)
    | .error (.gone e) => return e
    | _ => return .exited (status % 256)

/-- Ends a shell. -/
def finish (x : Engine) (r : Except Stop Nat) : StateT State Act ExitStatus := do
  let s ← get
  let e ← match r with
    | .error (.gone e) => pure e
    | .error (.exit (some n)) => runLastAction x n
    | .error (.exit none) => runLastAction x (s.savedStatus.getD s.status)
    | _ => runLastAction x s.status
  let _ ← Jobs.settleNow.run
  return e

/-- A step as a process of its own. -/
def process (x : Engine) (s : State) (step : Sh Nat) : Act ExitStatus := do
  let (r, s) ← step.run.run s
  (finish x r).run' s

/-- What a process that is started remembers. -/
def inherited (s : State) : State :=
  { s with
    traps := s.traps.filter fun (_, action) => action == []
    jobs := []
    loops := 0
    skip := .nothing
    savedStatus := none
    pending := []
    written := [] }

/-- Notes that time has passed. -/
def arrive (time : Nat) : Sh Unit := do
  let before := (← Sh.machine).now
  Sh.act (Machine.waitUntil time)
  if before < time then Jobs.settleNow
  if ← Sh.act Machine.isOver then throw (.gone (.exited 0))
  Signal.receive

/-- Runs a step of the machine as a process and waits for its end. -/
def await (act : Act ExitStatus) : Sh ExitStatus := do
  let (status, stop) ← Sh.act (Machine.fork act)
  arrive stop
  return status

/-- The status of a process in the foreground.  When a signal has ended it, that is said. -/
def report (status : ExitStatus) : Sh Nat := do
  match status with
  | .killed n =>
    match Signal.message? n with
    | some t => Sh.writeError (t ++ ['\n'])
    | none => pure ()
  | _ => pure ()
  return Signal.status status

/-- Runs a step in a process of its own. -/
def inProcess (x : Engine) (prepare : Act Unit) (step : Sh Nat) : Sh ExitStatus := do
  let s := inherited (← get)
  await do
    prepare
    process x s step

/-- Runs a command in a process of its own and gives what it writes. -/
def substitute (x : Engine) : Substitute := fun command => do
  match command with
  | none => return []
  | some c =>
    Sh.spend 20
    let file ← Sh.act (Machine.addFile #[])
    let description ← Sh.act (Machine.addOpening { target := .file file, writes := true })
    let status ← inProcess x (Machine.attach 1 description) (x.run c { isLast := true })
    let n ← report status
    modify fun s => { s with outputStatus := n }
    return ((← Sh.machine).content file).toList

/-- Starts a process in the background. -/
def start (x : Engine) (prepare : Act Unit) (step : Sh Nat) : Sh Unit := do
  let s := inherited (← get)
  let m ← Sh.machine
  let number := m.nextNumber
  Sh.act (set { m with nextNumber := number + 1 })
  let here := m.process
  let act : Act ExitStatus := do
    modify fun m => { m with process := { here with number, parent := here.number } }
    prepare
    process x s step
  let job : Job := { number, start := m.now, act }
  modify fun s => { s with jobs := s.jobs ++ [job], lastJob := some number }

/-! ## Pipelines -/

/-- How much a pipe holds before a writer has to wait for its reader. -/
def pipeSize : Nat := 4096

/-- How much went through a pipe. -/
def throughput (m : Machine) (description : Nat) : Nat :=
  match m.openings[description]? with
  | some { target := .pipe n, .. } => ((m.pipes[n]?).map fun p => p.content.size).getD 0
  | _ => 0

/-- Runs what is piped together, the first one reading from `input`: how the last one ends,
and when all have ended.  A writer that does not end by itself ends with its reader. -/
def pipe (x : Engine) (s : State) (p : Place) : Option Nat → List Command → Act (ExitStatus × Nat)
  | _, [] => return (.exited 0, 0)
  | input, c :: rest => do
    let connect : Act Unit := do
      match input with
      | some d => Machine.attach 0 d
      | none => return
    let body (connect : Act Unit) : Act ExitStatus := do
      connect
      process x s (x.run c { p with isLast := true })
    match rest with
    | [] => Machine.fork (body connect)
    | _ =>
      let (reading, writing) ← Machine.addPipe
      let before := (← get).work
      modify fun m => { m with work := before / 2 }
      let (_, stop) ← Machine.fork (body do
        connect
        Machine.attach 1 writing)
      modify fun m => { m with work := before / 2 + m.work }
      Machine.closePipe writing stop
      let (status, last) ← pipe x s p (some reading) rest
      let m ← get
      let isEndless := m.deadline ≤ stop ∧ pipeSize < throughput m writing
      return (status, if isEndless then last else max stop last)

end Engine

end TextIntake.Tool.Shell
