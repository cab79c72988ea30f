import TextIntake.Tool.Shell.Builtin.Basic

set_option autoImplicit false

/-!
# Signals

The names of signals, what they do to a shell, and the actions that are set for them.
-/

namespace TextIntake.Tool.Shell.Signal

/-- How many signals there are, the end of a shell among them. -/
def count : Nat := 65

/-- The names of the signals from number zero on, as far as they have any. -/
def names : List Text := "EXIT".toList :: ExitStatus.signalNames.map fun n => (n.drop 3).toString.toList

/-- The name of a signal.  A few have only their number. -/
def name (n : Nat) : Text :=
  match names[n]? with
  | some t => if n = 16 then decimal n else t
  | none =>
    if n = 34 then "RTMIN".toList
    else if n = 64 then "RTMAX".toList
    else if 34 < n ∧ n < 50 then "RTMIN+".toList ++ decimal (n - 34)
    else if 50 ≤ n ∧ n < 64 then "RTMAX-".toList ++ decimal (64 - n)
    else decimal n

/-- The signal that a text names, from the number `least` on. -/
def read? (least : Nat) (t : Text) : Option Nat :=
  match number? t with
  | some n => if n < count then some n else none
  | none =>
    let upper := t.map Char.toUpper
    (List.range' least (count - least)).find? fun n => name n == upper

/-- What is said of a process that a signal ended. -/
def words : List String := [
  "Hangup", "Interrupt", "Quit", "Illegal instruction", "Trace/breakpoint trap", "Aborted",
  "Bus error", "Floating point exception", "Killed", "User defined signal 1",
  "Segmentation fault", "User defined signal 2", "Broken pipe", "Alarm clock", "Terminated",
  "Stack fault", "Child exited", "Continued", "Stopped (signal)", "Stopped",
  "Stopped (tty input)", "Stopped (tty output)", "Urgent I/O condition",
  "CPU time limit exceeded", "File size limit exceeded", "Virtual timer expired",
  "Profiling timer expired", "Window changed", "I/O possible", "Power failure",
  "Bad system call"]

/-- What is said of a process that a signal ended; nothing where that is usual. -/
def message? (n : Nat) : Option Text :=
  if n = 2 ∨ n = 13 then none
  else some (((words[n - 1]?).map String.toList).getD ("Unknown signal ".toList ++ decimal n))

/-- Whether a signal does nothing by itself. -/
def isHarmless (n : Nat) : Bool := [17, 18, 23, 28].contains n

/-- Whether a signal stops a process until it is to go on. -/
def stops (n : Nat) : Bool := [19, 20, 21, 22].contains n

/-- Whether a signal can neither be caught nor ignored. -/
def isCertain (n : Nat) : Bool := n = 9 || n = 19

/-- Lets a signal reach the shell. -/
def deliver (n : Nat) : Sh Unit := do
  let s ← get
  let ignored := (← Sh.machine).process.ignored.contains n
  let unhandled : Sh Unit := do
    if stops n then Sh.stuck
    else if !isHarmless n then throw (.gone (.killed n))
  if isCertain n then unhandled
  else
    match (s.traps.find? fun (k, _) => k == n).map Prod.snd with
    | some action =>
      if action ≠ [] then modify fun s => { s with pending := s.pending ++ [n] }
    | none => if !ignored then unhandled

/-- Lets the signals that were sent to the shell reach it. -/
def receive : Sh Unit := do
  let m ← Sh.machine
  let number := m.process.number
  let mine := m.sent.filter fun (k, _) => k == number
  if !mine.isEmpty then
    Sh.act (modify fun m => { m with sent := m.sent.filter fun (k, _) => k != number })
    mine.forM fun (_, n) => deliver n

/-- The number of the status with which a process ended. -/
def status : ExitStatus → Nat
  | .exited code => code
  | .killed n => 128 + n

end Signal

namespace Builtin

/-- Sets actions for signals, or writes those that are set. -/
def trap : Builtin := fun arguments => do
  let arguments ← operands arguments
  match arguments with
  | [] =>
    (List.range Signal.count).forM fun n => do
      match ((← get).traps.find? fun (k, _) => k == n).map Prod.snd with
      | some action =>
        putLine ("trap -- ".toList ++ quoted action ++ ' ' :: Signal.name n)
      | none => return
    return 0
  | first :: rest =>
    let resets := rest.isEmpty || ((number? first).any fun n => n < Signal.count)
    let action : Option Text := if resets ∨ first = ['-'] then none else some first
    setTraps action (if resets then arguments else rest)
where
  /-- Sets an action for signals. -/
  setTraps (action : Option Text) : List Text → Sh Nat
    | [] => return 0
    | t :: rest => do
      match Signal.read? 0 t with
      | none =>
        Sh.writeError ("trap: ".toList ++ t ++ ": bad trap\n".toList)
        return 1
      | some n =>
        modify fun s =>
          let others := s.traps.filter fun (k, _) => k != n
          { s with traps := match action with
              | some a => (n, a) :: others
              | none => others }
        Sh.act (modify fun m =>
          let others := m.process.ignored.filter (· ≠ n)
          let ignored := if action = some [] ∧ n ≠ 0 then n :: others else others
          { m with process := { m.process with ignored } })
        setTraps action rest

/-- The wording of how `kill` is called. -/
def killUsage : Text :=
  "Usage: kill [-s sigspec | -signum | -sigspec] [pid | job]... or\nkill -l [exitstatus]".toList

/-- Writes names of signals. -/
def listSignals : List Text → Sh Nat
  | [] => do
    putLine ['0']
    (List.range' 1 (Signal.count - 1)).forM fun n => putLine (Signal.name n)
    return 0
  | t :: _ => do
    let n ← Sh.count t
    let n := if 128 < n then n - 128 else n
    if 0 < n ∧ n < Signal.count then
      putLine (Signal.name n)
      return 0
    else Sh.fail ("invalid signal number or exit status: ".toList ++ t)

/-- Which signal is asked for, or whether a list of them is, and the other arguments. -/
def killOptions (arguments : List Text) : Sh (Option Nat × Bool × List Text) := do
  match arguments with
  | ('-' :: t) :: rest =>
    match Signal.read? 1 t with
    | some n => return (some n, false, rest)
    | none =>
      let (found, rest) ← options [('l', false), ('s', true)] arguments
      let signal ← found.foldlM (fun signal (c, value) => do
        if c = 's' then
          match Signal.read? 1 value with
          | some n => return some n
          | none => Sh.fail ("invalid signal number or name: ".toList ++ value)
        else return signal) none
      return (signal, found.any fun (c, _) => c == 'l', rest)
  | rest => return (none, false, rest)

end Builtin

end TextIntake.Tool.Shell
