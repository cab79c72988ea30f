import TextIntake.Tool.Shell.Signals

set_option autoImplicit false

/-!
# Processes in the background

A process in the background is not run before something depends on how far it is: time
that passes, the end of the shell, or a wait for it.  Then it is run from the time at
which it was started.  One that would not end in time leaves no traces until it is looked
at again.
-/

namespace TextIntake.Tool.Shell

/-- A process that is run from a time on, for what there is of the work at most in part:
how it ends, when, and what the machine is behind it. -/
def runApart (start limit : Nat) (number : Nat) (act : Act ExitStatus) (m : Machine) :
    (ExitStatus × Nat) × Machine :=
  let apart : Machine :=
    { m with
      now := start
      deadline := min m.deadline limit
      work := m.work / 2
      process := { m.process with number, parent := m.process.number } }
  let (status, after) := act.run apart
  ((status, after.now), { after with
    now := m.now
    deadline := m.deadline
    work := m.work / 2 + after.work
    process := m.process })

namespace Jobs

/-- Looks how far a process is at a time: it has ended, or it is as if it had not started. -/
def settleOne (time : Nat) (j : Job) : Sh Job := do
  if j.result.isSome ∨ time < j.start then return j
  let m ← Sh.machine
  let ((status, stop), after) := runApart j.start (time + 1) j.number j.act m
  if stop ≤ time then
    Sh.act (set after)
    return { j with result := some (status, stop) }
  else
    Sh.act (set { m with work := after.work })
    return j

/-- Looks how far all processes are at a time. -/
def settle (time : Nat) : Sh Unit := do
  let jobs := (← get).jobs
  if jobs.any fun j => j.result.isNone then
    let jobs ← jobs.mapM (settleOne time)
    modify fun s => { s with jobs }

/-- Looks how far all processes are now. -/
def settleNow : Sh Unit := do settle (← Sh.machine).now

/-- Waits for all processes. -/
def waitForAll : Sh Unit := do
  let m ← Sh.machine
  settle (m.deadline - 1)
  (← get).jobs.forM fun j => do
    match j.result with
    | some (_, stop) => Sh.act (Machine.waitUntil stop)
    | none => Sh.stuck
  modify fun s => { s with jobs := [] }

/-- Waits for a process: how it ended. -/
def waitFor (number : Nat) : Sh Nat := do
  match (← get).jobs.find? fun j => j.number == number with
  | none => return 127
  | some _ =>
    settle ((← Sh.machine).deadline - 1)
    match (← get).jobs.find? fun j => j.number == number with
    | some { result := some (status, stop), .. } =>
      Sh.act (Machine.waitUntil stop)
      return Signal.status status
    | _ => Sh.stuck

/-- The process that a text such as `%1` means. -/
def named (t : Text) : Sh Job := do
  let jobs := (← get).jobs
  let found : Option Job :=
    match t with
    | ['%'] | ['%', '%'] | ['%', '+'] => jobs.getLast?
    | ['%', '-'] => jobs.dropLast.getLast?
    | '%' :: t => (number? t).bind fun n => if n = 0 then none else jobs[n - 1]?
    | _ => none
  match found with
  | some j => return j
  | none => Sh.fail ("No such job: ".toList ++ t)

end Jobs

namespace Builtin

/-- Waits for processes in the background. -/
def wait : Builtin := fun arguments => do
  match ← operands arguments with
  | [] =>
    Jobs.waitForAll
    return 0
  | processes =>
    processes.foldlM (fun _ t => do
      let number ← if t.head? = some '%' then pure (← Jobs.named t).number else Sh.count t
      Jobs.waitFor number) 127

/-- Sends a signal to a process: whether there is one. -/
def send (signal number : Nat) : Sh Bool := do
  let m ← Sh.machine
  if number = m.process.number then
    if signal ≠ 0 then Signal.deliver signal
    return true
  else
    Jobs.settleNow
    let jobs := (← get).jobs
    match jobs.find? fun j => j.number == number with
    | some j =>
      if j.result.isSome then return true
      let isIgnored := m.process.ignored.contains signal && !Signal.isCertain signal
      if signal ≠ 0 ∧ !Signal.isHarmless signal ∧ !isIgnored then
        let (_, after) := runApart j.start m.now j.number j.act m
        Sh.act (set after)
        let killed : Job := { j with result := some (.killed signal, m.now) }
        modify fun s =>
          { s with jobs := s.jobs.map fun x => if x.number = number then killed else x }
      return true
    | none =>
      if number = 0 ∨ (m.process.parent ≤ number ∧ number < m.nextNumber) ∨
          number = (← get).number then
        if signal ≠ 0 then
          Sh.act (modify fun m => { m with sent := m.sent ++ [(number, signal)] })
        return true
      else return false

/-- Sends signals to processes, or lists them. -/
def kill : Builtin := fun arguments => do
  if arguments = [] then Sh.fail killUsage
  let (signal, lists, rest) ← killOptions arguments
  if lists then
    if signal.isSome then Sh.fail killUsage
    listSignals rest
  else if rest = [] then Sh.fail killUsage
  else
    rest.foldlM (fun status t => do
      let number ← match t with
        | '%' :: _ => do pure (← Jobs.named t).number
        | '-' :: t => Sh.count t
        | t => Sh.count t
      if ← send (signal.getD 15) number then return status
      else
        Sh.warn "No such process\n".toList
        return 1) 0

end Builtin

end TextIntake.Tool.Shell
