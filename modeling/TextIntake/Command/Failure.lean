import TextIntake.Command.Duration
import TextIntake.File.Failure

set_option autoImplicit false

/-!
# Failures of external commands

How a command ended, and the ways in which running one can fail.
-/

namespace TextIntake

/-- How a command ended. -/
inductive ExitStatus where
  | exited (code : Nat)
  | killed (signal : Nat)
  deriving DecidableEq, Repr, Inhabited

namespace ExitStatus

/-- Whether the command says that it succeeded. -/
def isSuccess (s : ExitStatus) : Bool := s == exited 0

/-- The names of the signals, from number 1 on. -/
def signalNames : List String := [
  "SIGHUP", "SIGINT", "SIGQUIT", "SIGILL", "SIGTRAP", "SIGABRT", "SIGBUS", "SIGFPE",
  "SIGKILL", "SIGUSR1", "SIGSEGV", "SIGUSR2", "SIGPIPE", "SIGALRM", "SIGTERM", "SIGSTKFLT",
  "SIGCHLD", "SIGCONT", "SIGSTOP", "SIGTSTP", "SIGTTIN", "SIGTTOU", "SIGURG", "SIGXCPU",
  "SIGXFSZ", "SIGVTALRM", "SIGPROF", "SIGWINCH", "SIGIO", "SIGPWR", "SIGSYS"]

/-- The written form. -/
def text : ExitStatus → String
  | exited code => s!"exit status: {code}"
  | killed signal =>
    match signalNames[signal - 1]? with
    | some name => s!"signal: {signal} ({name})"
    | none => s!"signal: {signal}"

end ExitStatus

/-- Why a command did not give an output to work with. -/
inductive CommandFailure where
  | emptyCommandLine
  | invalidCommandLine (line : Text)
  | notStarted (program : Text) (cause : IoFailure)
  | io (cause : IoFailure)
  | exitStatus (status : ExitStatus)
  | timedOut (limit : Duration)
  | emptyOutput
  | notText
  deriving DecidableEq, Repr, Inhabited

namespace CommandFailure

/-- The wording of a failure. -/
def message : CommandFailure → String
  | emptyCommandLine => "the command line is empty"
  | invalidCommandLine line => s!"cannot parse command line: {String.ofList line}"
  | notStarted program cause =>
    s!"failed to start '{String.ofList program}': {cause.message}"
  | io cause => s!"I/O error: {cause.message}"
  | exitStatus status => s!"command exited with {status.text}"
  | timedOut limit => s!"command did not finish within {limit.text}"
  | emptyOutput => "command produced no output"
  | notText => "command output is not text"

end CommandFailure

end TextIntake
