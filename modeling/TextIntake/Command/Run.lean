import TextIntake.Command.Failure
import TextIntake.Command.Words
import TextIntake.File.Tree

set_option autoImplicit false

/-!
# Running external commands

A host is what starts programs: a function from a launch and the files around to
what comes of it.  A launch says what is started, what it reads, where its output
goes and when it is stopped.  A command line is run as a filter, from a file or a
byte string to another, and at most for as long as a time limit allows.

What a filter writes and reads at no path stands in scratch files.  What is done with
these around a program are chores, and each of them may fail.
-/

namespace TextIntake

/-- A program and its arguments. -/
structure Command where
  program : Text
  args : List Text
  deriving DecidableEq, Repr, Inhabited

namespace Command

/-- Reads a command line. -/
def read (line : Text) : Except CommandFailure Command :=
  match Words.read line with
  | none => .error (.invalidCommandLine line)
  | some [] => .error .emptyCommandLine
  | some (program :: args) => .ok ⟨program, args⟩

end Command

/-- Where content is taken from. -/
inductive Origin where
  | file (path : Path)
  /-- content that stands at no path, in a scratch file that was written and can be read -/
  | scratch (content : Bytes)
  deriving DecidableEq, Repr, Inhabited

namespace Origin

/-- The name in messages. -/
def name : Origin → Text
  | file path => path
  | scratch _ => "<scratch>".toList

/-- The content. -/
def read (tree : FileTree) : Origin → Except IoFailure Bytes
  | file path => tree.read path
  | scratch content => .ok content

end Origin

/-- A program about to be started. -/
structure Launch where
  command : Command
  /-- what it reads -/
  input : Origin
  /-- the file that takes its output; without one the output stands at no path -/
  output : Option Path := none
  /-- when it is stopped -/
  limit : Option Duration := none
  deriving DecidableEq, Repr, Inhabited

/-- What comes of a program that was started. -/
structure Execution where
  /-- what was written by the end, or by the time the program was stopped -/
  output : Bytes
  status : ExitStatus
  /-- the time that the program takes, or more than it was given -/
  elapsed : Duration
  /-- the files it leaves behind -/
  tree : FileTree
  deriving DecidableEq, Repr, Inhabited

/-- What starts programs. -/
structure Host where
  start : Launch → FileTree → Except IoFailure Execution

/-- What is done for a command line around its program. -/
inductive Chore where
  /-- A scratch file is made for the content in another encoding. -/
  | makeCopy
  /-- The content is read, to be written in another encoding. -/
  | readContent
  /-- The content is written in another encoding. -/
  | writeCopy
  /-- A scratch file is made for the output. -/
  | makeOutput
  /-- What the program reads is opened. -/
  | openInput
  /-- The scratch file for the output is opened. -/
  | openOutput
  /-- The end of the program is awaited. -/
  | awaitEnd
  /-- The output is read. -/
  | readOutput
  deriving DecidableEq, Repr, Inhabited

/-- Where the chores of command lines are done.  Whether a chore fails depends on the command line
and the content that it is done for; it never touches the files around. -/
structure Workbench where
  /-- what a chore for a command line on some content fails with, if it does -/
  obstacle : Text → Bytes → Chore → Option IoFailure := fun _ _ _ => none

/-- Does a chore for a command line on some content. -/
def Workbench.attempt (b : Workbench) (line : Text) (content : Bytes) (chore : Chore) :
    Except CommandFailure Unit :=
  match b.obstacle line content chore with
  | some cause => .error (.io cause)
  | none => .ok ()

namespace Execution

/-- Whether an execution succeeds within a time limit.  No program is so fast that
it finishes in no time. -/
def verdict (limit : Option Duration) (x : Execution) : Except CommandFailure Unit :=
  match limit with
  | some d =>
    if d.milliseconds ≤ x.elapsed.milliseconds then .error (.timedOut d) else byStatus
  | none => byStatus
where
  /-- The verdict of the program itself. -/
  byStatus : Except CommandFailure Unit :=
    if x.status.isSuccess then .ok () else .error (.exitStatus x.status)

/-- The output of an execution that succeeds, read back when it is over. -/
def collect (attempt : Chore → Except CommandFailure Unit) (limit : Option Duration)
    (x : Execution) : Except CommandFailure Bytes := do
  attempt .awaitEnd
  x.verdict limit
  attempt .readOutput
  return x.output

end Execution

namespace Host

/-- Starts a program; one whose name or arguments hold a NUL cannot be named. -/
def launch (h : Host) (l : Launch) (t : FileTree) : Except CommandFailure Execution :=
  let c := l.command
  if (c.program :: c.args).any (·.contains '\x00') then
    .error (.notStarted c.program .nulInCommand)
  else
    match h.start l t with
    | .error cause => .error (.notStarted c.program cause)
    | .ok x => .ok x

/-- Whether an input can be opened. -/
def opened (t : FileTree) : Origin → Except IoFailure Unit
  | .file path => (t.status path).map fun _ => ()
  | .scratch _ => .ok ()

/-- Opens what a filter reads, and the scratch file for its output. -/
def openBoth (attempt : Chore → Except CommandFailure Unit) (t : FileTree) (input : Origin) :
    Except CommandFailure Unit := do
  (opened t input).mapError CommandFailure.io
  attempt .openInput
  attempt .openOutput

/-- Runs a command line on an input: its output, and the files it leaves. -/
def filter (h : Host) (attempt : Chore → Except CommandFailure Unit) (limit : Option Duration)
    (line : Text) (input : Origin) (t : FileTree) : Except CommandFailure Bytes × FileTree :=
  match Command.read line with
  | .error e => (.error e, t)
  | .ok command =>
    match openBoth attempt t input with
    | .error e => (.error e, t)
    | .ok _ =>
      match h.launch { command, input, limit } t with
      | .error e => (.error e, t)
      | .ok x => (x.collect attempt limit, x.tree)

/-- Runs a command line from one file to another.  The output file is there, and
empty, before the program starts. -/
def filterFile (h : Host) (limit : Option Duration) (line : Text) (input output : Path)
    (t : FileTree) : Except CommandFailure Unit × FileTree :=
  match Command.read line with
  | .error e => (.error e, t)
  | .ok command =>
    match opened t (.file input) with
    | .error cause => (.error (.io cause), t)
    | .ok _ =>
      match t.write output [] with
      | .error cause => (.error (.io cause), t)
      | .ok t =>
        match h.launch { command, input := .file input, output := some output, limit } t with
        | .error e => (.error e, t)
        | .ok x => (x.verdict limit, x.tree)

end Host

end TextIntake
