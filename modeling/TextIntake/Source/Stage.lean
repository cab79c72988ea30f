import TextIntake.Command.Run
import TextIntake.Source.Failure
import TextIntake.Transcoding

set_option autoImplicit false

/-!
# Stages

A stage sends the content of a source through an external command.  The command
gets the content in the encoding it expects.  When the command fails, or a chore
around it, or some content is turned into none, the stage has failed and the content
is taken again from where it came.
-/

namespace TextIntake

/-- Content, the encoding it is in, and where it can be taken from again. -/
structure Material where
  origin : Origin
  content : Bytes
  encoding : Encoding
  deriving DecidableEq, Repr, Inhabited

/-- How a source is sent through commands. -/
structure Tooling where
  host : Host
  workbench : Workbench
  timeout : Option Duration
  /-- the encoding of the commands, unless it is that of the source -/
  encoding : Option Encoding

namespace Tooling

/-- What a command reads: the material where it stands, or a copy of it in the encoding
that the command expects. -/
def handed (tooling : Tooling) (m : Material) : Origin :=
  let encoding := tooling.encoding.getD m.encoding
  if encoding = m.encoding then m.origin
  else .scratch (transcode m.encoding encoding m.content)

/-- What is to be done before a command is run: a copy where it expects another encoding,
and a scratch file for its output. -/
def preparations (tooling : Tooling) (m : Material) : List Chore :=
  if tooling.encoding.getD m.encoding = m.encoding then [.makeOutput]
  else [.makeCopy, .readContent, .writeCopy, .makeOutput]

/-- Sends material through a command: the output as new material, and the files that
the command leaves. -/
def run (tooling : Tooling) (command : Text) (m : Material) (tree : FileTree) :
    Except CommandFailure Material × FileTree :=
  let encoding := tooling.encoding.getD m.encoding
  let attempt := tooling.workbench.attempt command m.content
  match (tooling.preparations m).forM attempt with
  | .error reason => (.error reason, tree)
  | .ok _ =>
    match tooling.host.filter attempt tooling.timeout command (tooling.handed m) tree with
    | (.error reason, tree) => (.error reason, tree)
    | (.ok output, tree) =>
      if output = [] ∧ m.content ≠ [] then (.error .emptyOutput, tree)
      else (.ok ⟨.scratch output, output, encoding⟩, tree)

end Tooling

/-- What a stage leads to. -/
structure Staged where
  /-- the material to go on with, unless it could not be taken again -/
  material : Except SourceFailure Material
  /-- why the command failed, if it did -/
  failure : Option CommandFailure
  tree : FileTree
  deriving Inhabited

/-- Sends material through a stage.  Without a command it stays as it is. -/
def Tooling.stage (tooling : Tooling) (command : Text) (m : Material) (tree : FileTree) : Staged :=
  if command = [] then { material := .ok m, failure := none, tree }
  else
    match tooling.run command m tree with
    | (.ok output, tree) => { material := .ok output, failure := none, tree }
    | (.error reason, tree) =>
      match m.origin.read tree with
      | .ok content => { material := .ok { m with content }, failure := some reason, tree }
      | .error cause =>
        { material := .error (.readFailed m.origin.name cause), failure := some reason, tree }

end TextIntake
