import TextIntake.Tool.Shell.Builtin.Basic

set_option autoImplicit false

/-!
# Finding programs

A name with a slash is a path; any other one is looked for in the directories of a search
path.  The tools of a host stand in the two usual directories; no file is a program.
-/

namespace TextIntake.Tool.Shell

/-- The tools of a host, by their names. -/
abbrev Tools := Text → Option Tool

/-- What a name leads to. -/
inductive Program where
  | tool (path : Text) (tool : Tool)
  /-- a file that is no program -/
  | file (path : Text)
  | missing (cause : IoFailure)
  deriving Inhabited

namespace Program

/-- The tool at a path. -/
def at? (tools : Tools) (path : Text) : Option Tool :=
  let name := Tool.baseName path
  if name.length < path.length ∧ !name.contains '/' then tools name else none

/-- Looks for a name in directories; `cause` is why it is missing elsewhere. -/
def inDirectories (tools : Tools) (m : Machine) (name : Text) : IoFailure → List Text → Program
  | cause, [] => .missing cause
  | cause, directory :: rest =>
    let path := if directory = [] then name else directory ++ '/' :: name
    match at? tools path, m.find path with
    | some t, _ => .tool path t
    | none, .ok (_, .file _) => .file path
    | none, .ok _ => inDirectories tools m name .permissionDenied rest
    | none, .error _ => inDirectories tools m name cause rest

/-- The search path that holds the usual tools. -/
def usualPath : Text := "/usr/sbin:/usr/bin:/sbin:/bin".toList

/-- What a name leads to on a search path. -/
def search (tools : Tools) (m : Machine) (path name : Text) : Program :=
  if name.contains '/' then
    match at? tools name, m.find name with
    | some t, _ => .tool name t
    | none, .ok _ => .file name
    | none, .error cause => .missing cause
  else inDirectories tools m name .notFound (Path.splitOn ':' path)

/-- Why a program cannot be run. -/
def reason : IoFailure → Text
  | .notFound | .notADirectory => "not found".toList
  | cause => cause.reason.toList

end Program

/-- The search path. -/
def State.path (s : State) : Text :=
  (s.value? "PATH".toList).getD Program.usualPath

end TextIntake.Tool.Shell
