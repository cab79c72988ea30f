import TextIntake.Tool.Shell.Expansion

set_option autoImplicit false

/-!
# Redirections

The redirections of a command: their words are expanded first, then each of them is
carried out.  Behind the command the descriptors stand for what they stood for before.
-/

namespace TextIntake.Tool.Shell

/-- A redirection whose words are expanded. -/
inductive Direction where
  | file (descriptor : Nat) (use : FileUse) (name : Text)
  | same (descriptor : Nat) (source : Option Nat)
  | here (descriptor : Nat) (document : Nat)
  deriving DecidableEq, Repr, Inhabited

/-- The descriptor that a redirection changes. -/
def Direction.descriptor : Direction → Nat
  | file n _ _ | same n _ | here n _ => n

namespace Streams

/-- Expands the words of a redirection. -/
def direction (substitute : Substitute) : Redirection → Sh Direction
  | .file n use name => do return .file n use (← Sh.expandText substitute Purpose.text name)
  | .same n source => return .same n source
  | .here n document => return .here n document
  | .named n word => do
    match ← Sh.expandFields substitute word with
    | [] => Sh.fail "redir error".toList
    | ['-'] :: _ => return .same n none
    | [c] :: _ => if Character.isDecimalDigit c then return .same n (some (c.toNat - 0x30)) else bad
    | _ => bad
where
  /-- Fails because a word is no descriptor. -/
  bad : Sh Direction := do
    modify fun s => { s with line := s.readLine }
    Sh.fail "Syntax error: Bad fd number".toList

/-- Why a file could not be opened or created. -/
def reason (creates : Bool) : IoFailure → Text
  | .notFound | .notADirectory =>
    if creates then "Directory nonexistent".toList else "No such file".toList
  | cause => cause.reason.toList

/-- Whether something else than a file stands at a path. -/
def isNoFile (m : Machine) (name : Text) : Bool :=
  match m.find name with
  | .ok (_, .file _) => false
  | .ok _ => true
  | .error _ => false

/-- Opens a file. -/
def openFile (use : FileUse) (name : Text) : Sh Nat := do
  let guarded := (← Sh.isOn 'C') && !isNoFile (← Sh.machine) name
  let mode : Machine.Mode :=
    match use with
    | .reading => .input
    | .writing => if guarded then .create else .output
    | .overwriting => .output
    | .appending => .append
    | .updating => .update
  match ← Sh.act (Machine.openPath mode name) with
  | .ok description => return description
  | .error cause =>
    let what := if mode.creates then "cannot create " else "cannot open "
    Sh.fail (what.toList ++ name ++ ": ".toList ++ reason mode.creates cause)

/-- Opens a here-document. -/
def openDocument (substitute : Substitute) (number : Nat) : Sh Nat := do
  let t ←
    match (← get).documents.find? fun (n, _) => n == number with
    | none => pure []
    | some (_, d) =>
      if d.expands then Sh.expandText substitute Purpose.document d.content
      else pure (Word.characters d.content)
  let (reading, writing) ← Sh.act Machine.addPipe
  if t ≠ [] then let _ ← Sh.act (Machine.writeThrough writing t)
  Sh.act (Machine.closePipe writing (← Sh.machine).now)
  return reading

/-- Carries out a redirection. -/
def carryOut (substitute : Substitute) (d : Direction) : Sh Unit := do
  match d with
  | .file n use name => Sh.act (Machine.attach n (← openFile use name))
  | .here n document => Sh.act (Machine.attach n (← openDocument substitute document))
  | .same n none => Sh.act (Machine.close n)
  | .same n (some source) =>
    if source ≠ n then
      match (← Sh.machine).description? source with
      | none => Sh.fail (decimal source ++ ": Bad file descriptor".toList)
      | some description => Sh.act (Machine.attach n description)

/-- What descriptors stand for. -/
abbrev Standing := List (Nat × Option Nat)

/-- What the descriptors that redirections change stand for. -/
def standing (m : Machine) (ds : List Direction) : Standing :=
  (ds.map Direction.descriptor).eraseDups.map fun n => (n, m.description? n)

/-- Lets descriptors stand for what they stood for. -/
def restore (before : Standing) : Sh Unit :=
  before.forM fun (n, description) =>
    match description with
    | none => Sh.act (Machine.close n)
    | some d => Sh.act (Machine.attach n d)

/-- Carries out redirections: whether none of them failed.  The failure of one is no more
than a status. -/
def carryOutAll (substitute : Substitute) (ds : List Direction) : Sh Bool := do
  match ← Sh.tried (ds.forM (carryOut substitute)) with
  | .ok _ => return true
  | .error .failure => return false
  | .error stop => throw stop

end Streams

end TextIntake.Tool.Shell
