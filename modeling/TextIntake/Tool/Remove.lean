import TextIntake.Tool.Arguments
import TextIntake.Tool.Quoting

set_option autoImplicit false

/-!
# Removing files

`rm` removes its operands: files, with `-d` empty directories, with `-r` directories
with all below them.  It may ask before it removes something, and may not mind what is
not there.
-/

namespace TextIntake.Tool.Remove

/-- When to ask. -/
inductive Asking where
  | never
  /-- once, for many operands or whole directories -/
  | once
  | always
  deriving DecidableEq, Repr, Inhabited

/-- What is removed, and how. -/
structure Manner where
  asking : Asking := .never
  ignoresMissing : Bool := false
  below : Bool := false
  emptyDirectories : Bool := false
  tells : Bool := false
  deriving DecidableEq, Repr, Inhabited

/-- The options. -/
def forms : List (OptionForm (Manner → Text → Option Manner)) := [
  { key := fun m _ => some { m with asking := .never, ignoresMissing := true }
    letters := ['f'], words := ["force"] },
  { key := fun m _ => some { m with asking := .always, ignoresMissing := false }
    letters := ['i'] },
  { key := fun m _ => some { m with asking := .once, ignoresMissing := false }
    letters := ['I'] },
  { key := fun m value =>
      match [("never", Asking.never), ("no", .never), ("none", .never), ("once", .once),
          ("always", .always), ("yes", .always)].find?
          fun (w, _) => w.toList == value with
      | some (_, asking) => some { m with asking }
      | none => if value = [] then some { m with asking := .always } else none
    words := ["interactive"], taking := .perhaps },
  { key := fun m _ => some m, words := ["one-file-system"] },
  { key := fun m _ => some m, words := ["no-preserve-root"] },
  { key := fun m _ => some m, words := ["preserve-root"], taking := .perhaps },
  { key := fun m _ => some { m with below := true }
    letters := ['r', 'R'], words := ["recursive"] },
  { key := fun m _ => some { m with emptyDirectories := true }, letters := ['d'],
    words := ["dir"] },
  { key := fun m _ => some { m with tells := true }, letters := ['v'], words := ["verbose"] }]

/-- What comes of an attempt. -/
inductive Outcome where
  | removed
  | declined
  | failed
  deriving DecidableEq, Repr, Inhabited

/-- The worse of two outcomes. -/
def Outcome.and : Outcome → Outcome → Outcome
  | removed, o => o
  | o, removed => o
  | declined, declined => declined
  | _, _ => failed

/-- Asks a question: whether the answer on the standard input starts with a `y`. -/
def ask (name question : Text) : Act Bool := do
  let _ ← Machine.write 2 (name ++ ": ".toList ++ question ++ "? ".toList)
  match ← Machine.readAll 0 with
  | .error _ => return false
  | .ok t =>
    let line := (lines t).headD []
    Machine.unread 0 (t.length - line.length)
    return line.head? == some 'y' || line.head? == some 'Y'

/-- Asks where the manner wants it. -/
def mayGoOn (name : Text) (m : Manner) (question : Text) : Act Bool :=
  if m.asking = .always then ask name question else return true

/-- Complains that something cannot be removed, unless it does not matter. -/
def refuse (name : Text) (m : Manner) (path : Text) (cause : IoFailure) : Act Outcome := do
  if m.ignoresMissing ∧ (cause = .notFound ∨ cause = .notADirectory) then return .removed
  complainAbout name ("cannot remove ".toList ++ Quoting.always path) cause
  return .failed

/-- Reports what was removed. -/
def report (m : Manner) (what path : Text) : Act Unit := do
  if m.tells then say (what ++ Quoting.always path ++ ['\n'])

/-- Removes a file. -/
def removeFile (name : Text) (m : Manner) (path : Text) : Act Outcome := do
  let machine ← get
  let size : Nat := match machine.find path with
    | .ok (_, .file n) => (machine.content n).size
    | _ => 0
  let kind := if size = 0 then "remove regular empty file " else "remove regular file "
  if !(← mayGoOn name m (kind.toList ++ Quoting.always path)) then return .declined
  match ← Machine.unlink path with
  | .error cause => refuse name m path cause
  | .ok _ =>
    report m "removed ".toList path
    return .removed

/-- Removes a directory that should be empty by now. -/
def removeDirectory (name : Text) (m : Manner) (path : Text) : Act Outcome := do
  if !(← mayGoOn name m ("remove directory ".toList ++ Quoting.always path)) then
    return .declined
  match ← Machine.removeDirectory path with
  | .error cause => refuse name m path cause
  | .ok _ =>
    report m "removed directory ".toList path
    return .removed

/-- Removes what a path leads to, so many directories deep. -/
def remove (name : Text) (m : Manner) : Nat → Text → Act Outcome
  | 0, _ => return .failed
  | depth + 1, path => do
    let machine ← get
    match machine.find path with
    | .error cause => refuse name m path cause
    | .ok (_, .directory) =>
      let children := (machine.list path).mergeSort fun a b => compareText a b != .gt
      if !m.below then
        if m.emptyDirectories then
          if children = [] then removeDirectory name m path else refuse name m path .notEmpty
        else refuse name m path .isADirectory
      else
        let goesOn ←
          if children = [] then pure true
          else mayGoOn name m ("descend into directory ".toList ++ Quoting.always path)
        if !goesOn then return .declined
        let front := if path.getLast? = some '/' then path else path ++ ['/']
        let below ← children.foldlM (fun o child => do
          return o.and (← remove name m depth (front ++ child))) Outcome.removed
        if below = .removed then removeDirectory name m path else return below
    | .ok _ => removeFile name m path

/-- Whether a path ends in `.` or `..`, whatever slashes follow. -/
def endsInDots (path : Text) : Bool :=
  let bare := (path.reverse.dropWhile (· == '/')).reverse
  let last := (Path.splitOn '/' bare).getLastD []
  last == ['.'] || last == ['.', '.']

/-- Removes an operand.  The places `.` and `..` stay. -/
def removeOperand (name : Text) (m : Manner) (path : Text) : Act Outcome := do
  if (m.below ∨ m.emptyDirectories) ∧ endsInDots path then
    complain name ("refusing to remove '.' or '..' directory: skipping ".toList ++
      Quoting.always path)
    return .failed
  remove name m Tree.maxPath path

/-- The question that is asked once for all operands. -/
def question? (m : Manner) (operands : List Text) : Option Text :=
  let n := operands.length
  if m.asking = .once ∧ (m.below ∨ 3 < n) then
    some ("remove ".toList ++ decimal n ++ (if n = 1 then " argument" else " arguments").toList ++
      (if m.below then " recursively" else "").toList)
  else none

end TextIntake.Tool.Remove

namespace TextIntake.Tool

/-- Removes files and directories. -/
def rm : Tool := checked 1 <| withArguments 1 false Remove.forms fun name a => do
  match a.options.foldlM (fun m (change, value) => change m value) ({} : Remove.Manner) with
  | none =>
    complain name "invalid argument for '--interactive'".toList
    pointToHelp name
    return .exited 1
  | some m =>
    if a.operands = [] then
      if m.ignoresMissing then return .exited 0
      complain name "missing operand".toList
      pointToHelp name
      return .exited 1
    let agreed ←
      match Remove.question? m a.operands with
      | some q => Remove.ask name q
      | none => pure true
    if !agreed then return .exited 0
    let m := if m.asking = .once then { m with asking := .never } else m
    let outcome ← a.operands.foldlM (fun o path => do
      return o.and (← Remove.removeOperand name m path)) Remove.Outcome.removed
    return ending (outcome != .failed)

end TextIntake.Tool
