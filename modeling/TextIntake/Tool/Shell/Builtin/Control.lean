import TextIntake.Tool.Shell.Jobs

set_option autoImplicit false

/-!
# Builtins that steer

Leaving loops, functions and the shell, the directory in which a shell is, and a few
settings of its process.
-/

namespace TextIntake.Tool.Shell.Builtin

/-- Ends with a status and does nothing else. -/
def constantly (status : Nat) : Builtin := fun _ => return status

/-- Leaves loops, or rounds of them. -/
def leaveLoops (skip : Nat → Skip) : Builtin := fun arguments => do
  let n ← match arguments.head? with
    | some t => do
      let n ← Sh.count t
      if n = 0 then Sh.failNumber t
      pure n
    | none => pure 1
  let n := min n (← get).loops
  if n ≠ 0 then modify fun s => { s with skip := skip n }
  return 0

/-- Leaves a function or a file. -/
def return_ : Builtin := fun arguments => do
  match arguments with
  | [] =>
    modify fun s => { s with skip := .keeping }
    return (← get).status
  | t :: _ =>
    let n ← Sh.count t
    modify fun s => { s with skip := .function }
    return n

/-- Ends the shell. -/
def exit : Builtin := fun arguments => do
  match arguments.head? with
  | some t => throw (.exit (some (← Sh.count t)))
  | none => throw (.exit none)

/-! ## Directories -/

/-- The path of a place. -/
def pathOf (place : List Text) : Text :=
  if place = [] then ['/'] else place.flatMap fun n => '/' :: Octets.ofText n

/-- Goes to a directory: whether that could be done. -/
def enterDirectory (path : Text) : Sh Bool := do
  let m ← Sh.machine
  match m.find path with
  | .ok (place, .directory) =>
    let old := pathOf m.process.place
    Sh.act (set { m with process := { m.process with place } })
    Sh.assign "OLDPWD".toList (some old) true
    Sh.assign "PWD".toList (some (pathOf place)) true
    return true
  | _ => return false

/-- Whether a path is not looked for in other directories. -/
def isDirect (path : Text) : Bool :=
  path.head? == some '/' || [['.'], ['.', '.']].contains (path.takeWhile (· ≠ '/'))

/-- The directory that a path means: in which of others it is found, and whether the way is
to be shown. -/
def findDirectory (m : Machine) (path : Text) : List Text → Text × Bool
  | [] => (path, false)
  | d :: rest =>
    let candidate := if d = [] then path else d ++ '/' :: path
    match m.find candidate with
    | .ok (_, .directory) => (candidate, d ≠ [])
    | _ => findDirectory m path rest

/-- Goes to a directory. -/
def cd : Builtin := fun arguments => do
  let (_, rest) ← options [('L', false), ('P', false)] arguments
  let s ← get
  let (target, shows) : Text × Bool :=
    match rest.head? with
    | none => ((s.value? "HOME".toList).getD [], false)
    | some ['-'] => ((s.value? "OLDPWD".toList).getD [], true)
    | some t => (t, false)
  let wanted := if target = [] then ['.'] else target
  let others := match s.value? "CDPATH".toList with
    | some t => Path.splitOn ':' t
    | none => []
  let m ← Sh.machine
  let (path, found) :=
    if isDirect target then (target, false) else findDirectory m wanted others
  if ← enterDirectory path then
    if shows ∨ found then putLine (pathOf (← Sh.machine).process.place)
    return 0
  else Sh.fail ("can't cd to ".toList ++ wanted)

/-- Writes the directory. -/
def pwd : Builtin := fun arguments => do
  let _ ← options [('L', false), ('P', false)] arguments
  putLine (pathOf (← Sh.machine).process.place)
  return 0

/-! ## Settings -/

/-- The rights that octal digits leave, in letters. -/
def rights (digit : Nat) : Text :=
  [(4, 'r'), (2, 'w'), (1, 'x')].filterMap fun (bit, c) =>
    if (digit / bit) % 2 = 0 then some c else none

/-- Sets what is taken from the rights of new files, or writes it. -/
def umask : Builtin := fun arguments => do
  let (options, rest) ← options [('S', false)] arguments
  let mask := (← get).mask
  match rest.head? with
  | none =>
    if options ≠ [] then
      putLine ("u=".toList ++ rights (mask / 64) ++ ",g=".toList ++ rights (mask / 8 % 8) ++
        ",o=".toList ++ rights (mask % 8))
    else putLine (padLeft 4 '0' (Nat.toDigits 8 mask))
    return 0
  | some t =>
    if t.head?.any Character.isDecimalDigit then
      if t.all isOctal then
        modify fun s => { s with mask := octal t % 512 }
        return 0
      else Sh.failNumber t
    else return 0

/-- Writes how much time was used. -/
def times : Builtin := fun _ => do
  putLine "0m0.000000s 0m0.000000s".toList
  putLine "0m0.000000s 0m0.000000s".toList
  return 0

/-- Writes a limit; there are none. -/
def ulimit : Builtin := fun arguments => do
  if arguments.all fun t => t.head? = some '-' then putLine "unlimited".toList
  return 0

/-- Forgets, or shows, where commands were found. -/
def hash : Builtin := fun arguments => do
  if arguments.head? = some ['-', 'r'] then modify fun s => { s with found := [] }
  return 0

/-- Refuses to resume a process. -/
def resume : Builtin := fun _ => Sh.fail "No current job".toList

end TextIntake.Tool.Shell.Builtin
