import TextIntake.Tool.Shell.Builtin.Basic

set_option autoImplicit false

/-!
# Builtins for what a shell remembers

Variables, positional parameters, options and aliases.
-/

namespace TextIntake.Tool.Shell.Builtin

/-- Entries in the order of their names. -/
def byName {α : Type} (entries : List (Text × α)) : List (Text × α) :=
  entries.mergeSort fun a b => compareText a.1 b.1 != .gt

/-! ## Variables -/

/-- Writes variables, each behind a word if there is one. -/
def showVariables (word : Text) (isShown : Variable → Bool) : Sh Nat := do
  (byName (← get).vars).forM fun (name, v) => do
    if isShown v then
      let value := match v.value with
        | some t => '=' :: quoted t
        | none => []
      putLine ((if word = [] then [] else word ++ [' ']) ++ name ++ value)
  return 0

/-- Marks variables, or writes those that are marked. -/
def marking (word : String) (isMarked : Variable → Bool) (mark : Variable → Variable) :
    Builtin := fun arguments => do
  let (options, names) ← options [('p', false)] arguments
  if options ≠ [] ∨ names = [] then showVariables word.toList isMarked
  else
    names.forM fun t => do
      let (name, value) := Sh.splitAssignment t
      Sh.checkName name
      if value.isSome then Sh.assign name value false
      Sh.mark name mark
    return 0

/-- Marks variables for programs. -/
def export_ : Builtin :=
  marking "export" Variable.exported fun v => { v with exported := true }

/-- Marks variables that stay as they are. -/
def readonly : Builtin :=
  marking "readonly" Variable.readOnly fun v => { v with readOnly := true }

/-- Makes variables local to the function that runs. -/
def local_ : Builtin := fun names => do
  if (← get).locals.isEmpty then Sh.fail "not in a function".toList
  names.forM fun t => do
    if t ≠ ['-'] then Sh.checkName (Sh.splitAssignment t).1
    Sh.makeLocal t false
  return 0

/-- Removes variables or functions. -/
def unset : Builtin := fun arguments => do
  let (options, names) ← options [('v', false), ('f', false)] arguments
  let isFunction := (options.getLast?.map Prod.fst) == some 'f'
  names.forM fun name => do
    if isFunction then
      modify fun s => { s with functions := erase s.functions name }
    else
      Sh.checkName name
      Sh.unset name
  return 0

/-! ## Options and parameters -/

/-- The names of the options and their letters; two of them have none. -/
def optionNames : List (String × Option Char) := [
  ("errexit", some 'e'), ("noglob", some 'f'), ("ignoreeof", some 'I'),
  ("interactive", some 'i'), ("monitor", some 'm'), ("noexec", some 'n'), ("stdin", some 's'),
  ("xtrace", some 'x'), ("verbose", some 'v'), ("vi", some 'V'), ("emacs", some 'E'),
  ("noclobber", some 'C'), ("allexport", some 'a'), ("notify", some 'b'),
  ("nounset", some 'u'), ("nolog", none), ("debug", none)]

/-- Switches an option on or off. -/
def switch (letter : Char) (on : Bool) : Sh Unit :=
  modify fun s =>
    let others := s.options.filter (· ≠ letter)
    let others := if on ∧ letter = 'V' then others.filter (· ≠ 'E')
      else if on ∧ letter = 'E' then others.filter (· ≠ 'V') else others
    { s with options := if on then letter :: others else others }

/-- The sign in front of an option. -/
def sign (on : Bool) : Char := if on then '-' else '+'

/-- Switches the option with a letter. -/
def switchLetter (letter : Char) (on : Bool) : Sh Unit := do
  if optionNames.any fun (_, l) => l == some letter then switch letter on
  else Sh.fail ("Illegal option ".toList ++ [sign on, letter])

/-- Switches the option with a name; without one it writes all options. -/
def switchName (name : Option Text) (on : Bool) : Sh Unit := do
  let s ← get
  let isOn (l : Option Char) : Bool := l.any s.options.contains
  match name with
  | none =>
    if on then
      putLine "Current option settings".toList
      optionNames.forM fun (n, l) =>
        let padding := List.replicate (16 - n.length) ' '
        putLine (n.toList ++ padding ++ (if isOn l then "on" else "off").toList)
    else
      optionNames.forM fun (n, l) =>
        putLine ("set ".toList ++ [sign (isOn l), 'o', ' '] ++ n.toList)
  | some name =>
    match optionNames.find? fun (n, _) => n.toList == name with
    | some (_, some letter) => switch letter on
    | some (_, none) => return
    | none => Sh.fail ("Illegal option ".toList ++ [sign on, 'o', ' '] ++ name)

/-- Switches a cluster of options: what is left of the arguments, and whether `c` was among
the letters, where that is one. -/
def switchCluster (atStart on : Bool) : Text → List Text → Sh (List Text × Bool)
  | [], rest => return (rest, false)
  | letter :: t, rest => do
    if letter = 'c' ∧ atStart then
      let (rest, _) ← switchCluster atStart on t rest
      return (rest, true)
    else if letter = 'o' then
      switchName rest.head? on
      switchCluster atStart on t (rest.drop 1)
    else
      switchLetter letter on
      switchCluster atStart on t rest

/-- What options leave. -/
structure Switched where
  rest : List Text
  /-- whether a command was asked for -/
  wantsCommand : Bool := false
  /-- whether the parameters are to be set even when there are none -/
  setsParameters : Bool := false
  deriving Inhabited

/-- Switches options, at the start of the shell or later. -/
def switchAll (atStart : Bool) : Nat → List Text → Sh Switched
  | 0, rest => return { rest }
  | fuel + 1, arguments => do
    let go (on : Bool) (letters : Text) (rest : List Text) : Sh Switched := do
      let (rest, wantsCommand) ← switchCluster atStart on letters rest
      let x ← switchAll atStart fuel rest
      return { x with wantsCommand := x.wantsCommand || wantsCommand }
    match arguments with
    | ['-'] :: rest =>
      if !atStart then
        switch 'x' false
        switch 'v' false
      return { rest }
    | ['-', '-'] :: rest => return { rest, setsParameters := !atStart }
    | ('-' :: letters) :: rest => go true letters rest
    | ('+' :: letters) :: rest => go false letters rest
    | rest => return { rest }

/-- Sets the positional parameters. -/
def setParameters (parameters : List Text) : Sh Unit :=
  modify fun s =>
    { s with positional := parameters, optionIndex := 1, optionOffset := none }

/-- Sets options and parameters, or writes all variables. -/
def set_ : Builtin := fun arguments => do
  if arguments = [] then showVariables [] fun v => v.value.isSome
  else
    let x ← switchAll false (arguments.length + 1) arguments
    if x.rest ≠ [] ∨ x.setsParameters then setParameters x.rest
    return 0

/-- Drops parameters. -/
def shift : Builtin := fun arguments => do
  let n ← match arguments.head? with
    | some t => Sh.count t
    | none => pure 1
  if (← get).positional.length < n then Sh.fail "can't shift that many".toList
  modify fun s =>
    { s with positional := s.positional.drop n, optionIndex := 1, optionOffset := none }
  return 0

/-! ## Aliases -/

/-- The place of an alias in the order in which all are written. -/
def aliasRank (name : Text) : Nat :=
  let first := (name.headD (Char.ofNat 0)).toNat
  (name.foldl (fun n c => n + c.toNat) (first * 16)) % 39

/-- Writes an alias. -/
def showAlias (name value : Text) : Sh Unit := putLine (name ++ '=' :: quoted value)

/-- Sets aliases, or writes them. -/
def setAliases : Builtin := fun arguments => do
  if arguments = [] then
    let aliases := (← get).aliases
    (aliases.mergeSort fun a b => aliasRank a.1 ≤ aliasRank b.1).forM fun (n, v) => showAlias n v
    return 0
  else
    arguments.foldlM (fun status t => do
      let start := t.take 1
      let (name, value) := Sh.splitAssignment (t.drop 1)
      let name := start ++ name
      match value with
      | some value =>
        modify fun s => { s with aliases := enter s.aliases name value }
        return status
      | none =>
        match lookup? (← get).aliases name with
        | some value =>
          showAlias name value
          return status
        | none =>
          Sh.writeError ("alias: ".toList ++ name ++ " not found\n".toList)
          return 1) 0

/-- Removes aliases. -/
def unalias : Builtin := fun arguments => do
  let (options, names) ← options [('a', false)] arguments
  if options ≠ [] then
    modify fun s => { s with aliases := [] }
    return 0
  else
    names.foldlM (fun status name => do
      if (lookup? (← get).aliases name).isNone then
        Sh.writeError ("unalias: ".toList ++ name ++ " not found\n".toList)
        return 1
      else
        modify fun s => { s with aliases := erase s.aliases name }
        return status) 0

end TextIntake.Tool.Shell.Builtin
