import TextIntake.Tool.Shell.Builtin.Basic

set_option autoImplicit false

/-!
# Builtins that read

`read` takes a line from the standard input, octet by octet, and splits it into
variables.  `getopts` takes one option after the other from operands.
-/

namespace TextIntake.Tool.Shell.Builtin

/-- A line that is being read. -/
structure Reading where
  line : Expanded := {}
  /-- where the region starts that is still open -/
  start : Nat := 0
  /-- whether a backslash came last -/
  isEscaped : Bool := false
  deriving Inhabited

/-- Closes the open region. -/
def Reading.close (r : Reading) : Expanded := r.line.region r.start false

/-- Reads a line: the line, and whether its end was found. -/
def readLineFrom (raw : Bool) : Nat → Reading → Sh (Expanded × Bool)
  | 0, r => return (r.close, false)
  | fuel + 1, r => do
    Sh.spend 1
    match ← Sh.act (Machine.read 0 1) with
    | .error _ | .ok [] => return (r.close, false)
    | .ok (c :: _) =>
      if c = Glyph.gap then readLineFrom raw fuel r
      else if r.isEscaped then
        let line := r.close
        let line := if c = '\n' then line else line.append [.guarded c]
        readLineFrom raw fuel { line, start := line.glyphs.size }
      else if !raw ∧ c = '\\' then readLineFrom raw fuel { r with isEscaped := true }
      else if c = '\n' then return (r.close, true)
      else readLineFrom raw fuel { r with line := r.line.append [.plain c] }

/-- Gives variables the values of fields; those for which there is none become empty. -/
def assignFields : List Text → List (List Glyph) → Sh Unit
  | [], _ => return
  | name :: names, fields => do
    Sh.assignNamed name (some (Glyph.text (fields.headD []))) false
    assignFields names (fields.drop 1)

/-- Reads a line into variables. -/
def read : Builtin := fun arguments => do
  let (options, names) ← options [('p', true), ('r', false)] arguments
  if names = [] then Sh.fail "arg count".toList
  let raw := options.any fun (c, _) => c == 'r'
  let (line, isComplete) ← readLineFrom raw Machine.fullWork {}
  let separators := (← get).separators
  assignFields names (Splitting.split separators (some names.length) line)
  return if isComplete then 0 else 1

/-! ## Options of operands -/

/-- What an option letter means by a list of letters: whether it takes a value; none for
a letter that is not in the list. -/
def meaning? (c : Char) : Text → Option Bool
  | [] => none
  | x :: ':' :: rest => if x = c then some true else meaning? c rest
  | x :: rest => if x = c then some false else meaning? c rest

/-- Takes the next option from operands. -/
def takeOption (letters name : Text) (operands : List Text) : Sh Nat := do
  let s ← get
  let quiet := letters.head? == some ':'
  let letters := if quiet then letters.drop 1 else letters
  let index := s.optionIndex
  let last := (operands[index - 2]?).getD []
  let started : Text :=
    match s.optionOffset with
    | some offset => if index ≤ 1 ∨ last.length < offset then [] else last.drop offset
    | none => []
  let set (target value : Text) : Sh Unit := Sh.assignNamed target (some value) false
  let optionValue := "OPTARG".toList
  let finish (index : Nat) (offset : Option Nat) (c : Char) (status : Nat) : Sh Nat := do
    Sh.assign "OPTIND".toList (some (decimal index)) false
    set name [c]
    modify fun s => { s with optionIndex := index, optionOffset := offset }
    return status
  let report (index : Nat) (offset : Option Nat) (c : Char) (marker : Char) (message : String) :
      Sh Nat := do
    if quiet then
      set optionValue [c]
      finish index offset marker 0
    else
      Sh.writeError (message.toList ++ c :: (if marker = ':' then " option\n" else "\n").toList)
      Sh.unset optionValue
      finish index offset '?' 0
  let operand := (operands[index - 1]?).getD []
  let (isEnd, letter?, index) : Bool × Text × Nat :=
    if started ≠ [] then (false, started, index)
    else
      match operand with
      | ['-', '-'] => (true, [], index + 1)
      | '-' :: c :: t => (false, c :: t, index + 1)
      | _ => (true, [], index)
  match letter? with
  | [] => finish index none '?' 1
  | c :: rest =>
    if isEnd then finish index none '?' 1
    else
      let used := ((operands[index - 2]?).getD []).length - rest.length
      match meaning? c letters with
      | none => report index (some used) c '?' "Illegal option -"
      | some false =>
        set optionValue []
        finish index (some used) c 0
      | some true =>
        match rest, operands[index - 1]? with
        | [], none => report index none c ':' "No arg for -"
        | [], some value =>
          set optionValue value
          finish (index + 1) none c 0
        | value, _ =>
          set optionValue value
          finish index none c 0

/-- Takes the next option. -/
def getopts : Builtin := fun arguments => do
  match arguments with
  | letters :: name :: operands =>
    let s ← get
    let operands := if operands = [] then s.positional else operands
    if operands.length + 1 < s.optionIndex then
      modify fun s => { s with optionIndex := 1, optionOffset := none }
    takeOption letters name operands
  | _ => Sh.fail "Usage: getopts optstring var [arg...]".toList

end TextIntake.Tool.Shell.Builtin
