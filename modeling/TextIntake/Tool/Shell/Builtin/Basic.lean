import TextIntake.Tool.Shell.Streams

set_option autoImplicit false

/-!
# Builtins

What the builtins of a shell have in common: the reading of their options, and values
written so that the shell reads them back.
-/

namespace TextIntake.Tool.Shell

/-- A builtin: from its arguments to a status. -/
abbrev Builtin := List Text → Sh Nat

namespace Builtin

/-- A letter of an option, and whether a value belongs to it. -/
abbrev Letter := Char × Bool

/-- Reads a cluster of option letters: the options, and what is left of the arguments. -/
def cluster (letters : List Letter) : Text → List Text → Sh (List (Char × Text) × List Text)
  | [], rest => return ([], rest)
  | c :: t, rest => do
    match letters.find? fun (l, _) => l == c with
    | none => Sh.fail ("Illegal option -".toList ++ [c])
    | some (_, false) =>
      let (more, rest) ← cluster letters t rest
      return ((c, []) :: more, rest)
    | some (_, true) =>
      match t, rest with
      | [], [] => Sh.fail ("No arg for -".toList ++ c :: " option".toList)
      | [], value :: rest => return ([(c, value)], rest)
      | value, rest => return ([(c, value)], rest)

/-- Reads options with so many chances. -/
def optionsFrom (letters : List Letter) : Nat → List Text → Sh (List (Char × Text) × List Text)
  | 0, arguments => return ([], arguments)
  | chances + 1, arguments => do
    match arguments with
    | ['-', '-'] :: rest => return ([], rest)
    | ('-' :: c :: t) :: rest =>
      let (found, rest) ← cluster letters (c :: t) rest
      let (more, rest) ← optionsFrom letters chances rest
      return (found ++ more, rest)
    | rest => return ([], rest)

/-- Reads the options in front of operands. -/
def options (letters : List Letter) (arguments : List Text) :
    Sh (List (Char × Text) × List Text) :=
  optionsFrom letters (arguments.length + 1) arguments

/-- Reads the options of a builtin that has none. -/
def operands (arguments : List Text) : Sh (List Text) := do
  return (← options [] arguments).2

/-- A text between apostrophes, its own apostrophes between double quotes. -/
def quoted (t : Text) : Text :=
  match Path.splitOn '\'' t with
  | [] => ['\'', '\'']
  | first :: rest => pieces first 0 rest
where
  /-- Writes a piece and those behind it, with so many apostrophes waiting to be written. -/
  pieces (piece : Text) (waiting : Nat) : List Text → Text
    | [] =>
      let marks := List.replicate waiting '\''
      if waiting = 0 then '\'' :: piece ++ ['\'']
      else if piece = [] then '"' :: marks ++ ['"']
      else '"' :: marks ++ '"' :: '\'' :: piece ++ ['\'']
    | next :: rest =>
      if waiting ≠ 0 ∧ piece = [] then pieces next (waiting + 1) rest
      else
        let marks := List.replicate waiting '\''
        let before : Text := if waiting = 0 then [] else '"' :: marks ++ ['"']
        before ++ '\'' :: piece ++ '\'' :: pieces next 1 rest

/-- Writes lines. -/
def putLine (t : Text) : Sh Unit := Sh.put (t ++ ['\n'])

end Builtin

end TextIntake.Tool.Shell
