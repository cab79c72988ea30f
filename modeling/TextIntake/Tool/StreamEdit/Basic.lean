import TextIntake.Tool.Pattern.Search

set_option autoImplicit false

/-!
# Editing scripts

What an editing script is made of.  A script is a row of instructions, each with the
lines that it applies to.  Blocks and branches name the places in the row at which the
editing goes on.
-/

namespace TextIntake.Tool.StreamEdit

/-- An expression to search for. -/
structure Expression where
  program : Pattern.Program
  /-- what ends lines inside a text, so that anchors hold there -/
  lineEnd : Option Char := none
  /-- whether the case of letters does not count -/
  foldCase : Bool := false
  /-- whether it stands where no text of its groups is asked for -/
  isAddress : Bool := false
  deriving Inhabited

/-- What tells lines. -/
inductive Address where
  | line (n : Nat)
  /-- the line `first` and every one that stands a multiple of `step` behind it -/
  | every (first step : Nat)
  | last
  /-- the lines that match; without an expression the one that was used last -/
  | matching (e : Option Expression)
  /-- so many lines more -/
  | further (n : Nat)
  /-- up to a multiple of a number -/
  | multiple (n : Nat)
  deriving Inhabited

/-- The lines that an instruction applies to. -/
structure Selection where
  first : Option Address := none
  second : Option Address := none
  negated : Bool := false
  deriving Inhabited

/-- What happens to the case of letters. -/
inductive Casing where
  | asIs
  | upper
  | lower
  deriving DecidableEq, Repr, Inhabited

/-- The case of a letter changed. -/
def Casing.apply : Casing → Char → Char
  | asIs, c => c
  | upper, c => c.toUpper
  | lower, c => c.toLower

/-- What happens to the first letter, and what to all others. -/
structure CaseChange where
  first : Casing := .asIs
  others : Casing := .asIs
  deriving DecidableEq, Repr, Inhabited

/-- A text with its letters changed. -/
def CaseChange.apply (change : CaseChange) : Text → Text
  | [] => []
  | c :: t =>
    (if change.first = .asIs then change.others.apply c else change.first.apply c) ::
      t.map change.others.apply

/-- A piece of a replacement: a text, and behind it what a group matched. -/
structure Piece where
  text : Text := []
  group : Option Nat := none
  change : CaseChange := {}
  deriving DecidableEq, Repr, Inhabited

/-- A substitution. -/
structure Substitution where
  expression : Option Expression
  pieces : List Piece := []
  /-- whether all matches are replaced from the first one on that counts -/
  all : Bool := false
  /-- the number of the first match that counts -/
  start : Nat := 1
  printsBefore : Bool := false
  /-- whether the result is a command whose output replaces it -/
  evaluates : Bool := false
  printsAfter : Bool := false
  output : Option Nat := none
  deriving Inhabited

/-- The largest group that a replacement asks for. -/
def Substitution.groups (s : Substitution) : Nat :=
  s.pieces.foldl (fun n piece => max n (piece.group.getD 0)) 0

/-- When an editing goes on elsewhere. -/
inductive Condition where
  | always
  /-- a substitution was made since the last line was read, or since the last such test -/
  | replaced
  | notReplaced
  deriving DecidableEq, Repr, Inhabited

/-- What an instruction does.  Outputs and inputs are given by their numbers. -/
inductive Action where
  /-- does nothing -/
  | mark
  /-- a block that goes up to a place -/
  | block (stop : Nat)
  | branch (when : Condition) (place : Nat)
  | append (text : Text)
  | insert (text : Text)
  | change (text : Text)
  | delete
  | deleteFirst
  /-- runs the text of the space as a command, or a command of its own -/
  | execute (command : Option Text)
  | name
  | get
  | getMore
  | hold
  | holdMore
  | swap
  | list (width : Option Nat)
  | next
  | nextMore
  | number
  | print
  | printFirst
  | quit (code : Nat)
  | quitSilently (code : Nat)
  | readFile (name : Text)
  | readLine (input : Nat)
  | substitute (s : Substitution)
  | transliterate (table : List (Char × Char))
  | write (output : Nat)
  | writeFirst (output : Nat)
  | clear
  deriving Inhabited

/-- An instruction. -/
structure Instruction where
  selection : Selection := {}
  action : Action
  deriving Inhabited

/-- How scripts are read and carried out. -/
structure Settings where
  quiet : Bool := false
  extended : Bool := false
  /-- whether every file is edited on its own -/
  separate : Bool := false
  /-- whether files are replaced by what they are edited to, and the name under which
  the old one is kept, with an asterisk for its name -/
  inPlace : Option Text := none
  terminator : Char := '\n'
  /-- whether nothing more is read than needed, and all written at once -/
  unbuffered : Bool := false
  strict : Bool := false
  sandbox : Bool := false
  /-- the width of listed lines -/
  width : Nat := 70
  deriving DecidableEq, Repr, Inhabited

/-- Something that is written to. -/
structure Sink where
  name : Text := []
  /-- the number of the description; without one it is the standard output -/
  description : Option Nat := none
  /-- whether the last line that was written still lacks its end -/
  lacksEnd : Bool := false
  deriving DecidableEq, Repr, Inhabited

/-- Something that is read line by line. -/
structure Feed where
  name : Text := []
  description : Option Nat := none
  /-- what was read and not taken yet -/
  ahead : Text := []
  ended : Bool := false
  deriving DecidableEq, Repr, Inhabited

/-- A script that was read. -/
structure Script where
  instructions : Array Instruction := #[]
  /-- the first is the main output -/
  sinks : Array Sink := #[{}]
  /-- the first is the standard input -/
  feeds : Array Feed := #[{ name := "/dev/stdin".toList }]
  /-- whether the first line asks for no output by default -/
  quiet : Bool := false
  /-- where messages about a running script point to -/
  origin : Text := []
  deriving Inhabited

end TextIntake.Tool.StreamEdit
