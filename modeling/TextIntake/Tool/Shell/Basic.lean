import TextIntake.Tool.Basic

set_option autoImplicit false

/-!
# Shell commands

What a shell runs, as data.  A word is a list of pieces that stay apart until the word
is expanded: characters, of which those behind a quote are guarded, the marks where a
quotation starts and ends, and what is to be substituted.  A command is simple or made
of others.  A here-document is read behind the line that asks for it; a command
mentions it by a number.
-/

namespace TextIntake.Tool.Shell

/-- What is done with the value of a parameter. -/
inductive Treatment where
  | plain
  | length
  /-- a word stands in for a value that is missing -/
  | otherwise
  /-- a word stands in for a value that is there -/
  | instead
  /-- a value that is missing is a failure, worded by the word -/
  | required
  /-- a word becomes the value that is missing -/
  | assigned
  /-- what fits a pattern is cut from the end -/
  | withoutEnd (longest : Bool)
  /-- what fits a pattern is cut from the start -/
  | withoutStart (longest : Bool)
  /-- something else, which fails when it is expanded -/
  | unknown
  deriving DecidableEq, Repr, Inhabited

/-- How a redirection uses a file. -/
inductive FileUse where
  | reading
  | writing
  /-- writing over what is there, whatever the options say -/
  | overwriting
  | appending
  | updating
  deriving DecidableEq, Repr, Inhabited

mutual

/-- A piece of a word. -/
inductive Piece where
  | bare (c : Char)
  | guarded (c : Char)
  /-- the start or the end of a quotation -/
  | quote
  | parameter (name : Text) (treatment : Treatment) (orNull : Bool) (word : List Piece)
  | output (command : Option Command)
  | arithmetic (expression : List Piece)

/-- A redirection of a descriptor. -/
inductive Redirection where
  | file (descriptor : Nat) (use : FileUse) (name : List Piece)
  /-- the descriptor becomes another one, or is closed -/
  | same (descriptor : Nat) (source : Option Nat)
  /-- a word tells which descriptor it becomes -/
  | named (descriptor : Nat) (source : List Piece)
  | here (descriptor : Nat) (document : Nat)

/-- A command.  Where a message or a variable may tell the line, it is kept. -/
inductive Command where
  | simple (line : Nat) (assignments words : List (List Piece)) (redirections : List Redirection)
  | pipeline (commands : List Command) (background : Bool)
  | redirected (line : Nat) (body : Command) (redirections : List Redirection)
  | background (body : Command) (redirections : List Redirection)
  | subshell (line : Nat) (body : Command) (redirections : List Redirection)
  | both (first second : Command)
  | either (first second : Command)
  | sequence (first second : Command)
  | not (body : Command)
  | choice (condition yes : Command) (no : Option Command)
  | loop (condition body : Command) (untilTrue : Bool)
  | each (line : Nat) (name : Text) (words : List (List Piece)) (body : Command)
  | select (line : Nat) (word : List Piece)
      (branches : List (List (List Piece) × Option Command))
  | definition (line : Nat) (name : Text) (body : Command)

end

instance : Inhabited Piece := ⟨.quote⟩
instance : Inhabited Redirection := ⟨.same 0 none⟩
instance : Inhabited Command := ⟨.simple 0 [] [] []⟩

/-- The names of the builtins that no function can take. -/
def specialNames : List Text :=
  [".", ":", "break", "continue", "eval", "exec", "exit", "export", "local", "readonly", "return",
    "set", "shift", "times", "trap", "unset"].map String.toList

/-- A word. -/
abbrev Word := List Piece

/-- A here-document. -/
structure Document where
  /-- whether what it holds is expanded -/
  expands : Bool
  content : Word
  deriving Inhabited

/-- The characters that a word shows, without regard to what is substituted. -/
def Word.characters (w : Word) : Text :=
  w.filterMap fun
    | .bare c | .guarded c => some c
    | _ => none

/-- The text of a word that holds bare characters only. -/
def Word.bare? : Word → Option Text
  | [] => some []
  | .bare c :: w => (bare? w).map (c :: ·)
  | _ :: _ => none

/-- The bare characters that a word starts with. -/
def Word.leading : Word → Text
  | .bare c :: w => c :: leading w
  | _ => []

/-- Whether a text is a name. -/
def isName (t : Text) : Bool :=
  match t with
  | [] => false
  | c :: t => isNameStart c && t.all isNamePart

/-- The name that a text starts with. -/
def leadingName (t : Text) : Text :=
  match t with
  | [] => []
  | c :: rest => if isNameStart c then c :: rest.takeWhile isNamePart else []

/-- Whether a word is an assignment. -/
def Word.isAssignment (w : Word) : Bool :=
  let t := Word.leading w
  let name := leadingName t
  name ≠ [] && (t.drop name.length).head? == some '='

end TextIntake.Tool.Shell
