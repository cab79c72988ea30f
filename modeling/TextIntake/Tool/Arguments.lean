import TextIntake.Tool.Basic

set_option autoImplicit false

/-!
# Arguments of tools

Options are letters behind one hyphen, alone or in clusters, or words behind two,
which may be cut short as long as they stay unambiguous.  An option may take a
value, which stands behind it or in the next argument.  `--` ends the options; all
else is an operand.
-/

namespace TextIntake.Tool

/-- Whether an option takes a value. -/
inductive Taking where
  | nothing
  | value
  /-- a value only where it stands behind the option -/
  | perhaps
  deriving DecidableEq, Repr, Inhabited

/-- An option of a tool, which stands for `α`. -/
structure OptionForm (α : Type) where
  key : α
  letters : Text := []
  words : List String := []
  taking : Taking := .nothing
  deriving Inhabited

/-- Why arguments cannot be read. -/
inductive ArgumentFault where
  | unknownLetter (c : Char)
  | unknownWord (word : Text)
  | ambiguous (word : Text) (words : List String)
  | letterWithoutValue (c : Char)
  | wordWithoutValue (word : String)
  | wordWithValue (word : String)
  deriving DecidableEq, Repr, Inhabited

/-- The wording of a fault. -/
def ArgumentFault.message : ArgumentFault → Text
  | unknownLetter c => "invalid option -- '".toList ++ [c, '\'']
  | unknownWord word => "unrecognized option '--".toList ++ word ++ ['\'']
  | ambiguous word words =>
    "option '--".toList ++ word ++ "' is ambiguous; possibilities:".toList ++
      words.flatMap fun w => " '--".toList ++ w.toList ++ ['\'']
  | letterWithoutValue c => "option requires an argument -- '".toList ++ [c, '\'']
  | wordWithoutValue word => s!"option '--{word}' requires an argument".toList
  | wordWithValue word => s!"option '--{word}' doesn't allow an argument".toList

/-- Arguments that were read. -/
structure Arguments (α : Type) where
  options : List (α × Text) := []
  operands : List Text := []
  deriving Inhabited

namespace Arguments

variable {α : Type}

/-- One more option in front. -/
def withOption (a : Arguments α) (key : α) (value : Text) : Arguments α :=
  { a with options := (key, value) :: a.options }

/-- One more operand in front. -/
def withOperand (a : Arguments α) (operand : Text) : Arguments α :=
  { a with operands := operand :: a.operands }

/-- What a cluster of letters says: its options, and whether the last of them takes the
next argument for its value. -/
structure Cluster (α : Type) where
  options : List (α × Text) := []
  open? : Option (α × Char) := none
  deriving Inhabited

/-- Reads a cluster of letters. -/
def cluster (forms : List (OptionForm α)) : Text → Except ArgumentFault (Cluster α)
  | [] => .ok {}
  | c :: t =>
    match forms.find? fun f => f.letters.contains c with
    | none => .error (.unknownLetter c)
    | some f =>
      match f.taking, t with
      | .nothing, _ =>
        (cluster forms t).map fun k => { k with options := (f.key, []) :: k.options }
      | .value, [] => .ok { open? := some (f.key, c) }
      | _, value => .ok { options := [(f.key, value)] }

/-- The option that a word names, whole or cut short. -/
def form? (forms : List (OptionForm α)) (word : Text) :
    Except ArgumentFault (OptionForm α × String) :=
  let named := forms.flatMap fun f => f.words.map fun w => (f, w)
  match named.find? fun (_, w) => w.toList == word with
  | some found => .ok found
  | none =>
    match named.filter fun (_, w) => word.isPrefixOf w.toList with
    | [] => .error (.unknownWord word)
    | found :: others =>
      if others.all fun (f, _) => f.words == found.1.words then .ok found
      else .error (.ambiguous word ((found :: others).map Prod.snd))

/-- The part of a word in front of the first `=`, and the value behind it. -/
def splitWord (t : Text) : Text × Option Text :=
  (t.takeWhile (· ≠ '='),
    if t.contains '=' then some ((t.dropWhile (· ≠ '=')).drop 1) else none)

/-- Reads arguments.  Operands end the options when `strict` holds; otherwise options may
stand behind them. -/
def read (forms : List (OptionForm α)) (strict : Bool) :
    List Text → Except ArgumentFault (Arguments α)
  | [] => .ok {}
  | argument :: rest =>
    match argument with
    | ['-', '-'] => .ok { operands := rest }
    | '-' :: '-' :: word => do
      let (word, value) := splitWord word
      let (f, name) ← form? forms word
      match f.taking, value, rest with
      | .nothing, some _, _ => .error (.wordWithValue name)
      | .value, none, [] => .error (.wordWithoutValue name)
      | .value, none, next :: rest => return (← read forms strict rest).withOption f.key next
      | _, value, rest => return (← read forms strict rest).withOption f.key (value.getD [])
    | '-' :: c :: letters => do
      let k ← cluster forms (c :: letters)
      match k.open?, rest with
      | none, rest =>
        let a ← read forms strict rest
        return { a with options := k.options ++ a.options }
      | some (_, c), [] => .error (.letterWithoutValue c)
      | some (key, _), next :: rest =>
        let a ← read forms strict rest
        return { a with options := k.options ++ (key, next) :: a.options }
    | _ =>
      if strict then .ok { operands := argument :: rest }
      else (read forms strict rest).map (·.withOperand argument)

end Arguments

/-- A tool that reads its arguments by their forms; a wrong call ends with `code`. -/
def withArguments {α : Type} (code : Nat) (strict : Bool) (forms : List (OptionForm α))
    (body : Text → Arguments α → Act ExitStatus) : Tool := fun name arguments =>
  match Arguments.read forms strict arguments with
  | .ok a => body name a
  | .error fault => do
    complain name fault.message
    pointToHelp name
    return .exited code

end TextIntake.Tool
