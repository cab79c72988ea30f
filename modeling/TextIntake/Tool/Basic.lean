import TextIntake.Machine.Basic

set_option autoImplicit false

/-!
# Text tools

The programs that a host offers.  A tool gets the name it was called by and its
arguments; it reads, writes and ends as a process of the machine.  All text is a
text of octets.
-/

namespace TextIntake

/-- A tool. -/
abbrev Tool := Text → List Text → Act ExitStatus

namespace Tool

/-- The name of a tool, without the directory it is usually in. -/
def baseName (name : Text) : Text :=
  let strip (directory : String) (t : Text) : Option Text :=
    if directory.toList.isPrefixOf t then some (t.drop directory.length) else none
  ((strip "/usr/bin/" name).or (strip "/bin/" name)).getD name

/-! ## Output -/

/-- Writes to the standard output.  A failure is kept for the end. -/
def say (t : Text) : Act Unit := do
  match ← Machine.write 1 t with
  | .ok _ => return
  | .error cause =>
    modify fun m => { m with process := { m.process with outputFailure := some cause } }

/-- Writes a message to the standard error. -/
def complain (name message : Text) : Act Unit := do
  let _ ← Machine.write 2 (name ++ ": ".toList ++ message ++ ['\n'])

/-- Writes a message about an operand and why it failed. -/
def complainAbout (name what : Text) (cause : IoFailure) : Act Unit :=
  complain name (what ++ ": ".toList ++ cause.reason.toList)

/-- Points to the help after a wrong call. -/
def pointToHelp (name : Text) : Act Unit := do
  let text := "Try '".toList ++ name ++ " --help' for more information.\n".toList
  let _ ← Machine.write 2 text

/-- Ends with success or failure. -/
def ending (ok : Bool) : ExitStatus := .exited (if ok then 0 else 1)

/-- A tool that fails with `code` when its output could not be written. -/
def checked (code : Nat) (tool : Tool) : Tool := fun name arguments => do
  modify fun m => { m with process := { m.process with outputFailure := none } }
  let status ← tool name arguments
  match (← get).process.outputFailure with
  | none => return status
  | some cause =>
    complainAbout name "write error".toList cause
    return .exited code

/-! ## Characters -/

/-- A number in decimal digits. -/
def number? (t : Text) : Option Nat :=
  if t ≠ [] ∧ t.all Character.isDecimalDigit then
    some (t.foldl (fun n c => n * 10 + (c.toNat - 0x30)) 0)
  else none

/-- An octal digit. -/
def isOctal (c : Char) : Bool := '0' ≤ c && c ≤ '7'

/-- The number that octal digits write. -/
def octal (digits : Text) : Nat := digits.foldl (fun n c => n * 8 + (c.toNat - 0x30)) 0

/-- The octet given by octal digits. -/
def octalByte (digits : Text) : Char := Char.ofNat (octal digits % 256)

/-- The value of a hexadecimal digit. -/
def hexValue? (c : Char) : Option Nat :=
  if Character.isDecimalDigit c then some (c.toNat - 0x30)
  else if 'a' ≤ c ∧ c ≤ 'f' then some (c.toNat - 0x61 + 10)
  else if 'A' ≤ c ∧ c ≤ 'F' then some (c.toNat - 0x41 + 10)
  else none

/-- The number that hexadecimal digits write. -/
def hexadecimal (digits : Text) : Nat :=
  digits.foldl (fun n c => n * 16 + (hexValue? c).getD 0) 0

/-- A number as text. -/
def decimal (n : Nat) : Text := (toString n).toList

/-- The text filled up in front to a width. -/
def padLeft (width : Nat) (fill : Char) (t : Text) : Text :=
  List.replicate (width - t.length) fill ++ t

/-- The octets from `a` to `b`. -/
def range (a b : Char) : Text :=
  (List.range (b.toNat + 1 - a.toNat)).map fun i => Char.ofNat (a.toNat + i)

/-- The named classes of octets. -/
def classes : List (String × Text) :=
  let upper := range 'A' 'Z'
  let lower := range 'a' 'z'
  let digit := range '0' '9'
  let blank := ['\t', ' ']
  let control := range (Char.ofNat 0) (Char.ofNat 31) ++ [Char.ofNat 127]
  let graph := range '!' '~'
  [("upper", upper), ("lower", lower), ("digit", digit), ("alpha", upper ++ lower),
    ("alnum", digit ++ upper ++ lower), ("blank", blank),
    ("space", range '\t' '\r' ++ [' ']), ("cntrl", control), ("graph", graph),
    ("print", ' ' :: graph),
    ("punct", graph.filter fun c => !c.isAlphanum),
    ("xdigit", digit ++ range 'A' 'F' ++ range 'a' 'f')]

/-- The octets of a named class. -/
def class? (name : Text) : Option Text :=
  (classes.find? fun (n, _) => n.toList == name).map Prod.snd

/-- Whether an octet is a space, a tab or ends a line or a page. -/
def isSpace (c : Char) : Bool := c == ' ' || ('\t' ≤ c && c ≤ '\r')

/-- Whether an octet prints as itself. -/
def isPrintable (c : Char) : Bool := ' ' ≤ c && c ≤ '~'

/-- A letter or an underscore. -/
def isNameStart (c : Char) : Bool := c.isAlpha || c == '_'

/-- A letter, a digit or an underscore. -/
def isNamePart (c : Char) : Bool := c.isAlphanum || c == '_'

/-- The letters that stand for control characters behind a backslash. -/
def controlLetters : List (Char × Char) := [
  ('a', Char.ofNat 7), ('b', Char.ofNat 8), ('f', Char.ofNat 12), ('n', '\n'), ('r', '\r'),
  ('t', '\t'), ('v', Char.ofNat 11)]

/-- The character that a letter stands for behind a backslash. -/
def control? (c : Char) : Option Char :=
  (controlLetters.find? fun (letter, _) => letter == c).map Prod.snd

/-- Order of texts, octet by octet. -/
def compareText : Text → Text → Ordering
  | [], [] => .eq
  | [], _ :: _ => .lt
  | _ :: _, [] => .gt
  | a :: s, b :: t => if a < b then .lt else if b < a then .gt else compareText s t

/-! ## Lines -/

/-- The pieces of a text that end in `terminator`, each with it; the last may lack
it. -/
def piecesEnding (terminator : Char) : Text → List Text
  | [] => []
  | c :: t =>
    if c = terminator then [c] :: piecesEnding terminator t
    else
      match piecesEnding terminator t with
      | [] => [[c]]
      | l :: ls => (c :: l) :: ls

/-- The lines of a text, each with its line feed; the last may lack it. -/
def lines (t : Text) : List Text := piecesEnding '\n' t

/-- A piece without its terminator. -/
def chomp (terminator : Char) (piece : Text) : Text :=
  if piece.getLast? = some terminator then piece.dropLast else piece

end Tool

end TextIntake
