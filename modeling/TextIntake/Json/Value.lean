import TextIntake.Text.Basic

set_option autoImplicit false

/-!
# JSON values and their written forms

A value is written in one line, or spread over lines with two blanks for every
level.  A string is written with the short escapes where there are any, with
`\u00xx` for the other control characters, and as it is otherwise.
-/

namespace TextIntake.Json

/-- A JSON value without fractions. -/
inductive Value where
  | null
  | bool (b : Bool)
  | number (n : Nat)
  | text (t : Text)
  | array (items : List Value)
  | object (members : List (String × Value))
  deriving Repr, Inhabited

/-! ## Strings -/

/-- A hexadecimal digit. -/
def hexDigit (n : Nat) : Char := Nat.digitChar n

/-- The characters with a short escape, and the letters behind the backslash. -/
def shortEscapes : List (Char × Char) := [
  ('"', '"'), ('\\', '\\'), (Char.ofNat 8, 'b'), (Char.ofNat 9, 't'), (Char.ofNat 10, 'n'),
  (Char.ofNat 12, 'f'), (Char.ofNat 13, 'r')]

/-- A character inside a string. -/
def writeChar (c : Char) : Text :=
  match shortEscapes.find? fun (d, _) => d == c with
  | some (_, letter) => ['\\', letter]
  | none =>
    if c.toNat < 0x20 then
      ['\\', 'u', '0', '0', hexDigit (c.toNat / 16), hexDigit (c.toNat % 16)]
    else [c]

/-- A string with its quotes. -/
def writeString (t : Text) : Text := '"' :: t.flatMap writeChar ++ ['"']

/-! ## Values -/

/-- A value that holds no others. -/
def writeScalar : Value → Text
  | .null => "null".toList
  | .bool true => "true".toList
  | .bool false => "false".toList
  | .number n => (toString n).toList
  | .text t => writeString t
  | .array _ | .object _ => []

namespace Value

mutual

/-- A value in one line. -/
def compact : Value → Text
  | .array items => '[' :: compactItems items ++ [']']
  | .object members => '\x7b' :: compactMembers members ++ ['\x7d']
  | v => writeScalar v

/-- Items in one line. -/
def compactItems : List Value → Text
  | [] => []
  | [v] => compact v
  | v :: vs => compact v ++ ',' :: compactItems vs

/-- Members in one line. -/
def compactMembers : List (String × Value) → Text
  | [] => []
  | [(name, v)] => writeString name.toList ++ ':' :: compact v
  | (name, v) :: ms => writeString name.toList ++ ':' :: compact v ++ ',' :: compactMembers ms

end

/-- The start of a line at a level. -/
def newLine (level : Nat) : Text := '\n' :: List.replicate (2 * level) ' '

mutual

/-- A value spread over lines, at a level. -/
def pretty (level : Nat) : Value → Text
  | .array [] => ['[', ']']
  | .array (v :: vs) => '[' :: prettyItems (level + 1) (v :: vs) ++ newLine level ++ [']']
  | .object [] => ['\x7b', '\x7d']
  | .object (m :: ms) => '\x7b' :: prettyMembers (level + 1) (m :: ms) ++ newLine level ++ ['\x7d']
  | v => writeScalar v

/-- Items, each in lines of its own. -/
def prettyItems (level : Nat) : List Value → Text
  | [] => []
  | [v] => newLine level ++ pretty level v
  | v :: vs => newLine level ++ pretty level v ++ ',' :: prettyItems level vs

/-- Members, each in lines of its own. -/
def prettyMembers (level : Nat) : List (String × Value) → Text
  | [] => []
  | [(name, v)] => newLine level ++ writeString name.toList ++ ':' :: ' ' :: pretty level v
  | (name, v) :: ms =>
    newLine level ++ writeString name.toList ++ ':' :: ' ' :: pretty level v ++
      ',' :: prettyMembers level ms

end

end Value

end TextIntake.Json
