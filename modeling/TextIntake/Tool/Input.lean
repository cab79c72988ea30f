import TextIntake.Tool.Quoting

set_option autoImplicit false

/-!
# Inputs of tools

An operand names a file; `-` stands for the standard input, which is also read when
there is no operand at all.
-/

namespace TextIntake.Tool

/-- The operand that stands for the standard input. -/
def standardInput : Text := ['-']

/-- Operands, or the standard input when there are none. -/
def orStandardInput (operands : List Text) : List Text :=
  if operands = [] then [standardInput] else operands

/-- Opens an operand: the number of its description. -/
def openOperand (operand : Text) : Act (Except IoFailure Nat) := do
  if operand = standardInput then
    match (← get).description? 0 with
    | some d => return .ok d
    | none => return .error .badDescriptor
  else Machine.openPath .input operand

/-- The name of an operand in headings and messages. -/
def shownOperand (operand : Text) : Text :=
  if operand = standardInput then "standard input".toList else operand

/-- Gives back what was read too much through a description, where that can be done. -/
def giveBack (description count : Nat) : Act Unit := do
  match (← get).openings[description]? with
  | some { target := .file _, .. } =>
    Machine.changeOpening description fun o => { o with offset := o.offset - count }
  | _ => return

end TextIntake.Tool
