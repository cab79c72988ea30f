import TextIntake.Number.Floating
import TextIntake.Tool.Arguments
import TextIntake.Tool.Quoting

set_option autoImplicit false

/-!
# Letting time pass

`sleep` waits for the sum of its operands, each a number of seconds, or of minutes,
hours or days.  `true` and `false` do not even wait.
-/

namespace TextIntake.Tool

namespace Sleep

/-- The seconds in the unit that stands behind a number. -/
def unit? : Text → Option Nat
  | [] | ['s'] => some 1
  | ['m'] => some 60
  | ['h'] => some 3600
  | ['d'] => some 86400
  | _ => none

/-- The milliseconds that an operand names.  What is begun counts in full. -/
def span? (t : Text) : Option Nat := do
  let r ← Floating.read? .extended t
  let unit ← unit? r.rest
  match r.value with
  | .finite negative size =>
    let (n, d) := size.fraction
    if negative ∧ n ≠ 0 then none
    some (min Machine.never ((n * unit * 1000 + d - 1) / d))
  | .infinite false => some Machine.never
  | _ => none

end Sleep

/-- Waits for the sum of the operands. -/
def Sleep.body (name : Text) (a : Arguments Unit) : Act ExitStatus := do
  let wrong := a.operands.filter fun t => (Sleep.span? t).isNone
  if wrong ≠ [] then
    wrong.forM fun t => complain name ("invalid time interval ".toList ++ Quoting.always t)
    pointToHelp name
    return .exited 1
  else
    Machine.pass ((a.operands.map fun t => (Sleep.span? t).getD 0).foldl (· + ·) 0)
    return .exited 0

/-- Lets time pass. -/
def sleep : Tool := fun name arguments => do
  if arguments = [] then
    complain name "missing operand".toList
    pointToHelp name
    return .exited 1
  else withArguments 1 true [] Sleep.body name arguments

/-- A tool that ends with a code and does nothing else. -/
def always (code : Nat) : Tool := fun _ _ => return .exited code

end TextIntake.Tool
