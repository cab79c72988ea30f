import TextIntake.Tool.Arguments
import TextIntake.Tool.Input

set_option autoImplicit false

/-!
# Copying

`cat` copies its operands one behind the other.  On the way it may number lines, mark
their ends, squeeze empty lines, and show what does not print.
-/

namespace TextIntake.Tool.Cat

/-- What `cat` does to lines. -/
structure Style where
  number : Bool := false
  numberNonBlank : Bool := false
  ends : Bool := false
  squeeze : Bool := false
  tabs : Bool := false
  nonPrinting : Bool := false
  deriving DecidableEq, Repr, Inhabited

/-- How far a copy is. -/
structure Progress where
  /-- the number of the last line that was numbered -/
  line : Nat := 0
  /-- whether a line is to start here -/
  atStart : Bool := true
  /-- how many empty lines came last; more than one count as two -/
  empties : Nat := 0
  /-- whether a carriage return is held back, which the end of the line would show -/
  heldReturn : Bool := false
  deriving DecidableEq, Repr, Inhabited

/-- The next line number, in front of its line. -/
def Progress.numbered (p : Progress) : Text × Progress :=
  (padLeft 6 ' ' (decimal (p.line + 1)) ++ ['\t'], { p with line := p.line + 1 })

/-- A character made visible. -/
def visible (c : Char) : Text :=
  let low (n : Nat) : Text :=
    if n < 32 then ['^', Char.ofNat (n + 64)]
    else if n = 127 then ['^', '?']
    else [Char.ofNat n]
  if c.toNat < 128 then low c.toNat else 'M' :: '-' :: low (c.toNat - 128)

namespace Style

/-- A character inside a line. -/
def shown (s : Style) (c : Char) : Text :=
  if c = '\t' then if s.tabs then ['^', 'I'] else [c]
  else if s.nonPrinting then visible c
  else [c]

/-- Copies the end of a line. -/
def lineEnd (s : Style) (p : Progress) : Text × Progress :=
  let empties := if p.atStart then min 2 (p.empties + 1) else 0
  let p := { p with empties }
  if empties = 2 ∧ s.squeeze then ([], p)
  else
    let (label, p) := if p.atStart ∧ s.number then p.numbered else ([], p)
    let mark : Text :=
      if s.ends then (if p.heldReturn then ['^', 'M', '$'] else ['$'])
      else []
    (label ++ mark ++ ['\n'], { p with atStart := true, heldReturn := false })

/-- Copies a character inside a line. -/
def inLine (s : Style) (p : Progress) (c : Char) : Text × Progress :=
  let held : Text := if p.heldReturn then ['\r'] else []
  let (label, p) :=
    if p.atStart ∧ (s.number ∨ s.numberNonBlank) then p.numbered else ([], p)
  let holds := c = '\r' ∧ s.ends ∧ !s.nonPrinting
  (held ++ label ++ (if holds then [] else s.shown c),
    { p with atStart := false, empties := 0, heldReturn := holds })

/-- Copies a text. -/
def copy (s : Style) : Progress → Text → List Text × Progress
  | p, [] => ([], p)
  | p, c :: t =>
    let (out, p) := if c = '\n' then s.lineEnd p else s.inLine p c
    let (more, p) := copy s p t
    (out :: more, p)

/-- Whether a copy is the same as what is copied. -/
def isPlain (s : Style) : Bool := s == {}

end Style

/-- The options. -/
def forms : List (OptionForm (Style → Style)) := [
  { key := fun s => { s with nonPrinting := true, ends := true, tabs := true }
    letters := ['A'], words := ["show-all"] },
  { key := fun s => { s with numberNonBlank := true }
    letters := ['b'], words := ["number-nonblank"] },
  { key := fun s => { s with nonPrinting := true, ends := true }, letters := ['e'] },
  { key := fun s => { s with ends := true }, letters := ['E'], words := ["show-ends"] },
  { key := fun s => { s with number := true }, letters := ['n'], words := ["number"] },
  { key := fun s => { s with squeeze := true }, letters := ['s'], words := ["squeeze-blank"] },
  { key := fun s => { s with nonPrinting := true, tabs := true }, letters := ['t'] },
  { key := fun s => { s with tabs := true }, letters := ['T'], words := ["show-tabs"] },
  { key := id, letters := ['u'] },
  { key := fun s => { s with nonPrinting := true }
    letters := ['v'], words := ["show-nonprinting"] }]

/-- Whether a copy through a description would feed itself: both ends are one file, and
what is written comes behind what is read. -/
def feedsItself (m : Machine) (description : Nat) : Bool :=
  match m.openings[description]?, m.opening? 1 with
  | some i, some o =>
    match i.target, o.target with
    | .file a, .file b => a == b && (o.appends || i.offset < o.offset)
    | _, _ => false
  | _, _ => false

/-- Copies one operand. -/
def copyOperand (name : Text) (s : Style) (p : Progress) (operand : Text) :
    Act (Bool × Progress) := do
  let shown := Quoting.whereNeeded operand
  match ← openOperand operand with
  | .error cause =>
    complainAbout name shown cause
    return (false, p)
  | .ok d =>
    if feedsItself (← get) d then
      complain name (shown ++ ": input file is output file".toList)
      return (false, p)
    match ← Machine.readAllThrough d with
    | .error cause =>
      complainAbout name shown cause
      return (false, p)
    | .ok t =>
      if s.isPlain then
        say t
        return (true, p)
      let (out, p) := s.copy p t
      say out.flatten
      return (true, p)

end TextIntake.Tool.Cat

namespace TextIntake.Tool

/-- Copies its operands. -/
def cat : Tool := checked 1 <| withArguments 1 false Cat.forms fun name a => do
  let s := a.options.foldl (fun s (change, _) => change s) ({} : Cat.Style)
  let s := { s with number := s.number && !s.numberNonBlank }
  let (ok, p) ← (orStandardInput a.operands).foldlM (fun (ok, p) operand => do
    let (copied, p) ← Cat.copyOperand name s p operand
    return (ok && copied, p)) (true, ({} : Cat.Progress))
  if p.heldReturn then say ['\r']
  return ending ok

end TextIntake.Tool
