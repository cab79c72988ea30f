import TextIntake.Tool.Arguments
import TextIntake.Tool.Count
import TextIntake.Tool.Input

set_option autoImplicit false

/-!
# The ends of an input

`head` copies the start of each operand and `tail` the end, counted in lines or in
octets, from the near end or from the far one.  With several operands each copy
stands under a heading.
-/

namespace TextIntake.Tool

namespace Ends

/-- When copies stand under headings. -/
inductive Headings where
  | several
  | always
  | never
  deriving DecidableEq, Repr, Inhabited

/-- How much of an input is asked for. -/
structure Amount where
  count : Nat := 10
  octets : Bool := false
  /-- whether the count is taken from the far end: all but the last, or from there on -/
  fromFar : Bool := false
  headings : Headings := .several
  terminator : Char := '\n'
  /-- whether to wait for more at the end -/
  follows : Bool := false
  /-- whether what is waited for is the name and not the open file -/
  followsName : Bool := false
  deriving DecidableEq, Repr, Inhabited

/-- The units of a text. -/
def Amount.units (a : Amount) (t : Text) : List Text :=
  if a.octets then t.map fun c => [c] else piecesEnding a.terminator t

/-- What the counted units are called. -/
def Amount.unitName (a : Amount) : Text :=
  "number of ".toList ++ (if a.octets then "bytes" else "lines").toList

/-- The letters of the units that counts may have. -/
def countUnits : Text := "bkKmMGTPEZYRQ".toList

/-- The options of both tools. -/
inductive Flag where
  | lines
  | octets
  | quiet
  | verbose
  | zero
  | follow
  | followName
  /-- an option that changes nothing here -/
  | idle
  | digit (c : Char)
  deriving DecidableEq, Repr, Inhabited

/-- The options that both tools have. -/
def commonForms : List (OptionForm Flag) := [
  { key := .octets, letters := ['c'], words := ["bytes"], taking := .value },
  { key := .lines, letters := ['n'], words := ["lines"], taking := .value },
  { key := .quiet, letters := ['q'], words := ["quiet", "silent"] },
  { key := .verbose, letters := ['v'], words := ["verbose"] },
  { key := .zero, letters := ['z'], words := ["zero-terminated"] }] ++
    (range '0' '9').map fun c => { key := .digit c, letters := [c] }

/-- What is wrong with a call. -/
structure Complaint where
  message : Text
  /-- whether to point to the help -/
  helps : Bool := false
  deriving DecidableEq, Repr, Inhabited

/-- Complains, and ends. -/
def Complaint.end (c : Complaint) (name : Text) : Act ExitStatus := do
  complain name c.message
  if c.helps then pointToHelp name
  return .exited 1

/-- An amount with a count that is still to be read. -/
def Amount.withCount (a : Amount) (value : Text) : Except Complaint Amount :=
  match Count.read countUnits value with
  | .ok count => .ok { a with count }
  | .error fault => .error ⟨Count.complaint a.unitName value fault, false⟩

/-- An amount with an option that takes no value. -/
def Amount.withFlag (a : Amount) : Flag → Amount
  | .quiet => { a with headings := .never }
  | .verbose => { a with headings := .always }
  | .zero => { a with terminator := Char.ofNat 0 }
  | .follow => { a with follows := true }
  | .followName => { a with follows := true, followsName := true }
  | _ => a

/-- The heading of an operand. -/
def heading (first : Bool) (operand : Text) : Text :=
  (if first then [] else ['\n']) ++ "==> ".toList ++ shownOperand operand ++ " <==\n".toList

/-- Whether copies of so many operands stand under headings. -/
def Amount.showsHeadings (a : Amount) (operands : Nat) : Bool :=
  a.headings == .always || (a.headings == .several && 1 < operands)

/-- How far a tool is with its operands. -/
structure Progress where
  ok : Bool := true
  /-- whether no heading was written yet -/
  isFirst : Bool := true
  /-- whether a failure ended everything -/
  isStopped : Bool := false
  deriving DecidableEq, Repr, Inhabited

/-- Copies a part of an operand under its heading. -/
def copyOperand (name : Text) (shows stops : Bool) (copy : Nat → Act (Except IoFailure Unit))
    (p : Progress) (operand : Text) : Act Progress := do
  if p.isStopped then return p
  let what := Quoting.always (shownOperand operand)
  match ← openOperand operand with
  | .error cause =>
    complainAbout name ("cannot open ".toList ++ what ++ " for reading".toList) cause
    return { p with ok := false }
  | .ok d =>
    if shows then say (heading p.isFirst operand)
    match ← copy d with
    | .ok _ => return { p with isFirst := false }
    | .error cause =>
      complainAbout name ("error reading ".toList ++ what) cause
      return { ok := false, isFirst := false, isStopped := stops }

/-- Copies parts of operands, each under its heading; `stops` tells whether one that cannot
be read is the last. -/
def copyAll (name : Text) (a : Amount) (stops : Bool) (operands : List Text)
    (copy : Nat → Act (Except IoFailure Unit)) : Act Bool := do
  let shows := a.showsHeadings operands.length
  return (← operands.foldlM (copyOperand name shows stops copy) {}).ok

end Ends

open Ends

/-! ## head -/

namespace Head

/-- How much is read at once. -/
def block : Nat := 8192

/-- Copies so many lines, reading block by block; what was read too much is given back. -/
def copyLines (d : Nat) (terminator : Char) : Nat → Nat → Act (Except IoFailure Unit)
  | 0, _ => return .ok ()
  | _, 0 => return .ok ()
  | rounds + 1, count => do
    match ← Machine.readThrough d block with
    | .error cause => return .error cause
    | .ok [] => return .ok ()
    | .ok t =>
      let units := piecesEnding terminator t
      let taken := (units.take count).flatten
      say taken
      let whole := taken.count terminator
      if whole < count then copyLines d terminator rounds (count - whole)
      else
        giveBack d (t.length - taken.length)
        return .ok ()

/-- Copies so many octets. -/
def copyOctets (d : Nat) : Nat → Nat → Act (Except IoFailure Unit)
  | 0, _ => return .ok ()
  | _, 0 => return .ok ()
  | rounds + 1, count => do
    match ← Machine.readThrough d (min block count) with
    | .error cause => return .error cause
    | .ok [] => return .ok ()
    | .ok t =>
      say t
      copyOctets d rounds (count - t.length)

/-- Copies the start of what a description stands for. -/
def copy (a : Amount) (d : Nat) : Act (Except IoFailure Unit) := do
  if a.fromFar then
    match ← Machine.readAllThrough d with
    | .error cause => return .error cause
    | .ok t =>
      let units := a.units t
      let kept := (units.take (units.length - a.count)).flatten
      say kept
      giveBack d (t.length - kept.length)
      return .ok ()
  else if a.count = 0 then return .ok ()
  else if a.octets then copyOctets d Machine.fullWork a.count
  else copyLines d a.terminator Machine.fullWork a.count

/-- Reads the letters behind the number of an argument such as `-5c`. -/
def withLetters : Amount → Nat → Text → Except Char (Amount × Nat)
  | a, unit, [] => .ok (a, unit)
  | a, unit, c :: t =>
    if c = 'c' then withLetters { a with octets := true } 1 t
    else if c = 'b' then withLetters { a with octets := true } 512 t
    else if c = 'k' then withLetters { a with octets := true } 1024 t
    else if c = 'm' then withLetters { a with octets := true } 0x100000 t
    else if c = 'l' then withLetters { a with octets := false } unit t
    else if c = 'q' then withLetters { a with headings := .never } unit t
    else if c = 'v' then withLetters { a with headings := .always } unit t
    else if c = 'z' then withLetters { a with terminator := Char.ofNat 0 } unit t
    else .error c

/-- The amount that a first argument such as `-5` asks for, and the other arguments. -/
def leading (arguments : List Text) : Except Char (Amount × List Text) :=
  match arguments with
  | ('-' :: c :: t) :: rest =>
    if Character.isDecimalDigit c then
      let digits := (c :: t).takeWhile Character.isDecimalDigit
      (withLetters {} 1 ((c :: t).drop digits.length)).map fun (a, unit) =>
        ({ a with count := (number? digits).getD 0 * unit }, rest)
    else .ok ({}, arguments)
  | _ => .ok ({}, arguments)

/-- The options. -/
def forms : List (OptionForm Flag) :=
  commonForms ++ [{ key := .idle, words := ["-presume-input-pipe"] }]

/-- An amount with one more option. -/
def withOption (a : Amount) (option : Flag × Text) : Except Complaint Amount :=
  let (flag, value) := option
  match flag with
  | .lines => counted a false value
  | .octets => counted a true value
  | .digit c => .error ⟨"invalid trailing option -- ".toList ++ [c], true⟩
  | flag => .ok (a.withFlag flag)
where
  /-- An amount with a count, of which a hyphen in front says that it is left out. -/
  counted (a : Amount) (octets : Bool) (value : Text) : Except Complaint Amount :=
    let fromFar := value.head? == some '-'
    { a with octets, fromFar }.withCount (if fromFar then value.drop 1 else value)

end Head

/-- Copies the start of its operands. -/
def head : Tool := checked 1 fun name arguments =>
  match Head.leading arguments with
  | .error c => Complaint.end ⟨"invalid trailing option -- ".toList ++ [c], true⟩ name
  | .ok (a, arguments) =>
    let body (name : Text) (read : Arguments Flag) : Act ExitStatus :=
      match read.options.foldlM Head.withOption a with
      | .error c => c.end name
      | .ok a => do
        return ending (← copyAll name a false (orStandardInput read.operands) (Head.copy a))
    withArguments 1 false Head.forms body name arguments

/-! ## tail -/

namespace Tail

/-- Copies the end of what a description stands for. -/
def copy (a : Amount) (d : Nat) : Act (Except IoFailure Unit) := do
  match ← Machine.readAllThrough d with
  | .error cause => return .error cause
  | .ok t =>
    let units := a.units t
    let skipped := if a.fromFar then a.count - 1 else units.length - a.count
    say (units.drop skipped).flatten
    return .ok ()

/-- The options. -/
def forms : List (OptionForm Flag) :=
  commonForms ++ [
    { key := .follow, letters := ['f'] },
    { key := .followName, letters := ['F'] },
    { key := .follow, words := ["follow"], taking := .perhaps },
    { key := .idle, letters := ['s'], words := ["sleep-interval"], taking := .value },
    { key := .idle, words := ["max-unchanged-stats"], taking := .value },
    { key := .idle, words := ["pid"], taking := .value },
    { key := .idle, words := ["retry"] },
    { key := .idle, words := ["-presume-input-pipe"] }]

/-- An amount with one more option. -/
def withOption (a : Amount) (option : Flag × Text) : Except Complaint Amount :=
  let (flag, value) := option
  match flag with
  | .lines => counted a false value
  | .octets => counted a true value
  | .digit c => .error ⟨"option used in invalid context -- ".toList ++ [c], false⟩
  | .follow =>
    if value = [] ∨ value.isPrefixOf "descriptor".toList then .ok (a.withFlag .follow)
    else if value.isPrefixOf "name".toList then .ok (a.withFlag .followName)
    else
      .error ⟨"invalid argument ".toList ++ Quoting.always value ++
        " for '--follow'\nValid arguments are:\n  - 'descriptor'\n  - 'name'".toList, true⟩
  | flag => .ok (a.withFlag flag)
where
  /-- An amount with a count.  A plus in front says that it is taken from the start. -/
  counted (a : Amount) (octets : Bool) (value : Text) : Except Complaint Amount :=
    let a := { a with octets }
    match value with
    | '+' :: _ => { a with fromFar := true }.withCount value
    | '-' :: value => a.withCount value
    | value => a.withCount value

/-- What an only argument such as `+5` or `-5c` asks for.  At most one operand may stand
behind it. -/
def leading? (arguments : List Text) : Option (Amount × List Text) :=
  match arguments with
  | first :: rest =>
    let alone :=
      match rest with
      | [] => true
      | [operand] => operand.head? != some '-' || operand == ['-'] || operand == "--".toList
      | [second, _] => second == "--".toList
      | _ => false
    match first with
    | sign :: t =>
      let digits := t.takeWhile Character.isDecimalDigit
      let letters := t.drop digits.length
      let (size, octets, more) : Nat × Bool × Text :=
        match letters with
        | 'b' :: more => (512, true, more)
        | 'c' :: more => (1, true, more)
        | 'l' :: more => (1, false, more)
        | more => (1, false, more)
      let isForm : Bool := sign == '+' || (sign == '-' && t != [] && t != ['c'])
      if alone && isForm && (more == [] || more == ['f']) then
        let count := (number? digits).getD 10 * size
        some ({ count, octets, fromFar := sign = '+', follows := more = ['f'] }, rest)
      else none
    | [] => none
  | [] => none

/-- Whether a description is a pipe. -/
def isPipe (m : Machine) (d : Nat) : Bool :=
  match m.openings[d]? with
  | some { target := .pipe _, .. } => true
  | _ => false

/-- Waits for more of the operands that can be followed.  Pipes are not. -/
def follow (name : Text) (operands : List Text) : Act Bool := do
  let m ← get
  let isOpen (operand : Text) : Bool :=
    if operand = standardInput then
      ((m.description? 0).map fun d => !isPipe m d).getD false
    else (m.find operand).isOk
  if operands.any isOpen then
    Machine.hang
    return true
  else if operands.all (· == standardInput) then return true
  else
    complain name "no files remaining".toList
    return false

end Tail

/-- Copies the end of its operands. -/
def tail : Tool := checked 1 fun name arguments =>
  let copyEnds (a : Amount) (operands : List Text) : Act ExitStatus := do
    let operands := orStandardInput operands
    if a.followsName ∧ operands.contains standardInput then
      Complaint.end ⟨"cannot follow '-' by name".toList, false⟩ name
    else if a.count = 0 ∧ !a.follows ∧ !a.fromFar then return .exited 0
    else
      let stops := a.octets || (a.fromFar && a.count ≤ 1)
      let ok ← copyAll name a stops operands (Tail.copy a)
      let followed ← if a.follows then Tail.follow name operands else pure true
      return ending (ok && followed)
  let body (a : Amount) (name : Text) (read : Arguments Flag) : Act ExitStatus :=
    match read.options.foldlM Tail.withOption a with
    | .error c => c.end name
    | .ok a => copyEnds a read.operands
  match Tail.leading? arguments with
  | some (a, arguments) => withArguments 1 false Tail.forms (body a) name arguments
  | none => withArguments 1 false Tail.forms (body {}) name arguments

end TextIntake.Tool
