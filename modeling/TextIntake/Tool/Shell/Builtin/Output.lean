import TextIntake.Tool.Print
import TextIntake.Tool.Shell.Builtin.Basic

set_option autoImplicit false

/-!
# Builtins that write

`echo` resolves escapes in its arguments.  `printf` knows the conversions of numbers,
characters and texts, and those of floating numbers in double precision.
-/

namespace TextIntake.Tool.Shell.Builtin

open Print

/-- The escapes in arguments. -/
def argumentEscapes : Escapes := { zero := true, stop := true }

/-- The escapes in formats. -/
def formatEscapes : Escapes := {}

/-- Writes arguments with spaces between them, until one of them ends the output: whether
that was so. -/
def echoAll : List Text → Sh Bool
  | [] => return false
  | t :: rest => do
    let u := unescape argumentEscapes t
    Sh.put u.text
    if u.stopped then return true
    if !rest.isEmpty then Sh.put [' ']
    echoAll rest

/-- Writes its arguments. -/
def echo : Builtin := fun arguments => do
  let isOpen := arguments.head? = some ['-', 'n']
  let isStopped ← echoAll (if isOpen then arguments.drop 1 else arguments)
  if !isStopped ∧ !isOpen then Sh.put ['\n']
  return 0

/-! ## Formats -/

/-- Reads the conversion behind a percent sign. -/
def directive (t : Text) : Print.Piece × Nat :=
  let flags := t.takeWhile "#-+ 0".toList.contains
  let measure (t : Text) : Measure × Text :=
    match t with
    | '*' :: rest => (.argument, rest)
    | t =>
      let digits := t.takeWhile Character.isDecimalDigit
      ((number? digits).elim .absent .number, t.drop digits.length)
  let (width, rest) := measure (t.drop flags.length)
  let (precision, rest) : Measure × Text :=
    match rest with
    | '.' :: rest =>
      match measure rest with
      | (.absent, rest) => (.number 0, rest)
      | found => found
    | rest => (.absent, rest)
  let length := t.length - rest.length
  match rest.head? with
  | none => (.fault "missing format character".toList, length)
  | some letter =>
    if ("bcs".toList ++ integerLetters ++ floatingLetters).contains letter then
      (.directive { flags, width, precision, letter }, length + 1)
    else (.fault ('%' :: t.take (length + 1) ++ ": invalid directive".toList), length + 1)

/-- How formats are read. -/
def grammar : Grammar where
  escapes := formatEscapes
  directive := directive

/-- How far the writing is. -/
structure Writing where
  left : List Text
  status : Nat := 0
  isOver : Bool := false
  deriving DecidableEq, Repr, Inhabited

/-- Complains about what was not read of a number. -/
def checkNumber (argument : Text) (isThere outOfRange : Bool) (rest : Text) : Sh Bool := do
  if rest ≠ [] then
    Sh.warn (argument ++ (if isThere then ": not completely converted"
      else ": expected numeric value").toList)
    return false
  else if outOfRange then
    Sh.warn (argument ++ ": Numerical result out of range".toList)
    return false
  else return true

/-- Reads an integer argument; `signed` tells of which kind. -/
def integer (signed : Bool) (argument : Text) : Sh (Int × Bool) := do
  match argument with
  | '"' :: rest | '\'' :: rest => return ((rest.headD (Char.ofNat 0)).toNat, true)
  | _ =>
    let d := Sh.readInteger 0 argument
    let n : Numeral := { value := d.exact }
    let n := if signed then n.signed else n.unsigned
    return (n.value, ← checkNumber argument d.isThere n.outOfRange d.rest)

/-- Reads a floating argument. -/
def floating (argument : Text) : Sh (Floating × Bool) := do
  match argument with
  | '"' :: rest | '\'' :: rest =>
    return (.finite false ⟨(rest.headD (Char.ofNat 0)).toNat, 0⟩, true)
  | _ =>
    match Floating.read? .double argument with
    | some r => return (r.value, ← checkNumber argument true r.outOfRange r.rest)
    | none => return (.finite false ⟨0, 0⟩, ← checkNumber argument false false argument)

/-- Takes an argument for a measure. -/
def takeMeasure (m : Measure) (w : Writing) : Sh (Option Int × Writing) := do
  match m with
  | .absent => return (none, w)
  | .number n => return (some n, w)
  | .argument =>
    match w.left with
    | [] => return (some 0, w)
    | argument :: left =>
      let (n, ok) ← integer true argument
      return (some n, { w with left, status := if ok then w.status else 1 })

/-- Writes one conversion. -/
def convert (d : Directive) (w : Writing) : Sh Writing := do
  let (width, w) ← takeMeasure d.width w
  let (precision, w) ← takeMeasure d.precision w
  let c := d.conversion width precision
  let argument? := w.left.head?
  let argument := argument?.getD []
  let w := { w with left := w.left.drop 1 }
  let after (ok : Bool) : Writing := if ok then w else { w with status := 1 }
  if c.letter = 'b' then
    let u := unescape argumentEscapes argument
    Sh.put (c.text u.text)
    return { w with isOver := u.stopped }
  else if c.letter = 's' then
    Sh.put (c.text argument)
    return w
  else if c.letter = 'c' then
    Sh.put (c.char argument)
    return w
  else if integerLetters.contains c.letter then
    let (n, ok) ← if argument?.isNone then pure (0, true)
      else integer (c.letter == 'd' || c.letter == 'i') argument
    Sh.put (c.integer n)
    return after ok
  else
    let (x, ok) ← if argument = [] then pure (.finite false ⟨0, 0⟩, true) else floating argument
    Sh.put (c.floating .double x)
    return after ok

/-- Writes a format once. -/
def once : List Print.Piece → Writing → Sh Writing
  | [], w => return w
  | piece :: rest, w => do
    if w.isOver then return w
    match piece with
    | .text t =>
      Sh.put t
      once rest w
    | .stop => return { w with isOver := true }
    | .fault message => Sh.fail message
    | .directive d => once rest (← convert d w)

/-- Writes a format until the arguments are used up. -/
def repeated (format : List Print.Piece) : Nat → Writing → Sh Writing
  | 0, w => return w
  | fuel + 1, w => do
    let before := w.left.length
    let w ← once format w
    if w.isOver || w.left.isEmpty || w.left.length = before then return w
    repeated format fuel w

/-- Writes its arguments by a format. -/
def printf : Builtin := fun arguments => do
  match ← operands arguments with
  | [] => Sh.fail "usage: printf format [arg ...]".toList
  | format :: rest =>
    let w ← repeated (pieces grammar format) (rest.length + 1) { left := rest }
    return w.status

end TextIntake.Tool.Shell.Builtin
