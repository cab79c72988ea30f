import TextIntake.Tool.Arguments
import TextIntake.Tool.Count
import TextIntake.Tool.Input
import TextIntake.Tool.Sorting.Key

set_option autoImplicit false

/-!
# Sorting lines

`sort` writes the lines of all its operands in order, or merges operands that are in
order, or tells whether one is.
-/

namespace TextIntake.Tool.Sorting

/-! ## Written keys -/

/-- What is wrong with a written key. -/
inductive KeyFault where
  | noNumber (what : String) (t : Text)
  | badField (what : String)
  deriving DecidableEq, Repr, Inhabited

/-- The wording of what is wrong with a key. -/
def KeyFault.message (written : Text) : KeyFault → Text
  | noNumber what t => what.toList ++ ": invalid count at start of ".toList ++ Quoting.always t
  | badField what => what.toList ++ ": invalid field specification ".toList ++ Quoting.always written

/-- Reads a number. -/
def fieldNumber (what : String) (t : Text) : Except KeyFault (Nat × Text) :=
  let digits := t.takeWhile Character.isDecimalDigit
  match number? digits with
  | some n => .ok (n, t.drop digits.length)
  | none => .error (.noNumber what t)

/-- A manner with one more letter, which stands at the start of a key or at its end. -/
def Manner.withLetter? (m : Manner) (atStart atEnd : Bool) (c : Char) : Option Manner :=
  let measure (x : Measure) : Option Manner := some { m with measures := x :: m.measures }
  match c with
  | 'b' =>
    some { m with
      skipsAtStart := m.skipsAtStart || atStart, skipsAtEnd := m.skipsAtEnd || atEnd }
  | 'd' => some { m with leaving := .marks }
  | 'f' => some { m with folds := true }
  | 'g' => measure .floating
  | 'h' => measure .unit
  | 'i' => some (if m.leaving = .marks then m else { m with leaving := .unprintable })
  | 'M' => measure .month
  | 'n' => measure .number
  | 'R' => measure .random
  | 'r' => some { m with reversed := true }
  | 'V' => measure .version
  | _ => none

/-- A manner with the letters at the start of a text, and what stands behind them. -/
def Manner.withLetters (m : Manner) (atStart atEnd : Bool) : Text → Manner × Text
  | [] => (m, [])
  | c :: t =>
    match m.withLetter? atStart atEnd c with
    | some m => m.withLetters atStart atEnd t
    | none => (m, c :: t)

/-- Reads a number behind a point, where there is one. -/
def offset? (t : Text) : Except KeyFault (Option Nat × Text) :=
  match t with
  | '.' :: t => (fieldNumber "invalid number after '.'" t).map fun (n, rest) => (some n, rest)
  | t => .ok (none, t)

/-- Reads a key. -/
def readKey (t : Text) : Except KeyFault Key := do
  let (field, t) ← fieldNumber "invalid number at field start" t
  if field = 0 then throw (.badField "field number is zero")
  let (offset, t) ← offset? t
  if offset = some 0 then throw (.badField "character offset is zero")
  let (manner, t) := ({} : Manner).withLetters true false t
  let span : Span := { field := field - 1, offset := offset.getD 1 - 1 }
  match t with
  | ',' :: t =>
    let (last, t) ← fieldNumber "invalid number after ','" t
    if last = 0 then throw (.badField "field number is zero")
    let (lastOffset, t) ← offset? t
    let (manner, t) := manner.withLetters false true t
    if t ≠ [] then throw (.badField "stray character in field spec")
    return { span := { span with lastField := some (last - 1), lastOffset := lastOffset.getD 0 }
             manner }
  | [] => return { span, manner }
  | _ => throw (.badField "stray character in field spec")

/-- What is read of an old form of a key: a field, an offset, and letters. -/
def oldPart? (t : Text) : Option (Nat × Nat × Text) :=
  match fieldNumber "" t with
  | .error _ => none
  | .ok (field, t) =>
    match offset? t with
    | .error _ => none
    | .ok (offset, t) =>
      let (_, rest) := ({} : Manner).withLetters true true t
      if rest = [] then some (field, offset.getD 0, t) else none

/-- The key that an old form `+a.b` and perhaps `-c.d` stands for. -/
def fromOldForm (field offset : Nat) (letters : Text) (stop : Option (Nat × Nat × Text)) : Text :=
  let start := decimal (field + 1) ++ '.' :: decimal (offset + 1) ++ letters
  match stop with
  | none => start
  | some (field, offset, letters) =>
    let last : Text :=
      if offset = 0 then decimal (max 1 field) else decimal (field + 1) ++ '.' :: decimal offset
    start ++ ',' :: last ++ letters

/-! ## Options -/

/-- The options. -/
inductive Flag where
  | letter (c : Char)
  | sorts
  | check
  | checkQuietly
  | key
  | merge
  | output
  | stable
  | separator
  | unique
  | zero
  | lists
  | size
  | batch
  | parallel
  /-- an option that changes nothing here -/
  | idle
  deriving DecidableEq, Repr, Inhabited

/-- The words for the letters of manners. -/
def letterForms : List (OptionForm Flag) := [
  { key := .letter 'b', letters := ['b'], words := ["ignore-leading-blanks"] },
  { key := .letter 'd', letters := ['d'], words := ["dictionary-order"] },
  { key := .letter 'f', letters := ['f'], words := ["ignore-case"] },
  { key := .letter 'g', letters := ['g'], words := ["general-numeric-sort"] },
  { key := .letter 'h', letters := ['h'], words := ["human-numeric-sort"] },
  { key := .letter 'i', letters := ['i'], words := ["ignore-nonprinting"] },
  { key := .letter 'M', letters := ['M'], words := ["month-sort"] },
  { key := .letter 'n', letters := ['n'], words := ["numeric-sort"] },
  { key := .letter 'R', letters := ['R'], words := ["random-sort"] },
  { key := .letter 'r', letters := ['r'], words := ["reverse"] },
  { key := .letter 'V', letters := ['V'], words := ["version-sort"] }]

/-- How the options are written. -/
def forms : List (OptionForm Flag) := letterForms ++ [
  { key := .sorts, words := ["sort"], taking := .value },
  { key := .check, letters := ['c'] },
  { key := .check, words := ["check"], taking := .perhaps },
  { key := .checkQuietly, letters := ['C'] },
  { key := .key, letters := ['k'], words := ["key"], taking := .value },
  { key := .merge, letters := ['m'], words := ["merge"] },
  { key := .output, letters := ['o'], words := ["output"], taking := .value },
  { key := .stable, letters := ['s'], words := ["stable"] },
  { key := .separator, letters := ['t'], words := ["field-separator"], taking := .value },
  { key := .unique, letters := ['u'], words := ["unique"] },
  { key := .zero, letters := ['z'], words := ["zero-terminated"] },
  { key := .lists, words := ["files0-from"], taking := .value },
  { key := .size, letters := ['S'], words := ["buffer-size"], taking := .value },
  { key := .batch, words := ["batch-size"], taking := .value },
  { key := .parallel, words := ["parallel"], taking := .value },
  { key := .idle, letters := ['T'], words := ["temporary-directory"], taking := .value },
  { key := .idle, words := ["compress-program"], taking := .value },
  { key := .idle, words := ["random-source"], taking := .value },
  { key := .idle, letters := ['y'], taking := .perhaps }]

/-- What a call asks for. -/
structure Request where
  rules : Rules := {}
  /-- the manner of keys that say nothing about theirs -/
  manner : Manner := {}
  terminator : Char := '\n'
  /-- whether it is only asked if all is in order, and the letter that asks -/
  check : Option Char := none
  merges : Bool := false
  output : Option Text := none
  list : Option Text := none
  deriving DecidableEq, Repr, Inhabited

/-- What is wrong with a call. -/
structure Complaint where
  message : Text
  /-- whether to point to the help -/
  helps : Bool := false
  deriving DecidableEq, Repr, Inhabited

/-- The complaint about options that do not go together. -/
def incompatible (letters : Text) : Complaint where
  message := "options '-".toList ++ letters ++ "' are incompatible".toList

/-- The word for which one of a list of words stands; each word has its names. -/
def choice (option : String) (choices : List (List String × Char)) (t : Text) :
    Except Complaint Char :=
  let named := choices.flatMap fun (names, c) => names.map fun n => (n, c)
  let exact := named.filter fun (n, _) => n.toList == t
  let meant := if exact = [] then named.filter fun (n, _) => t.isPrefixOf n.toList else exact
  match meant with
  | (_, c) :: others =>
    if others.all fun (_, d) => d == c then .ok c else .error (complaint "ambiguous")
  | [] => .error (complaint "invalid")
where
  /-- The complaint about a word. -/
  complaint (what : String) : Complaint :=
    { message := what.toList ++ " argument ".toList ++ Quoting.always t ++
        " for '--".toList ++ option.toList ++ "'\nValid arguments are:".toList ++
        choices.flatMap fun (names, _) =>
          "\n  - ".toList ++ ((names.map fun n => '\'' :: (n.toList ++ ['\''])).intersperse
            ", ".toList).flatten
      helps := true }

/-- The words for orders. -/
def orders : List (List String × Char) := [
  (["general-numeric"], 'g'), (["human-numeric"], 'h'), (["month"], 'M'), (["numeric"], 'n'),
  (["random"], 'R'), (["version"], 'V')]

/-- The words for ways to check. -/
def checks : List (List String × Char) :=
  [(["quiet", "silent"], 'C'), (["diagnose-first"], 'c')]

namespace Request

/-- A request that only asks whether all is in order. -/
def checking (r : Request) (c : Char) : Except Complaint Request :=
  match r.check with
  | some d => if c = d then .ok r else .error (incompatible ['c', 'C'])
  | none => .ok { r with check := some c }

/-- A request with a letter of a manner. -/
def withLetter (r : Request) (c : Char) : Request :=
  { r with manner := (r.manner.withLetter? true true c).getD r.manner }

/-- A request with a separator of fields. -/
def withSeparator (r : Request) (t : Text) : Except Complaint Request :=
  let separated (c : Char) : Except Complaint Request :=
    match r.rules.separator with
    | some d =>
      if c = d then .ok r else .error { message := "incompatible tabs".toList }
    | none => .ok { r with rules := { r.rules with separator := some c } }
  match t with
  | [] => .error { message := "empty tab".toList }
  | [c] => separated c
  | ['\\', '0'] => separated (Char.ofNat 0)
  | t => .error { message := "multi-character tab ".toList ++ Quoting.always t }

/-- Checks a size of what is kept in memory. -/
def checkSize (t : Text) : Except Complaint Unit :=
  let digits := t.takeWhile Character.isDecimalDigit
  let ending := t.drop digits.length
  let isUnit : Bool := match ending with
    | [] => true
    | [c] => "%bkKmMgGtTPEZYRQ".toList.contains c
    | _ => false
  if digits ≠ [] ∧ isUnit then .ok ()
  else .error { message := "invalid -S argument ".toList ++ Quoting.always t }

/-- Checks a number of files to be merged at once. -/
def checkBatch (t : Text) : Except Complaint Unit :=
  let invalid : Text := "invalid --batch-size argument ".toList ++ Quoting.always t
  match number? t with
  | none => .error { message := invalid }
  | some n =>
    if n < 2 then
      .error { message := invalid ++ "\nsort: minimum --batch-size argument is '2'".toList }
    else .ok ()

/-- Checks a number of processes. -/
def checkParallel (t : Text) : Except Complaint Unit :=
  match number? t with
  | none => .error { message := "invalid number in parallel ".toList ++ Quoting.always t }
  | some 0 => .error { message := "number in parallel must be nonzero".toList }
  | some _ => .ok ()

/-- A request with one more option. -/
def withOption (r : Request) (option : Flag × Text) : Except Complaint Request :=
  let (flag, value) := option
  match flag with
  | .letter c => .ok (r.withLetter c)
  | .sorts => (choice "sort" orders value).map r.withLetter
  | .check =>
    if value = [] then r.checking 'c' else do r.checking (← choice "check" checks value)
  | .checkQuietly => r.checking 'C'
  | .key =>
    match readKey value with
    | .ok k => .ok { r with rules := { r.rules with keys := r.rules.keys ++ [k] } }
    | .error f => .error { message := f.message value }
  | .merge => .ok { r with merges := true }
  | .output =>
    match r.output with
    | some name =>
      if name = value then .ok r else .error { message := "multiple output files specified".toList }
    | none => .ok { r with output := some value }
  | .stable => .ok { r with rules := { r.rules with stable := true } }
  | .separator => r.withSeparator value
  | .unique => .ok { r with rules := { r.rules with unique := true } }
  | .zero => .ok { r with terminator := Char.ofNat 0 }
  | .lists => .ok { r with list := some value }
  | .size => (checkSize value).map fun _ => r
  | .batch => (checkBatch value).map fun _ => r
  | .parallel => (checkParallel value).map fun _ => r
  | .idle => .ok r

end Request

/-- The letters of a manner that say what is compared. -/
def Manner.letters (m : Manner) : Text :=
  let has (x : Measure) (c : Char) : Text := if m.measures.contains x then [c] else []
  (if m.leaving = .marks then ['d'] else []) ++ (if m.folds then ['f'] else []) ++
    has .floating 'g' ++ has .unit 'h' ++
    (if m.leaving = .unprintable then ['i'] else []) ++
    has .month 'M' ++ has .number 'n' ++ has .random 'R' ++ has .version 'V'

/-- Whether a manner asks for ways to compare that do not go together. -/
def Manner.isTorn (m : Manner) : Bool :=
  let count (x : Measure) : Nat := if m.measures.contains x then 1 else 0
  let other : Bool := m.measures.contains .version || m.measures.contains .random ||
    m.leaving != .nothing
  1 < count .number + count .floating + count .unit + count .month + (if other then 1 else 0)

/-- The rules that a request comes down to. -/
def Request.finalRules (r : Request) : Except Complaint Rules :=
  let inherit (k : Key) : Key :=
    if k.manner.isPlain ∧ !k.manner.reversed then { k with manner := r.manner } else k
  let keys := r.rules.keys.map inherit
  let keys : List Key := if keys = [] ∧ !r.manner.isPlain then [{ manner := r.manner }] else keys
  match keys.find? fun k => k.manner.isTorn with
  | some k => .error (incompatible k.manner.letters)
  | none => .ok { r.rules with keys, reversed := r.manner.reversed }

/-- What becomes of the next argument. -/
inductive Treatment where
  | read
  | keep
  | drop
  deriving DecidableEq, Repr, Inhabited

/-- What an old form of a key with an argument behind it becomes, if it is one: the key, and
whether it takes that argument. -/
def oldKey? (t : Text) (next : Option Text) : Option (Text × Bool) :=
  (oldPart? t).map fun (field, offset, letters) =>
    match next with
    | some ('-' :: c :: u) =>
      if Character.isDecimalDigit c then
        match oldPart? (c :: u) with
        | some stop => (fromOldForm field offset letters (some stop), true)
        | none => ('1' :: ',' :: c :: u, true)
      else (fromOldForm field offset letters none, false)
    | _ => (fromOldForm field offset letters none, false)

/-- Whether an option takes the next argument. -/
def takesNext (option : Text) : Bool :=
  match option with
  | '-' :: '-' :: word =>
    match Arguments.form? forms word with
    | .ok (f, _) => f.taking == .value
    | .error _ => false
  | '-' :: letters =>
    match Arguments.cluster forms letters with
    | .ok k => k.open?.isSome
    | .error _ => false
  | _ => false

/-- Replaces old forms of keys among the arguments by options. -/
def modernized : Treatment → List Text → List Text
  | _, [] => []
  | .keep, argument :: rest => argument :: modernized .read rest
  | .drop, _ :: rest => modernized .read rest
  | .read, argument :: rest =>
    match argument with
    | ['-', '-'] => argument :: rest
    | '+' :: t =>
      match oldKey? t rest.head? with
      | some (key, isPair) =>
        ['-', 'k'] :: key :: modernized (if isPair then .drop else .read) rest
      | none => argument :: modernized .read rest
    | argument => argument :: modernized (if takesNext argument then .keep else .read) rest

/-! ## Running -/

/-- Ends with a complaint. -/
def Complaint.end (c : Complaint) (name : Text) : Act ExitStatus := do
  complain name c.message
  if c.helps then pointToHelp name
  return .exited 2

/-- The lines of a text without their ends. -/
def Request.split (r : Request) (rules : Rules) (t : Text) : List Line :=
  (piecesEnding r.terminator t).map fun piece => rules.line (chomp r.terminator piece)

/-- Reads the lines of an operand; `opening` is the complaint when it cannot be opened. -/
def Request.read (r : Request) (rules : Rules) (operand : Text) :
    Act (Except Complaint (List Line)) := do
  let failed (what : String) (cause : IoFailure) : Complaint :=
    ⟨what.toList ++ Quoting.whereNeeded operand ++ ": ".toList ++ cause.reason.toList, false⟩
  match ← openOperand operand with
  | .error cause => return .error (failed "open failed: " cause)
  | .ok d =>
    match ← Machine.readAllThrough d with
    | .error cause => return .error (failed "read failed: " cause)
    | .ok t => return .ok (r.split rules t)

/-- Tells whether an operand is in order. -/
def Request.runCheck (r : Request) (rules : Rules) (name operand : Text) (letter : Char) :
    Act ExitStatus := do
  match ← r.read rules operand with
  | .error c => c.end name
  | .ok lines =>
    match rules.disorder? 0 lines with
    | none => return .exited 0
    | some (n, line) =>
      if letter = 'c' then
        complain name (operand ++ ':' :: decimal n ++ ": disorder: ".toList ++ line.text)
      return .exited 1

/-- Reads the lines of all operands. -/
def Request.readAll (r : Request) (rules : Rules) (operands : List Text) :
    Act (Except Complaint (List (List Line))) :=
  match operands with
  | [] => return .ok []
  | operand :: rest => do
    match ← r.read rules operand with
    | .error c => return .error c
    | .ok lines => return (← readAll r rules rest).map (lines :: ·)

/-- The first operand that is not there, and why. -/
def missing? (m : Machine) (operands : List Text) : Option (Text × IoFailure) :=
  operands.findSome? fun operand =>
    if operand = standardInput then none
    else
      match m.find operand with
      | .ok _ => none
      | .error cause => some (operand, cause)

/-- Sorts or merges the operands. -/
def Request.run (r : Request) (rules : Rules) (name : Text) (operands : List Text) :
    Act ExitStatus := do
  match missing? (← get) operands with
  | some (operand, cause) =>
    complainAbout name ("cannot read: ".toList ++ Quoting.whereNeeded operand) cause
    return .exited 2
  | none =>
    let target ←
      match r.output with
      | none => pure (Except.ok none)
      | some file =>
        match ← Machine.openPath { writes := true, creates := true } file with
        | .ok d => pure (.ok (some d))
        | .error cause => pure (.error (file, cause))
    match target with
    | .error (file, cause) =>
      complainAbout name ("open failed: ".toList ++ Quoting.whereNeeded file) cause
      return .exited 2
    | .ok target =>
      match ← r.readAll rules operands with
      | .error c => c.end name
      | .ok lists =>
        let lines := if r.merges then rules.merged lists else rules.sorted lists.flatten
        let out := lines.flatMap fun line => line.text ++ [r.terminator]
        match target with
        | none =>
          say out
          return .exited 0
        | some d =>
          match (← get).openings[d]? with
          | some { target := .file n, .. } => Machine.truncate n
          | _ => pure ()
          match ← if out = [] then pure (.ok ()) else Machine.writeThrough d out with
          | .ok _ => return .exited 0
          | .error cause =>
            complainAbout name ("write failed: ".toList ++ (r.output.getD [])) cause
            return .exited 2

/-- The operands that a list of names gives. -/
def listed (list : Text) (operands : List Text) : Act (Except Complaint (List Text)) := do
  match operands with
  | operand :: _ =>
    return .error
      { message := "extra operand ".toList ++ Quoting.always operand ++
          "\nfile operands cannot be combined with --files0-from".toList
        helps := true }
  | [] =>
    match ← openOperand list with
    | .error cause =>
      return .error
        { message := "open failed: ".toList ++ Quoting.whereNeeded list ++ ": ".toList ++
            cause.reason.toList }
    | .ok d =>
      match ← Machine.readAllThrough d with
      | .error cause =>
        return .error
          { message := Quoting.whereNeeded list ++ ": read error: ".toList ++
              cause.reason.toList }
      | .ok t =>
        let names := (piecesEnding (Char.ofNat 0) t).map (chomp (Char.ofNat 0))
        if names = [] then
          return .error { message := "no input from ".toList ++ Quoting.always list }
        else if names.contains [] then
          return .error
            { message := Quoting.whereNeeded list ++ ":1: invalid zero-length file name".toList }
        else return .ok names

/-- Carries out a request. -/
def Request.carryOut (r : Request) (name : Text) (operands : List Text) : Act ExitStatus := do
  let operands? ←
    match r.list with
    | some list => listed list operands
    | none => pure (.ok (orStandardInput operands))
  match operands?, r.finalRules with
  | .error c, _ => c.end name
  | .ok _, .error c => c.end name
  | .ok operands, .ok rules =>
    match r.check, operands with
    | some letter, operand :: others =>
      match others with
      | other :: _ =>
        complain name ("extra operand ".toList ++ Quoting.always other ++
          " not allowed with -".toList ++ [letter])
        return .exited 2
      | [] =>
        if r.output.isSome then (incompatible [letter, 'o']).end name
        else r.runCheck rules name operand letter
    | _, operands => r.run rules name operands

end TextIntake.Tool.Sorting

namespace TextIntake.Tool

open Sorting in
/-- Sorts lines. -/
def sort : Tool := checked 2 fun name arguments =>
  let body (name : Text) (a : Arguments Flag) : Act ExitStatus :=
    match a.options.foldlM Request.withOption {} with
    | .error c => c.end name
    | .ok r => r.carryOut name a.operands
  withArguments 2 false forms body name (modernized .read arguments)

end TextIntake.Tool
