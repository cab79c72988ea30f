import TextIntake.Tool.Arguments
import TextIntake.Tool.Input
import TextIntake.Tool.Pattern.Search

set_option autoImplicit false

/-!
# Copying backwards

`tac` copies the records of each operand, the last one first.  A separator, which is a
text or a pattern, stands behind each record, or in front of it.
-/

namespace TextIntake.Tool.Reverse

/-- How records are told apart. -/
inductive Separator where
  | text (t : Text)
  | pattern (p : Pattern.Program)
  deriving Inhabited

/-- A separator that was found, and the end of the text that is still to be searched. -/
structure Found where
  start : Nat
  stop : Nat
  limit : Nat
  deriving DecidableEq, Repr, Inhabited

/-- The greatest of so many places for which something is found. -/
def lastOf {α : Type} (find : Nat → Option α) : Nat → Option α
  | 0 => none
  | n + 1 => (find n).or (lastOf find n)

/-- The last separator in front of a limit.  Separators that are texts do not overlap. -/
def Separator.find (s : Separator) (text : Array Char) (limit : Nat) : Option Found :=
  match s with
  | .text t =>
    lastOf (fun i =>
      if text.extract i (i + t.length) = t.toArray then
        some ⟨i, i + t.length, i + 1 - t.length⟩
      else none) limit
  | .pattern p =>
    let field : Pattern.Field := { text := text.extract 0 limit, lineEnd := some '\n' }
    lastOf (fun i => (p.matchAt? field i).map fun m => ⟨m.start, m.stop, m.start⟩) limit

/-- The place behind which no separator can start. -/
def Separator.firstLimit (s : Separator) (text : Array Char) : Nat :=
  match s with
  | .text t => text.size + 1 - t.length
  | .pattern _ => text.size

/-- The records of a text up to a place, the last one first; at most so many separators are
looked for.  `before` tells whether separators stand in front of their records, and
`isFirst` whether none was found yet. -/
def records (s : Separator) (before : Bool) (text : Array Char) :
    Nat → Bool → Nat → Nat → List Text
  | 0, _, stop, _ => [(text.extract 0 stop).toList]
  | fuel + 1, isFirst, stop, limit =>
    match s.find text limit with
    | none => [(text.extract 0 stop).toList]
    | some f =>
      if before then
        (text.extract f.start stop).toList :: records s before text fuel false f.start f.limit
      else
        let rest := records s before text fuel false f.stop f.limit
        if isFirst ∧ f.stop = stop then rest else (text.extract f.stop stop).toList :: rest

/-- A text with its records in the opposite order. -/
def reversed (s : Separator) (before : Bool) (t : Text) : Text :=
  let text := t.toArray
  (records s before text (text.size + 1) true text.size (s.firstLimit text)).flatten

/-- What an operand holds.  A file is read from its start, however much of it was read
before. -/
def readWhole (operand : Text) : Act (Except IoFailure Text) := do
  match ← openOperand operand with
  | .error cause => return .error cause
  | .ok d =>
    match (← get).openings[d]? with
    | some { target := .file _, .. } => Machine.changeOpening d fun o => { o with offset := 0 }
    | _ => pure ()
    match ← Machine.readAllThrough d with
    | .error .isADirectory => return .error .invalid
    | result => return result

/-- The options. -/
inductive Flag where
  | before
  | regex
  | separator
  deriving DecidableEq, Repr, Inhabited

/-- How the options are written. -/
def forms : List (OptionForm Flag) := [
  { key := .before, letters := ['b'], words := ["before"] },
  { key := .regex, letters := ['r'], words := ["regex"] },
  { key := .separator, letters := ['s'], words := ["separator"], taking := .value }]

/-- The separator that options ask for, or what is wrong with it.  An empty text stands for
a NUL. -/
def separator (isRegex : Bool) (t : Text) : Except Text Separator :=
  if isRegex then
    if t = [] then .error "separator cannot be empty".toList
    else
      match Pattern.read .editor t with
      | .ok (p, groups) => .ok (.pattern (Pattern.Program.ofPattern p groups))
      | .error fault => .error fault.message.toList
  else .ok (.text (if t = [] then [Char.ofNat 0] else t))

/-- Reads all operands: what is to be written, and whether all went well. -/
def readAll (name : Text) (s : Separator) (before : Bool) (operands : List Text) :
    Act (List Text × Bool) :=
  operands.foldlM (fun (parts, ok) operand => do
    let isThere := operand == standardInput || ((← get).find operand).isOk
    match ← readWhole operand with
    | .ok t => return (parts ++ [reversed s before t], ok)
    | .error cause =>
      if isThere then
        let shown := Quoting.whereNeeded (shownOperand operand)
        complainAbout name (shown ++ ": read error".toList) cause
      else
        complainAbout name
          ("failed to open ".toList ++ Quoting.always operand ++ " for reading".toList) cause
      return (parts, false)) ([], true)

end TextIntake.Tool.Reverse

namespace TextIntake.Tool

open Reverse in
/-- Copies the records of its operands backwards. -/
def tac : Tool := checked 1 <| withArguments 1 false forms fun name a => do
  let has (flag : Flag) : Bool := a.options.any fun (f, _) => f == flag
  let given := a.options.reverse.find? fun (f, _) => f == .separator
  match separator (has .regex) ((given.map Prod.snd).getD ['\n']) with
  | .error message =>
    complain name message
    return .exited 1
  | .ok s =>
    let (parts, ok) ← readAll name s (has .before) (orStandardInput a.operands)
    say parts.flatten
    return ending ok

end TextIntake.Tool
