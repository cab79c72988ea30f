import TextIntake.Tool.Input
import TextIntake.Tool.StreamEdit.Texts

set_option autoImplicit false

/-!
# Reading scripts

A script is given in parts, on the command line and in files.  Each part is read
instruction by instruction; blocks, labels and lines that are to be inserted may go on
from one part to the next.  The files that a script writes to are opened while it is
read.
-/

namespace TextIntake.Tool.StreamEdit

/-! ## Faults -/

/-- Where a part of a script comes from. -/
inductive Source where
  /-- an expression on the command line, by its number -/
  | expression (number : Nat)
  | file (name : Text)
  deriving DecidableEq, Repr, Inhabited

/-- Why a script cannot be carried out. -/
inductive Refusal where
  /-- a fault at the place where the reader is -/
  | here (message : Text)
  /-- a fault of the script as a whole, and the code to end with -/
  | whole (message : Text) (code : Nat)
  deriving DecidableEq, Repr, Inhabited

/-- The faults that have one wording only. -/
inductive Fault where
  | bareBang
  | badComma
  | badStep
  | lineZero
  | openBlock
  | closedTooOften
  | extraCharacters
  | noText
  | incomplete
  | closesWithAddress
  | labelWithAddress
  | commentWithAddress
  | noCommand
  | oneAddress
  | openExpression
  | openSubstitution
  | openTransliteration
  | unknownOption
  | manyPrints
  | manyGlobals
  | manyNumbers
  | zeroNumber
  | differentLengths
  | tooOld
  | noFile
  | noLabel
  | nestedEscape
  | idleModifiers
  | noExpression
  | disabled
  deriving DecidableEq, Repr, Inhabited

/-- The wording of a fault. -/
def Fault.message : Fault → String
  | bareBang => "multiple `!'s"
  | badComma => "unexpected `,'"
  | badStep => "invalid usage of +N or ~N as first address"
  | lineZero => "invalid usage of line address 0"
  | openBlock => "unmatched `\x7b'"
  | closedTooOften => "unexpected `\x7d'"
  | extraCharacters => "extra characters after command"
  | noText => "expected \\ after `a', `c' or `i'"
  | incomplete => "incomplete command"
  | closesWithAddress => "`\x7d' doesn't want any addresses"
  | labelWithAddress => ": doesn't want any addresses"
  | commentWithAddress => "comments don't accept any addresses"
  | noCommand => "missing command"
  | oneAddress => "command only uses one address"
  | openExpression => "unterminated address regex"
  | openSubstitution => "unterminated `s' command"
  | openTransliteration => "unterminated `y' command"
  | unknownOption => "unknown option to `s'"
  | manyPrints => "multiple `p' options to `s' command"
  | manyGlobals => "multiple `g' options to `s' command"
  | manyNumbers => "multiple number options to `s' command"
  | zeroNumber => "number option to `s' command may not be zero"
  | differentLengths => "strings for `y' command are different lengths"
  | tooOld => "expected newer version of sed"
  | noFile => "missing filename in r/R/w/W commands"
  | noLabel => "\":\" lacks a label"
  | nestedEscape => "recursive escaping after \\c not allowed"
  | idleModifiers => "cannot specify modifiers on empty regexp"
  | noExpression => "no previous regular expression"
  | disabled => "e/r/w commands disabled in sandbox mode"

/-- The complaint about a group that an expression does not have. -/
def badReference (n : Nat) : Text :=
  "invalid reference \\".toList ++ decimal n ++ " on `s' command's RHS".toList

/-! ## The reader -/

/-- A block that was opened: the place of its instruction, and where it stands. -/
structure OpenBlock where
  place : Nat
  source : Source
  deriving DecidableEq, Repr, Inhabited

/-- Lines that may go on in the next part: the place of their instruction, and what was
read of them. -/
structure OpenLines where
  place : Nat
  text : Text
  deriving DecidableEq, Repr, Inhabited

/-- A script that is being read. -/
structure Draft where
  settings : Settings
  source : Source := .expression 0
  rest : Text := []
  /-- how many characters of the part were read -/
  used : Nat := 0
  /-- the number of the line that is read -/
  line : Nat := 1
  /-- the number of the last expression -/
  expressions : Nat := 0
  isFirst : Bool := true
  script : Script := {}
  blocks : List OpenBlock := []
  labels : List (Text × Nat) := []
  jumps : List (Text × Nat) := []
  pending : Option OpenLines := none
  deriving Inhabited

/-- What reads a script. -/
abbrev Drafting := ExceptT Refusal (StateT Draft Act)

namespace Drafting

/-- Something the machine does. -/
def act {α : Type} (a : Act α) : Drafting α := ExceptT.lift (StateT.lift a)

/-- Fails where the reader is. -/
def fail {α : Type} (f : Fault) : Drafting α := throw (.here f.message.toList)

/-- Takes so many characters. -/
def skip (n : Nat) : Drafting Unit :=
  modify fun d =>
    { d with
      rest := d.rest.drop n, used := d.used + (d.rest.take n).length
      line := d.line + (d.rest.take n).count '\n' }

/-- Takes the next character. -/
def next : Drafting (Option Char) := do
  let c := (← get).rest.head?
  skip 1
  return c

/-- The next character, which stays. -/
def peek : Drafting (Option Char) := do return (← get).rest.head?

/-- Takes the characters in front of the first that does not fulfil a condition. -/
def takeWhile (p : Char → Bool) : Drafting Text := do
  let t := (← get).rest.takeWhile p
  skip t.length
  return t

/-- Whether a character is a blank inside a line. -/
def isBlank (c : Char) : Bool := c == ' ' || c == '\t'

/-- Takes blanks, and then the next character. -/
def nextBeyondBlanks : Drafting (Option Char) := do
  let _ ← takeWhile isBlank
  next

/-- Takes blanks and looks at the next character. -/
def peekBeyondBlanks : Drafting (Option Char) := do
  let _ ← takeWhile isBlank
  peek

/-- Takes a number; no digits at all count as zero. -/
def number : Drafting Nat := do
  return (number? (← takeWhile Character.isDecimalDigit)).getD 0

/-- Takes a text up to a delimiter, or fails. -/
def untilDelimiter (isExpression : Bool) (delimiter : Option Char) (f : Fault) : Drafting Text := do
  match delimiter with
  | none => fail f
  | some c =>
    let d := delimited isExpression c (← get).rest
    skip d.length
    match d.text with
    | some t => return t
    | none => fail f

/-! ## Parts of instructions -/

/-- The modifiers of expressions. -/
structure Modifiers where
  foldCase : Bool := false
  multiline : Bool := false
  deriving DecidableEq, Repr, Inhabited

/-- Turns a text into an expression.  The empty one stands for that which was used last. -/
def expression (t : Text) (modifiers : Modifiers) (isAddress : Bool) :
    Drafting (Option Expression) := do
  if t = [] then
    if modifiers ≠ {} then fail .idleModifiers
    return none
  match resolve .expression t with
  | none => fail .nestedEscape
  | some t =>
    let settings := (← get).settings
    let base := if settings.extended then Pattern.Dialect.extended else .basic
    let dialect : Pattern.Dialect :=
      { base with
        foldCase := modifiers.foldCase
        strict := settings.strict
        pointHoldsLineFeed := !modifiers.multiline
        exclusionHoldsLineFeed := !modifiers.multiline }
    match Pattern.read dialect t with
    | .ok (p, groups) =>
      let program := Pattern.Program.ofPattern p groups
      let lineEnd := if modifiers.multiline then some settings.terminator else none
      return some { program, lineEnd, foldCase := modifiers.foldCase, isAddress }
    | .error .bareClass => throw (.whole Pattern.Fault.bareClass.message.toList 4)
    | .error f => throw (.here f.message.toList)

/-- Takes the modifiers of the expression of an address; so many can stand there. -/
def addressModifiers : Nat → Modifiers → Drafting Modifiers
  | 0, m => return m
  | n + 1, m => do
    match ← peekBeyondBlanks with
    | some 'I' => skip 1; addressModifiers n { m with foldCase := true }
    | some 'M' => skip 1; addressModifiers n { m with multiline := true }
    | _ => return m

/-- Takes an address that may start with a character. -/
def address? (c : Option Char) : Drafting (Option Address) := do
  let strict := (← get).settings.strict
  match c with
  | some '/' => matching '/'
  | some '\\' => matching (← next)
  | some '$' => return some .last
  | some '+' =>
    if strict then return none
    let _ ← takeWhile isBlank
    return some (.further (← number))
  | some '~' =>
    if strict then return none
    let _ ← takeWhile isBlank
    return some (.multiple (← number))
  | some c =>
    if !Character.isDecimalDigit c then return none
    let digits ← takeWhile Character.isDecimalDigit
    let first := (number? (c :: digits)).getD 0
    match strict, ← peekBeyondBlanks with
    | false, some '~' =>
      skip 1
      let _ ← takeWhile isBlank
      let step ← number
      return some (if step = 0 then .line first else .every first step)
    | _, _ => return some (.line first)
  | none => return none
where
  /-- Takes an expression for an address. -/
  matching (delimiter : Option Char) : Drafting (Option Address) := do
    let t ← untilDelimiter true delimiter .openExpression
    let d ← get
    let m ← if d.settings.strict then pure {} else addressModifiers (d.rest.length + 1) {}
    return some (.matching (← expression t m true))

/-- Takes what selects lines, and the character behind it. -/
def selection (c : Option Char) : Drafting (Selection × Option Char) := do
  let (s, c) ←
    match ← address? c with
    | none => pure (({} : Selection), c)
    | some first =>
      match first with
      | .further _ | .multiple _ => fail .badStep
      | _ => pure ()
      let (second, c) ←
        match ← nextBeyondBlanks with
        | some ',' =>
          match ← address? (← nextBeyondBlanks) with
          | none => fail .badComma
          | some second => pure (some second, ← nextBeyondBlanks)
        | c => pure (none, c)
      match first, second with
      | .line 0, some (.matching _) => if (← get).settings.strict then fail .lineZero
      | .line 0, _ => fail .lineZero
      | _, _ => pure ()
      pure ({ first := some first, second }, c)
  match c with
  | some '!' =>
    match ← nextBeyondBlanks with
    | some '!' => fail .bareBang
    | c => return ({ s with negated := true }, c)
  | c => return (s, c)

/-- Takes the end of an instruction. -/
def finish : Drafting Unit := do
  match ← peekBeyondBlanks with
  | some '\x7d' | some '#' | none => return
  | some c =>
    skip 1
    if c ≠ '\n' ∧ c ≠ ';' then fail .extraCharacters

/-- Takes a label. -/
def label : Drafting Text := do
  let _ ← takeWhile isBlank
  takeWhile fun c => !isSpace c && c != ';' && c != '\x7d'

/-- Takes the name of a file, which goes up to the end of the line. -/
def fileName : Drafting Text := do
  let _ ← takeWhile isBlank
  let name ← takeWhile (· ≠ '\n')
  skip 1
  if name = [] then fail .noFile
  return name

/-- Refuses what reaches beyond the script. -/
def guardSandbox : Drafting Unit := do
  if (← get).settings.sandbox then fail .disabled

/-- Opens a file; a failure ends everything. -/
def opened (mode : Machine.Mode) (name : Text) : Drafting Nat := do
  match ← act (Machine.openPath mode name) with
  | .ok d => return d
  | .error cause =>
    throw (.whole ("couldn't open file ".toList ++ name ++ ": ".toList ++ cause.reason.toList) 4)

/-- The number of the sink with a name, which is opened when it is new. -/
def sink : Drafting Nat := do
  let strict := (← get).settings.strict
  let name ← fileName
  let sinks := (← get).script.sinks
  match (List.range sinks.size).find? fun i => (sinks[i]?).any fun s => s.name == name with
  | some i => return i
  | none =>
    let description ←
      if name = "/dev/stdout".toList ∧ !strict then pure none
      else if name = "/dev/stderr".toList ∧ !strict then
        pure (some (((← act get).description? 2).getD (← act get).openings.size))
      else pure (some (← opened .output name))
    modify fun d =>
      { d with script := { d.script with sinks := sinks.push { name, description } } }
    return sinks.size

/-- The number of the feed with a name, which is opened when it is new.  One that cannot be
opened is empty. -/
def feed : Drafting Nat := do
  let name ← fileName
  let feeds := (← get).script.feeds
  match (List.range feeds.size).find? fun i => (feeds[i]?).any fun f => f.name == name with
  | some i => return i
  | none =>
    let new : Feed ←
      match ← act (Machine.openPath .input name) with
      | .ok d => pure { name, description := some d }
      | .error _ => pure { name, ended := true }
    modify fun d => { d with script := { d.script with feeds := feeds.push new } }
    return feeds.size

/-! ## Substitutions -/

/-- The options of a substitution, as far as they were read. -/
structure Options where
  all : Bool := false
  start : Nat := 0
  printsBefore : Bool := false
  printsAfter : Bool := false
  evaluates : Bool := false
  output : Option Nat := none
  modifiers : Modifiers := {}
  deriving DecidableEq, Repr, Inhabited

/-- Takes the options behind a substitution; so many characters can stand there. -/
def options : Nat → Options → Drafting Options
  | 0, o => return o
  | n + 1, o => do
    match ← peek with
    | none => return o
    | some c =>
      if c = '\x7d' ∨ c = '#' then return o
      else if Character.isDecimalDigit c then
        if o.start ≠ 0 then
          skip 1
          fail .manyNumbers
        let start ← number
        if start = 0 then fail .zeroNumber
        options n { o with start }
      else
        skip 1
        if c = '\n' ∨ c = ';' then return o
        else if c = '\r' ∧ (← peek) = some '\n' then
          skip 1
          return o
        else if isBlank c then options n o
        else if (← get).settings.strict ∧ "iImMe".toList.contains c then fail .unknownOption
        else if c = 'i' ∨ c = 'I' then
          options n { o with modifiers := { o.modifiers with foldCase := true } }
        else if c = 'm' ∨ c = 'M' then
          options n { o with modifiers := { o.modifiers with multiline := true } }
        else if c = 'e' then
          guardSandbox
          options n { o with evaluates := true }
        else if c = 'p' then
          if o.printsBefore ∨ o.printsAfter then fail .manyPrints
          if o.evaluates then options n { o with printsAfter := true }
          else options n { o with printsBefore := true }
        else if c = 'g' then
          if o.all then fail .manyGlobals
          options n { o with all := true }
        else if c = 'w' then
          guardSandbox
          return { o with output := some (← sink) }
        else fail .unknownOption

/-- Takes a substitution. -/
def substitution : Drafting Action := do
  let delimiter ← next
  let pattern ← untilDelimiter true delimiter .openSubstitution
  let replacement ← untilDelimiter false delimiter .openSubstitution
  match pieces? (← get).settings.strict replacement with
  | none => fail .nestedEscape
  | some pieces =>
    let o ← options ((← get).rest.length + 1) {}
    let s : Substitution :=
      { expression := ← expression pattern o.modifiers false, pieces
        all := o.all, start := max 1 o.start
        printsBefore := o.printsBefore, evaluates := o.evaluates, printsAfter := o.printsAfter
        output := o.output }
    match s.expression with
    | some e => if e.program.groups < s.groups then throw (.here (badReference s.groups))
    | none => pure ()
    return .substitute s

/-- Takes a transliteration. -/
def transliteration : Drafting Action := do
  let delimiter ← next
  let source ← untilDelimiter false delimiter .openTransliteration
  let target ← untilDelimiter false delimiter .openTransliteration
  match resolve .literal source, resolve .literal target with
  | some source, some target =>
    let source := withoutBackslashes source
    let target := withoutBackslashes target
    if source.length ≠ target.length then fail .differentLengths
    finish
    return .transliterate (source.zip target).reverse
  | _, _ => fail .nestedEscape

/-! ## Instructions -/

/-- The place of the next instruction. -/
def place : Drafting Nat := do return (← get).script.instructions.size

/-- Adds an instruction. -/
def add (selection : Selection) (action : Action) : Drafting Unit :=
  modify fun d =>
    let instructions := d.script.instructions.push { selection, action }
    { d with script := { d.script with instructions } }

/-- Changes the action at a place. -/
def changeAction (place : Nat) (change : Action → Action) : Drafting Unit :=
  modify fun d =>
    let instructions := d.script.instructions.modify place fun i =>
      { i with action := change i.action }
    { d with script := { d.script with instructions } }

/-- An action with another text. -/
def withText (t : Text) : Action → Action
  | .append _ => .append t
  | .insert _ => .insert t
  | .change _ => .change t
  | .execute _ => .execute (some t)
  | a => a

/-- Takes lines for the instruction at a place, behind what was read of them before. -/
def linesFor (place : Nat) (before : Text) : Drafting Unit := do
  match lines? (← get).rest with
  | none => fail .nestedEscape
  | some l =>
    skip l.length
    let text := before ++ l.text
    changeAction place (withText text)
    modify fun d => { d with pending := if l.isOpen then some ⟨place, text⟩ else none }

/-- Takes lines for the next instruction. -/
def insertion (s : Selection) (action : Action) : Drafting Unit := do
  let place ← place
  match ← peekBeyondBlanks with
  | none => fail .noText
  | some '\\' =>
    skip 1
    add s action
    match ← peek with
    | none =>
      if (← get).settings.strict then fail .incomplete
      modify fun d => { d with pending := some ⟨place, []⟩ }
    | some '\n' =>
      skip 1
      linesFor place []
    | some _ => linesFor place []
  | some _ =>
    if (← get).settings.strict then
      skip 1
      fail .noText
    add s action
    linesFor place []

/-- Takes a number that an instruction may have. -/
def argument? : Drafting (Option Nat) := do
  let strict := (← get).settings.strict
  let n? ←
    match ← peekBeyondBlanks with
    | some c => if Character.isDecimalDigit c ∧ !strict then pure (some (← number)) else pure none
    | none => pure none
  finish
  return n?

/-- Takes a branch. -/
def jump (s : Selection) (when : Condition) : Drafting Unit := do
  let label ← label
  let place ← place
  modify fun d => { d with jumps := (label, place) :: d.jumps }
  add s (.branch when 0)

/-- Takes a comment behind its sign.  The first two characters of a script may ask for no
output by default. -/
def comment : Drafting Unit := do
  let d ← get
  let t ← takeWhile (· ≠ '\n')
  if d.isFirst ∧ d.used = 1 ∧ t = ['n'] then
    modify fun d => { d with script := { d.script with quiet := true } }
  skip 1

/-- The newest version that a script may ask for. -/
def version : List Nat := [4, 9]

/-- Whether a version is newer than the newest. -/
def isNewer (t : Text) : Bool :=
  let parts := (Path.splitOn '.' t).map fun part =>
    (number? (part.takeWhile Character.isDecimalDigit)).getD 0
  decide (version < parts)

/-- The actions that are a letter and nothing more. -/
def plainAction? (c : Char) : Option Action :=
  match c with
  | '=' => some .number
  | 'd' => some .delete
  | 'D' => some .deleteFirst
  | 'F' => some .name
  | 'g' => some .get
  | 'G' => some .getMore
  | 'h' => some .hold
  | 'H' => some .holdMore
  | 'n' => some .next
  | 'N' => some .nextMore
  | 'p' => some .print
  | 'P' => some .printFirst
  | 'x' => some .swap
  | 'z' => some .clear
  | _ => none

/-- Takes the end of a block. -/
def closeBlock (s : Selection) : Drafting Unit := do
  match (← get).blocks with
  | [] => fail .closedTooOften
  | block :: blocks =>
    if s.first.isSome then fail .closesWithAddress
    finish
    let place ← place
    changeAction block.place fun _ => .block place
    modify fun d => { d with blocks }
    add s .mark

/-- Fails on an instruction that is not known. -/
def unknownCommand {α : Type} (c : Char) : Drafting α :=
  throw (.here ("unknown command: `".toList ++ [c, '\'']))

/-- Refuses the instructions that a strict reading does not know, and those that take only one
address there. -/
def guardStrict (s : Selection) (c : Char) : Drafting Unit := do
  if (← get).settings.strict then
    if "eFvzLQTRW".toList.contains c then unknownCommand c
    if "aiqr=".toList.contains c ∧ s.second.isSome then fail .oneAddress

/-- Takes what stands behind the letter of an instruction, and adds the instruction. -/
def command (s : Selection) (c : Char) : Drafting Unit := do
  guardStrict s c
  match plainAction? c with
  | some action =>
    finish
    add s action
  | none =>
    match c with
    | '#' =>
      if s.first.isSome then fail .commentWithAddress
      comment
    | ':' =>
      if s.first.isSome then fail .labelWithAddress
      let label ← label
      if label = [] then fail .noLabel
      let place ← place
      modify fun d => { d with labels := (label, place) :: d.labels }
      add s .mark
    | '\x7b' =>
      let place ← place
      modify fun d => { d with blocks := ⟨place, d.source⟩ :: d.blocks }
      add s (.block 0)
    | '\x7d' => closeBlock s
    | 'a' => insertion s (.append [])
    | 'i' => insertion s (.insert [])
    | 'c' => insertion s (.change [])
    | 'e' =>
      guardSandbox
      match ← peekBeyondBlanks with
      | none => add s (.execute none)
      | some '\n' => skip 1; add s (.execute none)
      | some _ =>
        let place ← place
        add s (.execute none)
        linesFor place []
    | 'b' => jump s .always
    | 't' => jump s .replaced
    | 'T' => jump s .notReplaced
    | 'q' =>
      if s.second.isSome then fail .oneAddress
      add s (.quit ((← argument?).getD 0))
    | 'Q' =>
      if s.second.isSome then fail .oneAddress
      add s (.quitSilently ((← argument?).getD 0))
    | 'l' => add s (.list (← argument?))
    | 'L' =>
      let _ ← argument?
      throw (.whole "INTERNAL ERROR: Bad cmd L".toList 4)
    | 'r' =>
      guardSandbox
      add s (.readFile (← fileName))
    | 'R' =>
      guardSandbox
      add s (.readLine (← feed))
    | 'w' =>
      guardSandbox
      add s (.write (← sink))
    | 'W' =>
      guardSandbox
      add s (.writeFirst (← sink))
    | 's' => add s (← substitution)
    | 'y' => add s (← transliteration)
    | 'v' => if isNewer (← label) then fail .tooOld
    | c => unknownCommand c

/-- Reads instructions up to the end of a part; there are at most so many. -/
def commands : Nat → Drafting Unit
  | 0 => return
  | n + 1 => do
    let _ ← takeWhile fun c => isSpace c || c == ';'
    match ← next with
    | none => return
    | some c =>
      let (s, c) ← selection c
      match c with
      | none => fail .noCommand
      | some c => command s c
      commands n

/-- Reads a part of a script. -/
def part (source : Source) (t : Text) : Drafting Unit := do
  modify fun d => { d with source, rest := t, used := 0, line := 1 }
  match (← get).pending with
  | some lines => linesFor lines.place lines.text
  | none => pure ()
  commands (t.length + 1)
  modify fun d => { d with isFirst := false }

/-- Reads an expression of the command line. -/
def expressionPart (t : Text) : Drafting Unit := do
  modify fun d => { d with expressions := d.expressions + 1 }
  part (.expression (← get).expressions) t

/-- Reads a script from a file. -/
def filePart (name : Text) : Drafting Unit := do
  match ← act (openOperand name) with
  | .error cause =>
    throw (.whole ("couldn't open file ".toList ++ name ++ ": ".toList ++ cause.reason.toList) 4)
  | .ok d =>
    match ← act (Machine.readAllThrough d) with
    | .error cause =>
      throw (.whole ("read error on ".toList ++ name ++ ": ".toList ++ cause.reason.toList) 4)
    | .ok t => part (.file name) t

/-- Ends the reading: all blocks have to be closed, and all labels to be there. -/
def complete : Drafting Script := do
  let d ← get
  match d.blocks with
  | block :: _ =>
    modify fun d => { d with source := block.source, used := 0 }
    fail .openBlock
  | [] =>
    d.jumps.forM fun (label, place) => do
      match d.labels.find? fun (l, _) => l == label with
      | some (_, target) => redirect place target
      | none =>
        if label ≠ [] then
          throw (.whole ("can't find label for jump to `".toList ++ label ++ ['\'']) 4)
        redirect place d.script.instructions.size
    return (← get).script
where
  /-- Sends a branch somewhere else. -/
  redirect (place target : Nat) : Drafting Unit :=
    changeAction place fun a =>
      match a with
      | .branch when _ => .branch when target
      | a => a

end Drafting

/-- Where messages point to. -/
def Draft.origin (d : Draft) (place : Nat) : Text :=
  match d.source with
  | .expression n =>
    "-e expression #".toList ++ decimal n ++ ", char ".toList ++ decimal place ++ ": ".toList
  | .file name =>
    "file ".toList ++ name ++ " line ".toList ++ decimal d.line ++ ": ".toList

end TextIntake.Tool.StreamEdit
