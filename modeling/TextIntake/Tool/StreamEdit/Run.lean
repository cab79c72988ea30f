import TextIntake.Tool.StreamEdit.Files

set_option autoImplicit false

/-!
# Editing

The instructions of a script are carried out on the line in the space, one after the
other; then what is left in the space is written, and the next line is taken.
-/

namespace TextIntake.Tool.StreamEdit

namespace Edit

/-! ## Matching -/

/-- A text as an expression looks at it. -/
def field (e : Expression) (text : Text) : Pattern.Field where
  text := (if e.foldCase then text.map Char.toUpper else text).toArray
  lineEnd := e.lineEnd

/-- The expression that is meant, when texts of so many groups are asked for. -/
def meant (origin : Text) (e : Option Expression) (groups : Nat) : Edit Expression := do
  match e with
  | some e =>
    modify fun x => { x with lastUsed := some e }
    return e
  | none =>
    match (← get).lastUsed with
    | none =>
      act (complain toolName (origin ++ Fault.noExpression.message.toList))
      throw 1
    | some e =>
      if e.isAddress ∧ e.program.groups < groups then
        act (complain toolName (origin ++ badReference groups))
        throw 1
      return e

/-- Whether an address tells the line in the space. -/
def holds (s : Settings) (origin : Text) (a : Address) : Edit Bool := do
  let e ← get
  match a with
  | .line n => return e.line = n
  | .every first step => return first ≤ e.line ∧ (e.line - first) % step = 0
  | .last => isLastLine s
  | .matching x =>
    let x ← meant origin x 0
    return x.program.occurs (field x e.space.text)
  | .further _ | .multiple _ => return false

/-- Notes how a selection of several lines goes on. -/
def note (place : Nat) (p : Progress) : Edit Unit :=
  modify fun e => { e with progress := e.progress.set! place p }

/-- The progress of a selection that ended.  One that starts at a line by its number does not
start again. -/
def Progress.ended (first : Address) : Progress :=
  match first with
  | .line _ => .over
  | _ => .idle

/-- Whether a selection of several lines starts with the line in the space.  One that starts
at a line by its number starts behind it when that line was passed over, as long as it is
not known to be over there. -/
def starts (s : Settings) (origin : Text) (first second : Address) : Edit Bool := do
  let line := (← get).line
  match first, second with
  | .line n, .line m => return n = line ∨ (n < line ∧ line ≤ m)
  | .line n, _ => return n ≤ line
  | first, _ => holds s origin first

/-- Starts a selection of several lines.  It is over at once where the second address is
known to be reached. -/
def start (s : Settings) (origin : Text) (place : Nat) (first second : Address) :
    Edit Unit := do
  let line := (← get).line
  let upTo (stop : Nat) : Edit Unit :=
    note place (if stop ≤ line then Progress.ended first else .active (some stop))
  match second with
  | .line n => upTo n
  | .further n => upTo (line + n)
  | .multiple n => upTo (if n = 0 then line else line + n - line % n)
  | .matching _ => note place (.active none)
  | .every _ _ | .last =>
    note place (if ← holds s origin second then Progress.ended first else .active none)

/-- Whether a selection holds the line in the space. -/
def selects (s : Settings) (origin : Text) (place : Nat) (selection : Selection) :
    Edit Bool := do
  match selection.first, selection.second with
  | none, _ => return true
  | some first, none => holds s origin first
  | some first, some second =>
    match ((← get).progress[place]?).getD .idle with
    | .over => return false
    | .idle =>
      let isStart ← starts s origin first second
      if isStart then start s origin place first second
      return isStart
    | .active (some stop) =>
      let line := (← get).line
      if stop ≤ line then note place (Progress.ended first)
      match second with
      | .line _ => return line ≤ stop
      | _ => return true
    | .active none =>
      if ← holds s origin second then note place (Progress.ended first)
      return true

/-! ## Substituting -/

/-- A text that pieces make up. -/
structure Composed where
  /-- the parts, the last one first -/
  parts : List Text := []
  /-- a change of a first letter that has met no letter yet -/
  carried : Casing := .asIs
  deriving DecidableEq, Repr, Inhabited

/-- A text with one more piece. -/
def Composed.add (text : Array Char) (m : Pattern.Match) (c : Composed) (p : Piece) : Composed :=
  let first := if p.change.first = .asIs then c.carried else p.change.first
  let change : CaseChange := { p.change with first }
  let own := change.apply p.text
  let rest : CaseChange := if p.text = [] then change else { change with first := .asIs }
  match p.group with
  | none => { parts := own :: c.parts }
  | some n =>
    match m.groupText text n with
    | [] =>
      { parts := own :: c.parts
        carried := if p.change.first = .asIs then .asIs else rest.first }
    | t => { parts := rest.apply t :: own :: c.parts }

/-- What a replacement makes of a match. -/
def composed (pieces : List Piece) (text : Array Char) (m : Pattern.Match) : Text :=
  (pieces.foldl (Composed.add text m) {}).parts.reverse.flatten

/-- Replaces matches from a place on, of which there can be so many; `next` finds them.
`count` is the number of the matches in front, and `last` the place where the last one
stopped.  Nothing comes of it when none counts. -/
def replaceFrom (s : Substitution) (next : Nat → Option Pattern.Match) (text : Array Char) :
    Nat → Nat → Nat → Option Nat → List Text → Option (List Text)
  | 0, _, _, _, _ => none
  | fuel + 1, place, count, last, done =>
    let rest : Text := (text.extract place text.size).toList
    let ended : Option (List Text) := if count < s.start then none else some (rest :: done)
    match if place ≤ text.size then next place else none with
    | none => ended
    | some m =>
      let before : Text := (text.extract place m.start).toList
      let behind : Text := (text.extract m.stop (m.stop + 1)).toList
      if m.start = m.stop ∧ last = some m.start then
        replaceFrom s next text fuel (m.stop + 1) count none (behind :: before :: done)
      else
        let count := count + 1
        let new : Text :=
          if count < s.start then (text.extract m.start m.stop).toList
          else composed s.pieces text m
        let done := new :: before :: done
        if s.start ≤ count ∧ !s.all then
          some ((text.extract m.stop text.size).toList :: done)
        else if m.start = m.stop then
          replaceFrom s next text fuel (m.stop + 1) count none (behind :: done)
        else replaceFrom s next text fuel m.stop count (some m.stop) done

/-- Replaces the matches of a text, if there are any that count. -/
def replaced? (s : Substitution) (e : Expression) (text : Text) : Option Text :=
  let next := e.program.search (field e text)
  let text := text.toArray
  (replaceFrom s next text (text.size + 2) 0 0 none []).map fun parts => parts.reverse.flatten

/-- What a command writes. -/
def commandOutput (shell : Tool) (command : Text) : Edit Text := do
  let command := command.takeWhile (· ≠ Char.ofNat 0)
  act do
    let file ← Machine.addFile #[]
    let description ← Machine.addOpening { target := .file file, writes := true }
    let (_, stop) ← Machine.fork do
      Machine.attach 1 description
      shell "sh".toList ["-c".toList, command]
    Machine.waitUntil stop
    return ((← get).content file).toList

/-- Makes a substitution in the space. -/
def substitute (shell : Tool) (s : Settings) (origin : Text) (x : Substitution) : Edit Unit := do
  let e ← meant origin x.expression x.groups
  match replaced? x e (← get).space.text with
  | none => return
  | some text =>
    modify fun e => { e with replaced := true, space := { e.space with text } }
    if x.printsBefore then writeSpace s 0 (← get).space
    if x.evaluates then
      let t ← commandOutput shell text
      modify fun e => { e with space := { e.space with text := chomp s.terminator t } }
    if x.printsAfter then writeSpace s 0 (← get).space
    match x.output with
    | some sink => writeSpace s sink (← get).space
    | none => return

/-! ## Instructions -/

/-- How a character is listed. -/
def listed (c : Char) : Text :=
  if c = '\\' then ['\\', '\\']
  else if isPrintable c then [c]
  else
    match controlLetters.find? fun (_, d) => d == c with
    | some (letter, _) => ['\\', letter]
    | none => '\\' :: padLeft 3 '0' (Nat.toDigits 8 c.toNat)

/-- A text listed in lines of a width, of which so much is used already. -/
def listing (terminator : Char) (width : Nat) : Nat → Text → List Text
  | _, [] => [['$', terminator]]
  | used, c :: t =>
    let shown := listed c
    if width ≠ 0 ∧ width - 1 < used + shown.length then
      ['\\', terminator] :: shown :: listing terminator width shown.length t
    else shown :: listing terminator width (used + shown.length) t

/-- The text in front of the first end of a line. -/
def firstLine (s : Settings) (t : Text) : Text := t.takeWhile (· ≠ s.terminator)

/-- The first line of a space. -/
def Space.firstLine (s : Settings) (space : Space) : Space where
  text := Edit.firstLine s space.text
  isEnded := space.isEnded || space.text.contains s.terminator

/-- Writes the space unless there is to be no output by default. -/
def writeByDefault (s : Settings) : Edit Unit := do
  if !s.quiet then writeSpace s 0 (← get).space

/-- Changes the text of the space. -/
def setText (t : Text) : Edit Unit :=
  modify fun e => { e with space := { e.space with text := t } }

/-- Writes lines that a script gives; the last of them ends as the lines of the input do. -/
def writeInsertion (s : Settings) (t : Text) : Edit Unit :=
  writeLines s 0 (if t = [] then [] else t.dropLast ++ [s.terminator])

/-- Lets something be written behind the line. -/
def addTrailer (trailer : Trailer) : Edit Unit :=
  modify fun e => { e with trailers := e.trailers ++ [trailer] }

/-- Carries out an action; the next place is `onward`. -/
def carryOut (shell : Tool) (s : Settings) (origin : Text) (place : Nat) (a : Action) :
    Edit Onward := do
  let onward : Onward := .at (place + 1)
  let e ← get
  match a with
  | .mark | .block _ => return onward
  | .branch .always target => return .at target
  | .branch .replaced target =>
    set { e with replaced := false }
    return if e.replaced then .at target else onward
  | .branch .notReplaced target =>
    set { e with replaced := false }
    return if e.replaced then onward else .at target
  | .append t =>
    addTrailer (.text t)
    return onward
  | .insert t =>
    writeInsertion s t
    return onward
  | .change t =>
    match (e.progress[place]?).getD .idle with
    | .active _ => pure ()
    | _ => writeInsertion s t
    return .nextLine
  | .delete => return .nextLine
  | .deleteFirst =>
    if e.space.text.contains s.terminator then
      setText ((e.space.text.drop (firstLine s e.space.text).length).drop 1)
      return .again
    else return .nextLine
  | .execute none =>
    let t ← commandOutput shell e.space.text
    setText (chomp s.terminator t)
    return onward
  | .execute (some command) =>
    endLine s 0
    write s 0 (← commandOutput shell command.dropLast)
    return onward
  | .name =>
    writeLines s 0 (e.name ++ [s.terminator])
    return onward
  | .get =>
    set { e with space := e.kept }
    return onward
  | .getMore =>
    set { e with space := e.space.join s e.kept }
    return onward
  | .hold =>
    set { e with kept := e.space }
    return onward
  | .holdMore =>
    set { e with kept := e.kept.join s e.space }
    return onward
  | .swap =>
    set { e with space := e.kept, kept := e.space }
    return onward
  | .list width =>
    writeLines s 0 (listing s.terminator (width.getD s.width) 0 e.space.text).flatten
    return onward
  | .next =>
    let isLast ← isLastLine s
    writeByDefault s
    if isLast then return .nextLine
    return if ← takeNext s false then onward else .nextLine
  | .nextMore =>
    if ← isLastLine s then
      if !s.strict then writeByDefault s
      return .nextLine
    setText (e.space.text ++ [s.terminator])
    return if ← takeNext s true then onward else .nextLine
  | .number =>
    writeLines s 0 (decimal e.line ++ [s.terminator])
    return onward
  | .print =>
    writeSpace s 0 e.space
    return onward
  | .printFirst =>
    writeSpace s 0 (Space.firstLine s e.space)
    return onward
  | .quit code =>
    writeByDefault s
    writeTrailers s
    return .over code
  | .quitSilently code => return .over code
  | .readFile name =>
    addTrailer (.file name)
    return onward
  | .readLine input =>
    match ← takeLine s input Machine.fullWork with
    | [] => return onward
    | t =>
      addTrailer (.text t)
      return onward
  | .substitute x =>
    substitute shell s origin x
    return onward
  | .transliterate table =>
    setText (e.space.text.map fun c =>
      ((table.find? fun (a, _) => a == c).map Prod.snd).getD c)
    return onward
  | .write sink =>
    writeSpace s sink e.space
    return onward
  | .writeFirst sink =>
    writeSpace s sink (Space.firstLine s e.space)
    return onward
  | .clear =>
    setText []
    return onward

/-- Carries out the instruction at a place. -/
def step (shell : Tool) (s : Settings) (x : Script) (place : Nat) : Edit Onward := do
  match x.instructions[place]? with
  | none =>
    writeByDefault s
    return .nextLine
  | some i =>
    let chosen ← selects s x.origin place i.selection
    if chosen != i.selection.negated then carryOut shell s x.origin place i.action
    else
      match i.action with
      | .block stop => return .at stop
      | _ => return .at (place + 1)

/-- Carries out instructions from a place on, so many at most: the code to end with. -/
def proceed (shell : Tool) (s : Settings) (x : Script) : Nat → Onward → Edit Nat
  | 0, _ => return 0
  | fuel + 1, onward => do
    act (Machine.spend (1 + (← get).space.text.length / 64))
    if ← act Machine.isOver then return 0
    match onward with
    | .at place => proceed shell s x fuel (← step shell s x place)
    | .again => proceed shell s x fuel (.at 0)
    | .nextLine => if ← takeNext s false then proceed shell s x fuel (.at 0) else return 0
    | .over code => return code

/-- Edits all files: the code to end with. -/
def all (shell : Tool) (s : Settings) (x : Script) : Edit Nat := do
  let code ← proceed shell s x Machine.fullWork .nextLine
  closeInput s
  return if (← get).isMissing then 2 else code

end Edit

/-- How an editing starts. -/
def Editing.initial (s : Settings) (x : Script) (files : List Text) : Editing :=
  let progress : Array Progress := x.instructions.map fun i =>
    match i.selection.first with
    | some (.line 0) => .active none
    | _ => .idle
  { progress, freshProgress := progress, files, startsAnew := s.separate
    sinks := x.sinks, feeds := x.feeds, ownFeeds := x.feeds.size }

/-- Edits files by a script: the code to end with.  What was read too much of the standard
input is given back. -/
def edit (shell : Tool) (s : Settings) (x : Script) (files : List Text) : Act Nat := do
  let whole : Edit Nat := do
    let code ←
      try Edit.all shell s x
      catch code => pure code
    Edit.releaseAll
    return code
  let (result, e) ← StateT.run (ExceptT.run whole) (Editing.initial s x files)
  Machine.unread 0 (((e.feeds[0]?).map Feed.ahead).getD []).length
  return match result with
    | .ok code => code
    | .error code => code

end TextIntake.Tool.StreamEdit
