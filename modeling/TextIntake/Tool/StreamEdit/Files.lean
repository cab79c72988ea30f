import TextIntake.Tool.StreamEdit.Reading

set_option autoImplicit false

/-!
# Lines in and out

A line of the input is taken into a space; a second space keeps text from one line to
the next.  What is to be written behind a line waits until the next one is taken, and
what goes to the standard output waits until there is much of it.
-/

namespace TextIntake.Tool.StreamEdit

/-! ## The state -/

/-- A text with the knowledge whether its line had an end. -/
structure Space where
  text : Text := []
  isEnded : Bool := true
  deriving DecidableEq, Repr, Inhabited

/-- Two texts with the end of a line between them; the second tells about the end behind
them. -/
def Space.join (s : Settings) (a b : Space) : Space where
  text := a.text ++ s.terminator :: b.text
  isEnded := b.isEnded

/-- Whether a selection of several lines goes on. -/
inductive Progress where
  | idle
  /-- up to a line, where that is known -/
  | active (stop : Option Nat)
  /-- it is over and does not start again -/
  | over
  deriving DecidableEq, Repr, Inhabited

/-- What is written behind a line. -/
inductive Trailer where
  | text (t : Text)
  | file (name : Text)
  deriving DecidableEq, Repr, Inhabited

/-- How far an editing is. -/
structure Editing where
  space : Space := {}
  kept : Space := {}
  line : Nat := 0
  /-- whether a substitution was made -/
  replaced : Bool := false
  trailers : List Trailer := []
  /-- the expression that was used last -/
  lastUsed : Option Expression := none
  progress : Array Progress := #[]
  /-- the progress with which every file starts that is edited on its own -/
  freshProgress : Array Progress := #[]
  /-- the files that are still to be read -/
  files : List Text := []
  /-- the feed that is read -/
  input : Option Nat := none
  /-- the name of the file that was opened last -/
  name : Text := ['-']
  /-- whether the lines are counted anew with the next file -/
  startsAnew : Bool := false
  sinks : Array Sink := #[]
  feeds : Array Feed := #[]
  /-- how many of the feeds belong to the script -/
  ownFeeds : Nat := 1
  /-- what waits to be written to the standard output -/
  waiting : Text := []
  isMissing : Bool := false
  deriving Inhabited

/-- What edits.  It may end everything with a code. -/
abbrev Edit := ExceptT Nat (StateT Editing Act)

/-- Where an editing goes on behind an instruction. -/
inductive Onward where
  | at (place : Nat)
  /-- with the next line -/
  | nextLine
  /-- at the start, with what is left in the space -/
  | again
  | over (code : Nat)
  deriving DecidableEq, Repr, Inhabited

namespace Edit

/-- Something the machine does. -/
def act {α : Type} (a : Act α) : Edit α := ExceptT.lift (StateT.lift a)

/-- The name under which messages are written. -/
def toolName : Text := "sed".toList

/-- Ends everything with a message. -/
def stop {α : Type} (message : Text) : Edit α := do
  act (complain toolName message)
  throw 4

/-! ## Writing -/

/-- How much waits at most to be written. -/
def capacity : Nat := 4096

/-- Writes to the standard output what waits, up to a count. -/
def release (count : Nat) : Edit Unit := do
  let t := (← get).waiting
  if count = 0 ∨ t = [] then return
  modify fun e => { e with waiting := t.drop count }
  match ← act (Machine.write 1 (t.take count)) with
  | .ok _ => return
  | .error cause =>
    modify fun e => { e with waiting := [] }
    stop ("couldn't flush stdout: ".toList ++ cause.reason.toList)

/-- Writes all that waits. -/
def releaseAll : Edit Unit := do release (← get).waiting.length

/-- Writes a text to a sink as it is. -/
def write (s : Settings) (sink : Nat) (t : Text) : Edit Unit := do
  let e ← get
  match (e.sinks[sink]?).bind Sink.description with
  | some d =>
    match ← act (Machine.writeThrough d t) with
    | .ok _ => return
    | .error cause =>
      let name := ((e.sinks[sink]?).map Sink.name).getD []
      stop ("couldn't flush ".toList ++ name ++ ": ".toList ++ cause.reason.toList)
  | none =>
    let waiting := e.waiting ++ t
    set { e with waiting }
    if s.unbuffered then releaseAll
    else if capacity < waiting.length then
      release (waiting.length - waiting.length % capacity)

/-- Ends the last line of a sink where that is still to be done. -/
def endLine (s : Settings) (sink : Nat) : Edit Unit := do
  if ((← get).sinks[sink]?).any Sink.lacksEnd then
    write s sink [s.terminator]
    modify fun e => { e with sinks := e.sinks.modify sink fun k => { k with lacksEnd := false } }

/-- Writes lines to a sink. -/
def writeLines (s : Settings) (sink : Nat) (t : Text) : Edit Unit := do
  endLine s sink
  write s sink t

/-- Writes a space to a sink as a line. -/
def writeSpace (s : Settings) (sink : Nat) (space : Space) : Edit Unit := do
  endLine s sink
  write s sink (if space.isEnded then space.text ++ [s.terminator] else space.text)
  if !space.isEnded then
    modify fun e => { e with sinks := e.sinks.modify sink fun k => { k with lacksEnd := true } }

/-! ## Reading -/

/-- The feed with a number. -/
def feed (n : Nat) : Edit Feed := do return ((← get).feeds[n]?).getD {}

/-- Changes a feed. -/
def changeFeed (n : Nat) (change : Feed → Feed) : Edit Unit :=
  modify fun e => { e with feeds := e.feeds.modify n change }

/-- How much is read at once. -/
def block (s : Settings) (n : Nat) (f : Feed) : Nat :=
  if s.unbuffered ∧ (n = 0 ∨ f.name = ['-']) then 1 else capacity

/-- Reads more from a feed: why it failed, if it did. -/
def fill (s : Settings) (n : Nat) : Edit (Option IoFailure) := do
  let f ← feed n
  if f.ended then return none
  let d? ← if n = 0 then pure ((← act get).description? 0) else pure f.description
  match d? with
  | none =>
    changeFeed n fun f => { f with ended := true }
    return some .badDescriptor
  | some d =>
    match ← act (Machine.readThrough d (block s n f)) with
    | .error cause =>
      changeFeed n fun f => { f with ended := true }
      return some cause
    | .ok [] =>
      changeFeed n fun f => { f with ended := true }
      return none
    | .ok t =>
      changeFeed n fun f => { f with ahead := f.ahead ++ t }
      return none

/-- The name of a feed in messages. -/
def feedName (n : Nat) (f : Feed) : Text := if n = 0 then "stdin".toList else f.name

/-- Complains about a feed that cannot be read. -/
def unreadable {α : Type} (n : Nat) (cause : IoFailure) : Edit α := do
  stop ("read error on ".toList ++ feedName n (← feed n) ++ ": ".toList ++ cause.reason.toList)

/-- Takes a line from a feed with its end, in at most so many readings. -/
def takeLine (s : Settings) (n : Nat) : Nat → Edit Text
  | 0 => return []
  | rounds + 1 => do
    let f ← feed n
    if f.ahead.contains s.terminator ∨ f.ended then
      let line := f.ahead.takeWhile (· ≠ s.terminator)
      let rest := f.ahead.drop line.length
      changeFeed n fun f => { f with ahead := rest.drop 1 }
      return line ++ rest.take 1
    else
      match ← fill s n with
      | some cause => unreadable n cause
      | none => takeLine s n rounds

/-- Whether a feed has nothing more. -/
def isExhausted (s : Settings) (n : Nat) : Edit Bool := do
  if (← feed n).ahead ≠ [] then return false
  let _ ← fill s n
  return (← feed n).ahead = []

/-! ## Files -/

/-- The part of a name behind the last slash, and what is in front. -/
def splitName (name : Text) : Text × Text :=
  let base := (name.reverse.takeWhile (· ≠ '/')).reverse
  (name.take (name.length - base.length), base)

/-- The name under which an edited file is kept. -/
def backupName (form name : Text) : Text :=
  let (directory, base) := splitName name
  let new := form.flatMap fun c => if c = '*' then base else [c]
  if new.contains '/' then new else directory ++ new

/-- Puts what a file was edited to in its place. -/
def replaceFile (form name : Text) : Edit Unit := do
  let e ← get
  match (e.sinks[0]?).bind Sink.description with
  | none => return
  | some d =>
    if form ≠ ['*'] then
      match ← act (Machine.rename name (backupName form name)) with
      | .ok _ => pure ()
      | .error cause =>
        stop ("cannot rename ".toList ++ name ++ ": ".toList ++ cause.reason.toList)
    match (← act get).openings[d]? with
    | some { target := .file n, .. } =>
      match ← act (Machine.link name n) with
      | .ok _ => pure ()
      | .error cause =>
        stop ("cannot rename ".toList ++ name ++ ": ".toList ++ cause.reason.toList)
    | _ => pure ()
    modify fun e => { e with sinks := e.sinks.set! 0 {} }

/-- Ends the reading of the file that is read. -/
def closeInput (s : Settings) : Edit Unit := do
  let e ← get
  match e.input, s.inPlace with
  | some _, some form => replaceFile form e.name
  | _, _ => pure ()
  modify fun e => { e with input := none }

/-- Opens the next file. -/
def openInput (s : Settings) (name : Text) : Edit Unit := do
  if name = standardInput ∧ s.inPlace.isNone then
    changeFeed 0 fun f => { f with ended := false }
    modify fun e => { e with input := some 0, name }
  else
    match ← act (Machine.openPath .input name) with
    | .error cause =>
      act (complain toolName ("can't read ".toList ++ name ++ ": ".toList ++ cause.reason.toList))
      modify fun e => { e with isMissing := true }
    | .ok d =>
      if s.inPlace.isSome then
        match (← act get).openings[d]? with
        | some { target := .file _, .. } => pure ()
        | _ => stop ("couldn't edit ".toList ++ name ++ ": not a regular file".toList)
        let file ← act (Machine.addFile #[])
        let new ← act (Machine.addOpening { target := .file file, writes := true })
        modify fun e => { e with sinks := e.sinks.set! 0 { description := some new } }
      let number := (← get).feeds.size
      modify fun e =>
        { e with
          feeds := e.feeds.push { name, description := some d }, input := some number, name }

/-- Goes on to a file that has something to read; whether there is none. -/
def isLastFile (s : Settings) : List Text → Edit Bool
  | [] => do
    closeInput s
    modify fun e => { e with files := [] }
    return true
  | name :: files => do
    closeInput s
    modify fun e => { e with files }
    openInput s name
    match (← get).input with
    | some n => if ← isExhausted s n then isLastFile s files else return false
    | none => isLastFile s files

/-- Whether the line in the space is the last one. -/
def isLastLine (s : Settings) : Edit Bool := do
  match (← get).input with
  | none => isLastFile s (← get).files
  | some n =>
    if !(← isExhausted s n) then return false
    else if s.separate then return true
    else isLastFile s (← get).files

/-- Ends the line that was written last, and writes what waits behind it. -/
def writeTrailers (s : Settings) : Edit Unit := do
  endLine s 0
  let trailers := (← get).trailers
  modify fun e => { e with trailers := [] }
  trailers.forM fun trailer => do
    match trailer with
    | .text t => write s 0 t
    | .file name =>
      if name = "/dev/stdin".toList then
        let e ← get
        let ahead := ((e.feeds[0]?).map Feed.ahead).getD []
        changeFeed 0 fun f => { f with ahead := [], ended := true }
        match ← act (Machine.readAll 0) with
        | .ok t => write s 0 (ahead ++ t)
        | .error cause => unreadable 0 cause
      else
        match ← act (Machine.openPath .input name) with
        | .error _ => return
        | .ok d =>
          match ← act (Machine.readAllThrough d) with
          | .ok t => write s 0 t
          | .error cause =>
            stop ("read error on ".toList ++ name ++ ": ".toList ++ cause.reason.toList)

/-- Starts to count the lines anew, with nothing kept.  The script reads its own files from
the start again. -/
def startAnew : Edit Unit := do
  modify fun e =>
    { e with
      line := 0, kept := { e.kept with text := [] }, progress := e.freshProgress
      startsAnew := false }
  ((List.range (← get).ownFeeds).drop 1).forM fun n => do
    match (← feed n).description with
    | some d =>
      act (Machine.changeOpening d fun o => { o with offset := 0 })
      changeFeed n fun f => { f with ahead := [], ended := false }
    | none => return

/-- Takes the next line, behind what is in the space or in place of it; there may be so
many files.  Whether there was one. -/
def takeFrom (s : Settings) (behind : Bool) : Nat → Edit Bool
  | 0 => return false
  | files + 1 => do
    let e ← get
    match e.input with
    | none =>
      match e.files with
      | [] => return false
      | name :: rest =>
        if e.startsAnew then startAnew
        modify fun e => { e with files := rest }
        openInput s name
        if s.separate then
          modify fun e => { e with startsAnew := true }
        takeFrom s behind files
    | some n =>
      match ← takeLine s n Machine.fullWork with
      | [] =>
        closeInput s
        takeFrom s behind files
      | t =>
        let text := chomp s.terminator t
        modify fun e =>
          { e with
            line := e.line + 1
            space :=
              { text := if behind then e.space.text ++ text else text
                isEnded := text.length < t.length } }
        return true

/-- Takes the next line: whether there is one. -/
def takeNext (s : Settings) (behind : Bool) : Edit Bool := do
  if (← get).trailers ≠ [] then writeTrailers s
  modify fun e => { e with replaced := false }
  takeFrom s behind (2 * (← get).files.length + 2)

end Edit

end TextIntake.Tool.StreamEdit
