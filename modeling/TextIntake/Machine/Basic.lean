import TextIntake.Command.Failure
import TextIntake.File.Tree
import TextIntake.Machine.Octets

set_option autoImplicit false

/-!
# A small machine

The machine on which programs run, as a value.  It has files, which a tree gives
their names, descriptions of what is open, pipes, and a clock.  One process runs at
a time; it has numbers for what it has open, a place from which it follows paths,
and an environment.

Programs that run side by side are taken one after the other, each from the time at
which it was started.  What is written to a pipe carries the time of writing, so
that a reader waits as long as it has to.  Behind the deadline nothing happens any
more.
-/

namespace TextIntake

/-- What an open description stands for. -/
inductive Target where
  | file (number : Nat)
  | directory (place : List Text)
  | device (d : Device)
  | pipe (number : Nat)
  deriving DecidableEq, Repr, Inhabited

/-- An open description. -/
structure Opening where
  target : Target
  offset : Nat := 0
  reads : Bool := false
  writes : Bool := false
  /-- whether all that is written goes to the end -/
  appends : Bool := false
  deriving DecidableEq, Repr, Inhabited

/-- A pipe. -/
structure Pipe where
  content : Array Char := #[]
  /-- how much was read -/
  taken : Nat := 0
  /-- how much was there and since when, the latest first -/
  marks : List (Nat × Nat) := []
  /-- when the last writer went -/
  closed : Nat := 0
  deriving Inhabited

/-- What belongs to the process that runs. -/
structure Process where
  number : Nat := 1
  /-- the number of the process that started it -/
  parent : Nat := 0
  /-- the descriptions that the process has open, by the numbers it knows them by -/
  descriptors : List (Nat × Nat) := []
  /-- where relative paths start -/
  place : List Text := Tree.workingDirectory
  environment : List (Text × Text) := []
  /-- the signals that leave the process alone -/
  ignored : List Nat := []
  /-- why the standard output could not be written -/
  outputFailure : Option IoFailure := none
  deriving Inhabited

/-- The state of the machine. -/
structure Machine where
  /-- the names of files, by the numbers of the files -/
  tree : Tree Nat := {}
  files : Array (Array Char) := #[]
  openings : Array Opening := #[]
  pipes : Array Pipe := #[]
  process : Process := {}
  /-- the time at which the process is, in milliseconds -/
  now : Nat := 0
  /-- the time at which everything stops -/
  deadline : Nat
  /-- how much can still be done before the machine is taken not to stop by itself -/
  work : Nat
  /-- the number for the next process -/
  nextNumber : Nat
  /-- the signals that were sent to processes that still go on, by their numbers -/
  sent : List (Nat × Nat) := []
  deriving Inhabited

/-- What a program does. -/
abbrev Act := StateM Machine

namespace Machine

/-- A time that never comes. -/
def never : Nat := 0x1000000000000

/-- The work that may be done. -/
def fullWork : Nat := 0x200000

/-! ## Time -/

/-- Whether the process is behind the deadline. -/
def isOver : Act Bool := do
  let m ← get
  return m.deadline ≤ m.now

/-- Lets time pass. -/
def pass (milliseconds : Nat) : Act Unit :=
  modify fun m => { m with now := min never (m.now + milliseconds) }

/-- Waits until a time. -/
def waitUntil (time : Nat) : Act Unit := modify fun m => { m with now := max m.now time }

/-- Waits for what never comes. -/
def hang : Act Unit := waitUntil never

/-- Does some work.  When none is left the process is taken never to end. -/
def spend (amount : Nat) : Act Unit :=
  modify fun m =>
    if m.work ≤ amount then { m with work := 0, now := never }
    else { m with work := m.work - amount }

/-! ## Descriptors -/

/-- The number of the description behind a descriptor. -/
def description? (m : Machine) (descriptor : Nat) : Option Nat :=
  (m.process.descriptors.find? fun (n, _) => n == descriptor).map Prod.snd

/-- The description behind a descriptor. -/
def opening? (m : Machine) (descriptor : Nat) : Option Opening :=
  (m.description? descriptor).bind fun n => m.openings[n]?

/-- Closes a descriptor. -/
def close (descriptor : Nat) : Act Unit :=
  modify fun m =>
    let descriptors := m.process.descriptors.filter fun (n, _) => n != descriptor
    { m with process := { m.process with descriptors } }

/-- Lets a descriptor stand for a description. -/
def attach (descriptor description : Nat) : Act Unit := do
  close descriptor
  modify fun m =>
    let descriptors := (descriptor, description) :: m.process.descriptors
    { m with process := { m.process with descriptors } }

/-- A new description: its number. -/
def addOpening (o : Opening) : Act Nat :=
  modifyGet fun m => (m.openings.size, { m with openings := m.openings.push o })

/-- Changes the description with a number. -/
def changeOpening (description : Nat) (change : Opening → Opening) : Act Unit :=
  modify fun m => { m with openings := m.openings.modify description change }

/-- A new file without a name: its number. -/
def addFile (content : Array Char) : Act Nat :=
  modifyGet fun m => (m.files.size, { m with files := m.files.push content })

/-- The content of a file. -/
def content (m : Machine) (file : Nat) : Array Char := (m.files[file]?).getD #[]

/-! ## Opening -/

/-- How something is opened. -/
structure Mode where
  reads : Bool := false
  writes : Bool := false
  creates : Bool := false
  truncates : Bool := false
  appends : Bool := false
  /-- refuse what is there already -/
  exclusive : Bool := false
  deriving DecidableEq, Repr, Inhabited

namespace Mode

/-- To read what is there. -/
def input : Mode := { reads := true }

/-- To write anew. -/
def output : Mode := { writes := true, creates := true, truncates := true }

/-- To write at the end. -/
def append : Mode := { writes := true, creates := true, appends := true }

/-- To read and to write what is there. -/
def update : Mode := { reads := true, writes := true, creates := true }

/-- To write what is not there yet. -/
def create : Mode := { writes := true, creates := true, exclusive := true }

end Mode

/-- Empties a file. -/
def truncate (file : Nat) : Act Unit :=
  modify fun m => { m with files := m.files.modify file fun _ => #[] }

/-- A description of a target that is there. -/
def openTarget (mode : Mode) (target : Target) : Act (Except IoFailure Nat) := do
  let new : Opening :=
    { target, reads := mode.reads, writes := mode.writes, appends := mode.appends }
  match target with
  | .file n =>
    if mode.truncates then truncate n
    return .ok (← addOpening new)
  | .directory _ =>
    if mode.writes then return .error .isADirectory
    return .ok (← addOpening new)
  | _ => return .ok (← addOpening new)

/-- Opens a path: the number of the description. -/
def openPath (mode : Mode) (name : Text) : Act (Except IoFailure Nat) := do
  let m ← get
  let p := Octets.path name
  let start := m.process.place
  match m.tree.find start p with
  | .ok (place, node) =>
    if mode.exclusive then return .error .alreadyExists
    match node with
    | .file n => openTarget mode (.file n)
    | .directory => openTarget mode (.directory place)
    | .device (.stream n) =>
      match m.opening? n with
      | some o => openTarget mode o.target
      | none => return .error .notFound
    | .device d => openTarget mode (.device d)
  | .error cause =>
    if !mode.creates then return .error cause
    match m.tree.placeToWriteFrom start p with
    | .error cause => return .error cause
    | .ok place =>
      let file ← addFile #[]
      modify fun m => { m with tree := m.tree.put place (.file file) }
      openTarget mode (.file file)

/-! ## Reading -/

/-- The characters of an array from one place to another. -/
def slice (content : Array Char) (start stop : Nat) : Text := (content.extract start stop).toList

/-- How much of a pipe is there at a time, beyond what was read; if that is nothing, when
more comes. -/
def Pipe.ready (p : Pipe) (now : Nat) : Nat × Option Nat :=
  let (there, later) := p.marks.reverse.foldl (fun (there, later) (size, time) =>
    if later.isSome then (there, later)
    else if time ≤ now ∨ size ≤ p.taken then (max there size, none)
    else (there, some time)) (0, none)
  if p.taken < there then (there - p.taken, none) else (0, later)

/-- Takes characters from a pipe.  Without any the reader waits for more, or for the last
writer to go. -/
def takeFromPipe (number most : Nat) : Act Text := do
  let m ← get
  match m.pipes[number]? with
  | none => return []
  | some p =>
    let (size, later) := Pipe.ready p m.now
    let size ← do
      if 0 < size then pure size
      else
        match later with
        | none => waitUntil p.closed; pure 0
        | some time => waitUntil time; pure (Pipe.ready p time).1
    let size := min size most
    if ← isOver then return []
    modify fun m =>
      { m with pipes := m.pipes.modify number fun p => { p with taken := p.taken + size } }
    return slice p.content p.taken (p.taken + size)

/-- Reads at most so many characters through a description.  No characters are the end. -/
def readThrough (description most : Nat) : Act (Except IoFailure Text) := do
  let m ← get
  if m.deadline ≤ m.now then return .ok []
  match m.openings[description]? with
  | none => return .error .badDescriptor
  | some o =>
    if !o.reads then return .error .badDescriptor
    match o.target with
    | .directory _ => return .error .isADirectory
    | .device .zero | .device .full =>
      spend most
      return .ok (List.replicate most (Char.ofNat 0))
    | .device _ => return .ok []
    | .pipe n => return .ok (← takeFromPipe n most)
    | .file n =>
      let t := slice (m.content n) o.offset (o.offset + most)
      changeOpening description fun o => { o with offset := o.offset + t.length }
      return .ok t

/-- Reads at most so many characters from a descriptor. -/
def read (descriptor most : Nat) : Act (Except IoFailure Text) := do
  match (← get).description? descriptor with
  | none => return .error .badDescriptor
  | some d => readThrough d most

/-- How much is read at once. -/
def block : Nat := 0x10000

/-- Reads all that is left, in at most so many rounds. -/
def readRounds (description : Nat) : Nat → Act (Except IoFailure (List Text))
  | 0 => return .ok []
  | rounds + 1 => do
    match ← readThrough description block with
    | .error cause => return .error cause
    | .ok [] => return .ok []
    | .ok t => return (← readRounds description rounds).map (t :: ·)

/-- Reads all that is left through a description. -/
def readAllThrough (description : Nat) : Act (Except IoFailure Text) := do
  return (← readRounds description fullWork).map List.flatten

/-- Reads all that is left of a descriptor. -/
def readAll (descriptor : Nat) : Act (Except IoFailure Text) := do
  match (← get).description? descriptor with
  | none => return .error .badDescriptor
  | some d => readAllThrough d

/-- Gives back characters that were read last, where that can be done. -/
def unread (descriptor count : Nat) : Act Unit := do
  let m ← get
  match m.description? descriptor, m.opening? descriptor with
  | some d, some { target := .file _, .. } =>
    changeOpening d fun o => { o with offset := o.offset - count }
  | _, _ => return

/-! ## Writing -/

/-- Characters put over those of an array from a place on.  NULs fill a gap. -/
def overwrite (content : Array Char) (place : Nat) (t : Text) : Array Char :=
  if place = content.size then content ++ t
  else
    let filled := content ++ List.replicate (place - content.size) (Char.ofNat 0)
    (t.foldl (fun (a, i) c => (if i < a.size then a.set! i c else a.push c, i + 1))
      (filled, place)).1

/-- Writes characters through a description. -/
def writeThrough (description : Nat) (t : Text) : Act (Except IoFailure Unit) := do
  let m ← get
  if m.deadline ≤ m.now then return .ok ()
  match m.openings[description]? with
  | none => return .error .badDescriptor
  | some o =>
    if !o.writes then return .error .badDescriptor
    match o.target with
    | .directory _ => return .error .badDescriptor
    | .device .full => return if t = [] then .ok () else .error .noSpace
    | .device _ => return .ok ()
    | .pipe n =>
      modify fun m =>
        let change (p : Pipe) : Pipe :=
          let content := p.content ++ t
          { p with content, marks := (content.size, m.now) :: p.marks }
        { m with pipes := m.pipes.modify n change }
      return .ok ()
    | .file n =>
      let place := if o.appends then (m.content n).size else o.offset
      modify fun m =>
        { m with files := m.files.modify n fun content => overwrite content place t }
      changeOpening description fun o => { o with offset := place + t.length }
      return .ok ()

/-- Writes characters to a descriptor. -/
def write (descriptor : Nat) (t : Text) : Act (Except IoFailure Unit) := do
  match (← get).description? descriptor with
  | none => return .error .badDescriptor
  | some d => if t = [] then return .ok () else writeThrough d t

/-! ## Names -/

/-- What a path leads to: the place and the node. -/
def find (m : Machine) (name : Text) : Except IoFailure (List Text × Node Nat) :=
  m.tree.find m.process.place (Octets.path name)

/-- Removes the name of a file. -/
def unlink (name : Text) : Act (Except IoFailure Unit) := do
  let m ← get
  match m.find name with
  | .error cause => return .error cause
  | .ok (_, .directory) => return .error .isADirectory
  | .ok (place, _) =>
    set { m with tree := m.tree.drop place }
    return .ok ()

/-- Gives a file a name, in place of what had it before. -/
def link (name : Text) (file : Nat) : Act (Except IoFailure Unit) := do
  let m ← get
  match m.tree.placeToWriteFrom m.process.place (Octets.path name) with
  | .error cause => return .error cause
  | .ok place =>
    set { m with tree := m.tree.put place (.file file) }
    return .ok ()

/-- Gives a file another name. -/
def rename (old new : Text) : Act (Except IoFailure Unit) := do
  let m ← get
  match m.find old with
  | .error cause => return .error cause
  | .ok (place, .file n) =>
    match ← link new n with
    | .error cause => return .error cause
    | .ok _ =>
      modify fun m =>
        match m.find new with
        | .ok (target, _) => if target = place then m else { m with tree := m.tree.drop place }
        | .error _ => m
      return .ok ()
  | .ok _ => return .error .invalid

/-- Removes an empty directory. -/
def removeDirectory (name : Text) : Act (Except IoFailure Unit) := do
  let m ← get
  match m.find name with
  | .error cause => return .error cause
  | .ok (place, .directory) =>
    if (Path.names (Octets.path name)).isEmpty ∨ (Octets.path name).getLast? = some '.' then
      return .error .invalid
    else if !(m.tree.children place).isEmpty then return .error .notEmpty
    else
      set { m with tree := m.tree.drop place }
      return .ok ()
  | .ok _ => return .error .notADirectory

/-- The names of what a directory holds. -/
def list (m : Machine) (name : Text) : List Text :=
  match m.find name with
  | .ok (place, .directory) => (m.tree.children place).map Octets.ofText
  | _ => []

/-! ## Pipes and processes -/

/-- A new pipe: the descriptions of its reading and of its writing end. -/
def addPipe : Act (Nat × Nat) := do
  let n ← modifyGet fun m => (m.pipes.size, { m with pipes := m.pipes.push {} })
  let reading ← addOpening { target := .pipe n, reads := true }
  let writing ← addOpening { target := .pipe n, writes := true }
  return (reading, writing)

/-- Notes the time at which the last writer of a pipe goes. -/
def closePipe (description : Nat) (time : Nat) : Act Unit :=
  modify fun m =>
    match m.openings[description]? with
    | some { target := .pipe n, .. } =>
      let change (p : Pipe) : Pipe := { p with closed := max p.closed time }
      { m with pipes := m.pipes.modify n change }
    | _ => m

/-- Runs something as a process of its own: what comes of it, and when it ends.  The
process that goes on is at the time at which the other one started. -/
def fork {α : Type} (act : Act α) : Act (α × Nat) := do
  let m ← get
  set { m with
    nextNumber := m.nextNumber + 1
    process := { m.process with number := m.nextNumber, parent := m.process.number } }
  let a ← act
  let after ← get
  set { after with process := m.process, now := m.now }
  return (a, after.now)

end Machine

end TextIntake
