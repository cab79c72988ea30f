import TextIntake.Bytes
import TextIntake.File.Failure
import TextIntake.File.Path

set_option autoImplicit false

/-!
# File trees

The files that a run can see, as a value.  Paths are followed name by name from
the working directory, or from the root when they start with `/`.
-/

namespace TextIntake

/-- Something that is neither a file nor a directory. -/
inductive Device where
  /-- reads as empty and takes everything -/
  | null
  /-- reads as NULs without end and takes everything -/
  | zero
  /-- reads as NULs without end and takes nothing -/
  | full
  /-- a stream that whoever looks has open, by its number -/
  | stream (number : Nat)
  deriving DecidableEq, Repr, Inhabited

/-- What stands at a place in the tree.  A file holds `α`. -/
inductive Node (α : Type) where
  | file (content : α)
  | directory
  | device (d : Device)
  deriving DecidableEq, Repr, Inhabited

/-- A tree of files.  A place is given by the names that lead to it from the root. -/
structure Tree (α : Type) where
  nodes : List (List Text × Node α) := []
  deriving DecidableEq, Repr, Inhabited

/-- A tree whose files are byte strings. -/
abbrev FileTree := Tree Bytes

namespace Tree

variable {α β : Type}

/-- Where relative paths start. -/
def workingDirectory : List Text := ["work".toList]

/-- The node at a place.  The root is always a directory. -/
def at? (t : Tree α) (place : List Text) : Option (Node α) :=
  if place = [] then some .directory
  else (t.nodes.find? fun (p, _) => p == place).map Prod.snd

/-- The tree with a node put at a place. -/
def put (t : Tree α) (place : List Text) (node : Node α) : Tree α where
  nodes := (place, node) :: t.nodes.filter fun (p, _) => p != place

/-- The tree without the node at a place. -/
def drop (t : Tree α) (place : List Text) : Tree α where
  nodes := t.nodes.filter fun (p, _) => p != place

/-- The names of what a directory holds. -/
def children (t : Tree α) (place : List Text) : List Text :=
  t.nodes.filterMap fun (p, _) => if p.dropLast = place then p.getLast? else none

/-- The longest name, in bytes. -/
def maxName : Nat := 255

/-- The longest path, in bytes. -/
def maxPath : Nat := 4095

/-- What a walk ends at: a place, and the node there if there is one. -/
structure Spot (α : Type) where
  place : List Text
  node : Option (Node α)
  deriving DecidableEq, Repr, Inhabited

/-- Follows names from a place.  Every place on the way has to be a directory;
the last name may lead to a place that is empty. -/
def walk (t : Tree α) : List Text → List Text → Except IoFailure (Spot α)
  | place, [] => .ok ⟨place, t.at? place⟩
  | place, name :: names =>
    match t.at? place with
    | none => .error .notFound
    | some (.file _) | some (.device _) => .error .notADirectory
    | some .directory =>
      if name = ['.', '.'] then walk t place.dropLast names
      else if maxName < Text.byteLength name then .error .nameTooLong
      else walk t (place ++ [name]) names

/-- Whether a path ends in a slash. -/
def endsInSlash (p : Path) : Bool := p.getLast? == some '/'

/-- Whether the last name of a path is `.` or `..`. -/
def endsInDots (p : Path) : Bool :=
  match ((Path.splitOn '/' p).filter (· ≠ [])).getLast? with
  | some name => name = ['.'] || name = ['.', '.']
  | none => false

/-- Whether a path asks for a directory by the way it ends. -/
def wantsDirectory (p : Path) : Bool := endsInSlash p || endsInDots p

/-- Follows a path from a place, or from the root. -/
def locateFrom (t : Tree α) (start : List Text) (p : Path) : Except IoFailure (Spot α) :=
  if p.contains '\x00' then .error .nulInPath
  else if p = [] then .error .notFound
  else if maxPath < Text.byteLength p then .error .nameTooLong
  else t.walk (if Path.isAbsolute p then [] else start) (Path.names p)

/-- The place and the node that a path leads to from a place. -/
def find (t : Tree α) (start : List Text) (p : Path) :
    Except IoFailure (List Text × Node α) :=
  match t.locateFrom start p with
  | .error e => .error e
  | .ok ⟨_, none⟩ => .error .notFound
  | .ok ⟨place, some .directory⟩ => .ok (place, .directory)
  | .ok ⟨place, some node⟩ =>
    if wantsDirectory p then .error .notADirectory else .ok (place, node)

/-- The place of the file that is opened for writing at a path.  A path that asks for a
directory has none, not even where a file stands in the way. -/
def placeToWriteFrom (t : Tree α) (start : List Text) (p : Path) :
    Except IoFailure (List Text) :=
  match t.locateFrom start p with
  | .error e => .error e
  | .ok ⟨_, some .directory⟩ => .error .isADirectory
  | .ok ⟨place, node⟩ =>
    if endsInDots p then .error (if node.isSome then .notADirectory else .notFound)
    else if endsInSlash p then .error .isADirectory
    else .ok place

end Tree

namespace FileTree

/-- A tree whose working directory is empty. -/
def initial : FileTree where
  nodes := [(Tree.workingDirectory, .directory), (["tmp".toList], .directory),
    (["dev".toList], .directory), (["dev".toList, "null".toList], .device .null)]

/-- The node that a path leads to. -/
def status (t : FileTree) (p : Path) : Except IoFailure (Node Bytes) :=
  (t.find Tree.workingDirectory p).map Prod.snd

/-- Whether a path leads to anything. -/
def exists? (t : FileTree) (p : Path) : Bool := (t.status p).isOk

/-- The content of the file at a path. -/
def read (t : FileTree) (p : Path) : Except IoFailure Bytes :=
  match t.status p with
  | .error e => .error e
  | .ok (.file content) => .ok content
  | .ok .directory => .error .isADirectory
  | .ok (.device _) => .ok []

/-- Writes a file anew, over the file that was there. -/
def write (t : FileTree) (p : Path) (content : Bytes) : Except IoFailure FileTree :=
  (t.placeToWriteFrom Tree.workingDirectory p).map fun place =>
    match t.at? place with
    | some (.device _) => t
    | _ => t.put place (.file content)

/-- Removes the file at a path. -/
def remove (t : FileTree) (p : Path) : Except IoFailure FileTree :=
  match t.find Tree.workingDirectory p with
  | .error e => .error e
  | .ok (_, .directory) => .error .isADirectory
  | .ok (place, _) => .ok (t.drop place)

/-- The place that a path names, whatever stands on the way. -/
def placeOf (p : Path) : List Text :=
  (Path.names p).foldl (fun place n => if n = ['.', '.'] then place.dropLast else place ++ [n])
    (if Path.isAbsolute p then [] else Tree.workingDirectory)

/-- Puts a node at a path together with the directories that lead there. -/
def plant (t : FileTree) (p : Path) (node : Node Bytes) : FileTree :=
  let place := placeOf p
  let above := (List.range place.length).map fun n => place.take n
  let withDirectory (t : FileTree) (a : List Text) : FileTree :=
    if (t.at? a).isSome then t else t.put a .directory
  (above.foldl withDirectory t).put place node

end FileTree

end TextIntake
