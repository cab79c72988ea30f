import TextIntake.Command.Run
import TextIntake.Tool.Cat
import TextIntake.Tool.CharMap
import TextIntake.Tool.Ends
import TextIntake.Tool.Print
import TextIntake.Tool.Remove
import TextIntake.Tool.Reverse
import TextIntake.Tool.Shell.Invocation
import TextIntake.Tool.Sleep
import TextIntake.Tool.Sorting.Invocation
import TextIntake.Tool.StreamEdit.Invocation

set_option autoImplicit false

/-!
# The toolbox

A host that knows the text tools of this library and nothing else.  It puts the files
around on a machine, connects the input and the output of a launch, lets the tool run
there and looks at what it leaves.  A name without a slash, or with one of the two
usual directories in front, names a tool; no other file can be started.
-/

namespace TextIntake.Tool

/-- The tool with a name.  A shell in it finds tools in which shells nest one level less
deep. -/
def tool? (depth : Nat) (name : Text) : Option Tool :=
  let shell : Tool :=
    match depth with
    | 0 => always 127
    | depth + 1 => sh (tool? depth)
  match String.ofList name with
  | "cat" => some cat
  | "echo" => some echo
  | "false" => some (always 1)
  | "head" => some head
  | "printf" => some printf
  | "rm" => some rm
  | "sed" => some (sed shell)
  | "sh" => some shell
  | "sleep" => some sleep
  | "sort" => some sort
  | "tac" => some tac
  | "tail" => some tail
  | "tr" => some tr
  | "true" => some (always 0)
  | _ => none

/-- How deep shells can nest. -/
def maxShells : Nat := 100

/-- Why a file that is no tool cannot be started. -/
def refusal (tree : FileTree) (name : Text) : IoFailure :=
  if name = [] then .notFound
  else if name.contains '/' then
    match tree.status name with
    | .ok _ => .permissionDenied
    | .error cause => cause
  else if Tree.maxName < Text.byteLength name then .nameTooLong
  else .notFound

/-! ## Setting up -/

/-- The environment in which tools start. -/
def environment : List (Text × Text) :=
  [("HOME".toList, "/root".toList), ("LC_ALL".toList, ['C']),
    ("PATH".toList, "/usr/local/sbin:/usr/local/bin:/usr/sbin:/usr/bin:/sbin:/bin".toList)]

/-- The places of the devices that a machine has besides those of every tree. -/
def devices : List (List String × Device) :=
  [(["dev", "zero"], .zero), (["dev", "full"], .full), (["dev", "stdin"], .stream 0),
    (["dev", "stdout"], .stream 1), (["dev", "stderr"], .stream 2)] ++
    (List.range 10).map fun n => (["dev", "fd", toString n], .stream n)

/-- The nodes that a machine has besides those of every tree. -/
def extraNodes : List (List Text × Node Nat) :=
  (["dev".toList, "fd".toList], .directory) ::
    devices.map fun (place, d) => (place.map String.toList, .device d)

/-- The files of a tree and, by their numbers, their names. -/
def numbered : List (List Text × Node Bytes) → Nat →
    List (List Text × Node Nat) × List (Array Char)
  | [], _ => ([], [])
  | (place, node) :: rest, n =>
    match node with
    | .file content =>
      let (nodes, files) := numbered rest (n + 1)
      ((place, .file n) :: nodes, (Octets.ofBytes content).toArray :: files)
    | .directory =>
      let (nodes, files) := numbered rest n
      ((place, .directory) :: nodes, files)
    | .device d =>
      let (nodes, files) := numbered rest n
      ((place, .device d) :: nodes, files)

/-- A machine with the files of a tree. -/
def machine (tree : FileTree) (limit : Option Duration) : Machine :=
  let (nodes, files) := numbered tree.nodes 0
  { tree := ⟨nodes ++ extraNodes⟩
    files := files.toArray
    process := { number := 4711, parent := 4710, environment }
    deadline := (limit.map Duration.milliseconds).getD Machine.never
    work := Machine.fullWork
    nextNumber := 4712 }

/-- The tree that a machine leaves. -/
def treeOf (m : Machine) : FileTree :=
  let isExtra (place : List Text) : Bool := extraNodes.any fun (p, _) => p == place
  { nodes := m.tree.nodes.filterMap fun (place, node) =>
      match node with
      | .file n => some (place, .file (Octets.toBytes (m.content n).toList))
      | .directory => if isExtra place then none else some (place, .directory)
      | .device d => if isExtra place then none else some (place, .device d) }

/-- What stands at a path before a launch, as a target. -/
def targetAt (m : Machine) (p : Path) : Target :=
  match m.tree.find Tree.workingDirectory p with
  | .ok (_, .file n) => .file n
  | .ok (place, .directory) => .directory place
  | .ok (_, .device d) => .device d
  | .error _ => .device .null

/-- The target from which the input of a launch comes. -/
def inputTarget : Origin → Act Target
  | .file path => do return targetAt (← get) path
  | .scratch content => do
    return .file (← Machine.addFile (Octets.ofBytes content).toArray)

/-- The target to which the output of a launch goes. -/
def outputTarget : Option Path → Act Target
  | some path => do return targetAt (← get) path
  | none => do return .file (← Machine.addFile #[])

/-- What was written to a target. -/
def written (m : Machine) : Target → Bytes
  | .file n => Octets.toBytes (m.content n).toList
  | _ => []

/-- Runs a tool: how it ends, and where its output is. -/
def session (tool : Tool) (l : Launch) : Act (ExitStatus × Target) := do
  let input ← inputTarget l.input
  let output ← outputTarget l.output
  Machine.attach 0 (← Machine.addOpening { target := input, reads := true })
  Machine.attach 1 (← Machine.addOpening { target := output, writes := true })
  Machine.attach 2 (← Machine.addOpening { target := .device .null, writes := true })
  let status ← tool (Octets.ofText l.command.program) (l.command.args.map Octets.ofText)
  return (status, output)

/-- Runs a tool on the files of a tree. -/
def execute (tool : Tool) (l : Launch) (tree : FileTree) : Execution :=
  let ((status, output), m) := (session tool l).run (machine tree l.limit)
  { output := written m output, status, elapsed := ⟨m.now⟩, tree := treeOf m }

/-- The host that starts the tools of this library. -/
def toolbox : Host where
  start l tree :=
    match tool? maxShells (baseName l.command.program) with
    | none => .error (refusal tree l.command.program)
    | some tool => .ok (execute tool l tree)

end TextIntake.Tool
