import TextIntake.CommandLine.Program
import TextIntake.Tool.Toolbox

set_option autoImplicit false

/-!
# The executable

Brings the files that the arguments name into a tree, runs the program on it, and
carries back what has changed.  External commands are the tools of this library.
-/

namespace TextIntake.Main

open CommandLine

/-- The paths that the arguments name. -/
def namedPaths (arguments : List Text) : List Path :=
  match Arguments.read arguments with
  | .error _ => []
  | .ok a =>
    let input := (Location.read FileTree.initial a.input).path?
    ([a.optionsFile, a.logFile, some a.input, input].filterMap id).filter fun p =>
      p ≠ [] ∧ p ≠ ['-']

/-- Whether the standard input is to be read. -/
def wantsInput (arguments : List Text) : Bool :=
  match Arguments.read arguments with
  | .error _ => false
  | .ok a => a.input == ['-']

/-- What stands at a path of the file system. -/
def look (p : Path) : IO (Option (Node Bytes)) := do
  try
    let content ← IO.FS.readBinFile (String.ofList p)
    return some (.file content.toList)
  catch
    | .inappropriateType _ 21 _ => return some .directory
    | _ => return none

/-- The path of what a path lies in. -/
def parent (p : Path) : Path := ((p.reverse.dropWhile (· ≠ '/')).drop 1).reverse

/-- The tree with what stands at a path of the file system. -/
def load (tree : FileTree) (p : Path) : IO FileTree := do
  let places := [parent p, p].filter (· ≠ [])
  places.foldlM (fun tree q => do return ((← look q).map (tree.plant q)).getD tree) tree

/-- Carries a change of a file back to the file system. -/
def store (before after : FileTree) (p : Path) : IO Unit := do
  match before.read p, after.read p with
  | old, .ok content =>
    if old.toOption ≠ some content then
      IO.FS.writeBinFile (String.ofList p) ⟨content.toArray⟩
  | .ok _, .error _ => IO.FS.removeFile (String.ofList p)
  | _, _ => pure ()

/-- All bytes of the standard input. -/
def readInput (stdin : IO.FS.Stream) : Nat → IO (List UInt8)
  | 0 => return []
  | rounds + 1 => do
    let chunk ← stdin.read 65536
    if chunk.isEmpty then return []
    return chunk.toList ++ (← readInput stdin rounds)

/-- The most rounds in which the standard input is read. -/
def inputRounds : Nat := 0x100000

end TextIntake.Main

open TextIntake TextIntake.Main in
/-- Reads one source and prints its summary. -/
def main (args : List String) : IO UInt32 := do
  let arguments := args.map String.toList
  let paths := namedPaths arguments
  let before ← paths.foldlM load FileTree.initial
  let bytes ← if wantsInput arguments then readInput (← IO.getStdin) inputRounds else pure []
  let exit := CommandLine.run { host := Tool.toolbox } arguments bytes before
  paths.forM (store before exit.tree)
  IO.print (String.ofList exit.stdout)
  IO.eprint (String.ofList exit.stderr)
  return UInt32.ofNat exit.code
