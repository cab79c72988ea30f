import TextIntake.CommandLine.Arguments
import TextIntake.Options.Format
import TextIntake.Source.Run

set_option autoImplicit false

/-!
# The program

Reads one source and prints a summary of it.  The exit code is 2 when the program
was not called as it should be, 1 when the source could not be read, and 0
otherwise.
-/

namespace TextIntake.CommandLine

/-- What comes of a call. -/
structure Exit where
  code : Nat
  stdout : Text := []
  stderr : Text := []
  tree : FileTree
  deriving Inhabited

/-- The summary of a source that was read. -/
def summary (s : Source) (r : Report) : Json.Value :=
  let display := s.display
  .object [
    ("source", .text s.shownName),
    ("encoding", (s.encoding.map Encoding.toJson).getD .null),
    ("line_end_style", display.page.style.toJson),
    ("is_text", .bool display.isText),
    ("incomplete_conversion", .bool display.page.incomplete),
    ("size_bytes", .number display.size),
    ("display_lines", .number display.page.lineCount),
    ("comparison_lines", .number ((s.comparisonLines?.map View.Lines.count).getD 0)),
    ("pure_comment_lines", .number ((display.lines?.map View.Lines.pureComments).getD 0)),
    ("messages", .array (r.messages.map fun m => .text m.toList))]

/-- The options in force: those of the file, with what the arguments add. -/
def optionsInForce (a : Arguments) (tree : FileTree) : Except OptionsFault Options :=
  let loaded :=
    match a.optionsFile with
    | some path => Options.load tree path
    | none => .ok {}
  loaded.map fun o =>
    { o with
      ignoreComments := o.ignoreComments || a.ignoreComments
      ignoreCase := o.ignoreCase || a.ignoreCase }

/-- The choice of an encoding that the arguments make; the label when it is unknown. -/
def encodingChoice (a : Arguments) : Except Text EncodingChoice :=
  let autoDetect := !a.noAutoDetect
  match a.encoding with
  | none => .ok { autoDetect }
  | some label =>
    match Encoding.ofLabel? label with
    | some encoding => .ok { encoding, autoDetect }
    | none => .error label

/-- The source that the arguments name. -/
def sourceOf (input : Text) (stdin : Bytes) (tree : FileTree) : Except IoFailure Source :=
  if input = ['-'] then
    match Utf8.decode? stdin with
    | some t => .ok (({} : Source).setData t)
    | none => .error .notUtf8
  else .ok (({} : Source).setFile tree input)

/-- Opens the log file: the files with it, and the complaint when it cannot be
opened. -/
def openLog (logFile : Option Path) (tree : FileTree) : FileTree × Text :=
  match logFile with
  | none => (tree, [])
  | some path =>
    match tree.write path [] with
    | .ok tree => (tree, [])
    | .error cause => (tree, s!"cannot open log file: {cause.message}\n".toList)

/-- Reads the source that the arguments name, and prints its summary. -/
def ingest (w : Surroundings) (a : Arguments) (stdin : Bytes) (tree : FileTree) : Exit :=
  let (tree, complaint) := openLog a.logFile tree
  let refuse (code : Nat) (message : String) : Exit :=
    { code, stderr := complaint ++ message.toList ++ ['\n'], tree }
  match optionsInForce a tree with
  | .error fault => refuse 2 fault.message
  | .ok options =>
    match encodingChoice a with
    | .error label => refuse 2 (Encoding.unknownMessage label)
    | .ok choice =>
      match sourceOf a.input stdin tree with
      | .error cause => refuse 1 s!"cannot read stdin: {cause.message}"
      | .ok source =>
        let outcome := source.run w choice options tree
        { code := if outcome.report.fatal?.isSome then 1 else 0
          stdout := (summary outcome.source outcome.report).pretty 0 ++ ['\n']
          stderr := complaint, tree := outcome.tree }

/-- Runs the program. -/
def run (w : Surroundings) (arguments : List Text) (stdin : Bytes) (tree : FileTree) : Exit :=
  match Arguments.read arguments with
  | .error fault => { code := 2, stderr := fault.message.toList ++ ['\n'], tree }
  | .ok a => ingest w a stdin tree

end TextIntake.CommandLine
