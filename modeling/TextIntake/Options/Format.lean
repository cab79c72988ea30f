import TextIntake.Encoding.Label
import TextIntake.Encoding.Utf8
import TextIntake.File.Tree
import TextIntake.Json.Reader
import TextIntake.Json.Value
import TextIntake.Options.Basic

set_option autoImplicit false

/-!
# Options in JSON

Options are written as an object with all fields, and read from an object in
which every field may be missing.  The names of the fields and the words for
their values are those of options files.
-/

namespace TextIntake

/-! ## Single values -/

namespace Encoding

/-- An encoding is written by its name. -/
def toJson (e : Encoding) : Json.Value := .text e.name.toList

/-- The complaint about a label that names no encoding. -/
def unknownMessage (label : Text) : String := s!"unknown encoding: {String.ofList label}"

/-- Reads the label of an encoding. -/
def ofJson : Json.Step Encoding := fun t =>
  match Json.textValue t with
  | .error fault => .error fault
  | .ok (label, rest) =>
    match ofLabel? label with
    | some e => .ok (e, rest)
    | none => .error (.meaningless (unknownMessage label))

end Encoding

/-- A comment syntax is written by its word. -/
def Comment.Syntax.toJson (s : Comment.Syntax) : Json.Value := .text s.word.toList

/-- Reads the word for a comment syntax. -/
def Comment.Syntax.ofJson : Json.Step Comment.Syntax := Json.wordValue Comment.Syntax.ofWord?

/-- A line style is written by its word. -/
def LineStyle.toJson (s : LineStyle) : Json.Value := .text s.word.toList

/-- Reads the word for a line style. -/
def LineStyle.ofJson : Json.Step LineStyle := Json.wordValue LineStyle.ofWord?

/-! ## Records -/

namespace Limits

/-- Limits as an object. -/
def toJson (l : Limits) : Json.Value :=
  .object [("max_lines", .number l.maxLines), ("max_bytes", .number l.maxBytes)]

/-- The fields of limits. -/
def fields : List (Json.Field Limits) := [
  .of "max_lines" Json.naturalValue fun l n => { l with maxLines := n },
  .of "max_bytes" Json.naturalValue fun l n => { l with maxBytes := n }]

/-- Reads limits. -/
def ofJson : Json.Step Limits := Json.record fields {}

end Limits

namespace EncodingChoice

/-- A choice as an object. -/
def toJson (c : EncodingChoice) : Json.Value :=
  .object [("encoding", c.encoding.toJson), ("auto_detect", .bool c.autoDetect)]

/-- The fields of a choice; both have to be there. -/
def fields : List (Json.Field EncodingChoice) := [
  .of "encoding" Encoding.ofJson (fun c e => { c with encoding := e }) true,
  .of "auto_detect" Json.boolValue (fun c b => { c with autoDetect := b }) true]

/-- Reads a choice. -/
def ofJson : Json.Step EncodingChoice := Json.record fields {}

end EncodingChoice

/-- Why options could not be had from a file. -/
inductive OptionsFault where
  | unreadable (path : Path) (cause : IoFailure)
  | invalid (fault : Json.Fault)
  deriving DecidableEq, Repr, Inhabited

/-- The wording of what is wrong with an options file. -/
def OptionsFault.message : OptionsFault → String
  | unreadable path cause => s!"cannot read options file {String.ofList path}: {cause.message}"
  | invalid fault => s!"invalid options: {fault.message}"

namespace Options

/-- Options as an object. -/
def toJson (o : Options) : Json.Value :=
  .object [
    ("preprocessor_cmd", .text o.preprocessor),
    ("line_matching_preprocessor_cmd", .text o.lineMatcher),
    ("preprocessor_encoding", (o.toolEncoding.map Encoding.toJson).getD .null),
    ("ignore_comments", .bool o.ignoreComments),
    ("ignore_case", .bool o.ignoreCase),
    ("ignore_numbers", .bool o.ignoreNumbers),
    ("comment_syntax", o.commentSyntax.toJson),
    ("preprocessor_timeout_secs", (o.timeoutSeconds.map Json.Value.number).getD .null),
    ("limits", o.limits.toJson)]

/-- The fields of options, in the order in which a list gives them. -/
def fields : List (Json.Field Options) := [
  .of "preprocessor_cmd" Json.textValue fun o t => { o with preprocessor := t },
  .of "line_matching_preprocessor_cmd" Json.textValue fun o t => { o with lineMatcher := t },
  .of "preprocessor_encoding" (Json.optional Encoding.ofJson) fun o e =>
    { o with toolEncoding := e },
  .of "ignore_comments" Json.boolValue fun o b => { o with ignoreComments := b },
  .of "ignore_case" Json.boolValue fun o b => { o with ignoreCase := b },
  .of "ignore_numbers" Json.boolValue fun o b => { o with ignoreNumbers := b },
  .of "comment_syntax" Comment.Syntax.ofJson fun o s => { o with commentSyntax := s },
  .of "preprocessor_timeout_secs" (Json.optional Json.naturalValue) fun o n =>
    { o with timeoutSeconds := n },
  .of "limits" Limits.ofJson fun o l => { o with limits := l }]

/-- Reads options. -/
def ofJson : Json.Step Options := Json.record fields {}

/-- Reads a text that holds options. -/
def read (t : Text) : Except Json.Fault Options := Json.read ofJson t

/-- Reads an options file. -/
def load (tree : FileTree) (p : Path) : Except OptionsFault Options :=
  match tree.read p with
  | .error cause => .error (.unreadable p cause)
  | .ok bs =>
    match Utf8.decode? bs with
    | none => .error (.unreadable p .notUtf8)
    | some t =>
      match read t with
      | .error fault => .error (.invalid fault)
      | .ok o => .ok o

end Options

end TextIntake
