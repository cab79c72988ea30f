import TextIntake.Location
import TextIntake.Source.Failure
import TextIntake.View

set_option autoImplicit false

/-!
# Sources

A source is one side of a comparison: an input, and the views that the last run
made of it.  Setting another input leaves the views as they are until the next
run.
-/

namespace TextIntake

/-- What a source is read from. -/
inductive Input where
  | located (location : Location)
  /-- a remote location, and the copy that was fetched -/
  | fetched (url : Url) (content : Bytes)
  /-- a text given directly -/
  | memory (text : Text)
  deriving DecidableEq, Repr, Inhabited

namespace Input

/-- The location of an input.  A text given directly has none. -/
def location : Input → Location
  | located l => l
  | fetched url _ => .remote url
  | memory _ => .none

/-- Whether the input is a text given directly. -/
def isMemory : Input → Bool
  | memory _ => true
  | _ => false

/-- Whether there is something to compare with: a file that is there, or a fetched
copy. -/
def isThere (tree : FileTree) : Input → Bool
  | located (.file path) => tree.exists? path
  | fetched _ _ => true
  | _ => false

end Input

/-- One side of a comparison. -/
structure Source where
  input : Input := .located .none
  /-- a name to show instead of the location -/
  alias? : Option Text := none
  encoding : Option Encoding := none
  display : View := {}
  comparison : View := {}
  deriving DecidableEq, Repr, Inhabited

namespace Source

/-! ## Setting the input -/

/-- The name shown for a text that was given directly. -/
def clipboardAlias : Text := "From Clipboard".toList

/-- Sets a location. -/
def setLocation (s : Source) (l : Location) : Source :=
  { s with input := .located l, alias? := none }

/-- Sets a location by its written form.  Without one the source is as new. -/
def setFile (s : Source) (tree : FileTree) (t : Text) : Source :=
  if t = [] then {} else s.setLocation (Location.read tree t)

/-- Sets a text as the input.  Not modelled: a failure to make or write the scratch file that the
text is kept in. -/
def setData (s : Source) (t : Text) : Source :=
  { s with input := .memory t, alias? := some clipboardAlias }

/-- Sets the name to show. -/
def setAlias (s : Source) (name : Text) : Source := { s with alias? := some name }

/-! ## State -/

/-- The name to show. -/
def shownName (s : Source) : Text := s.alias?.getD s.input.location.text

/-- Whether no input is set. -/
def isEmpty (s : Source) : Bool := !s.input.location.isSet && !s.input.isMemory

/-- Whether the last run read the input. -/
def hasData (s : Source) : Bool := s.display.hasData

/-- Whether there is no input, or one that was read. -/
def isValid (s : Source) : Bool := s.isEmpty || s.hasData

/-- The lines to compare: those of the comparison view where there is one. -/
def comparisonLines? (s : Source) : Option View.Lines :=
  if s.comparison.hasData then s.comparison.lines? else s.display.lines?

/-- Whether two sources that are there hold the same bytes. -/
def isBinaryEqual (tree : FileTree) (a b : Source) : Bool :=
  a.input.isThere tree && b.input.isThere tree && a.display.size == b.display.size &&
    a.display.bytes == b.display.bytes

/-- Saves the bytes of the display view. -/
def save (s : Source) (tree : FileTree) (p : Path) : Except SourceFailure FileTree :=
  match tree.write p s.display.bytes with
  | .ok tree => .ok tree
  | .error cause => .error (.writeFailed p cause)

end Source

end TextIntake
