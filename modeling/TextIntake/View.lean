import TextIntake.File.Tree
import TextIntake.Line.Splitting

set_option autoImplicit false

/-!
# Views

A view of a source holds the bytes it was read from, and the page they were
decoded to.  A view that was never read has no bytes and stays empty when it is
decoded.  Bytes that turn out not to be text leave no page.
-/

namespace TextIntake

/-- Zero bytes that follow the content in memory, so that a comparison may look a
little beyond its end. -/
def guardLength : Nat := 100

namespace Bytes

/-- The content followed by its guard. -/
def withGuard (bs : Bytes) : Bytes := bs ++ List.replicate guardLength 0

end Bytes

/-- One view of a source. -/
structure View where
  raw : Option Bytes := none
  page : Page := {}
  /-- The bytes were last decoded as text. -/
  isDecoded : Bool := false
  deriving DecidableEq, Repr, Inhabited

namespace View

/-- The content; an unread view has none. -/
def bytes (v : View) : Bytes := v.raw.getD []

/-- Whether the view was read. -/
def hasData (v : View) : Bool := v.raw.isSome

/-- The number of bytes. -/
def size (v : View) : Nat := v.bytes.length

/-- Whether there is no content. -/
def isEmpty (v : View) : Bool := v.size == 0

/-- Whether the view holds text.  No content counts as text. -/
def isText (v : View) : Bool := v.isDecoded || v.isEmpty

/-! ## Reading and decoding -/

/-- A view of the given bytes, not decoded yet. -/
def ofBytes (bs : Bytes) : View := { raw := some bs }

/-- Reads a file.  What the view held before is gone also when the file cannot be
read. -/
def read (t : FileTree) (p : Path) : View × Option IoFailure :=
  match t.read p with
  | .ok bs => (ofBytes bs, none)
  | .error cause => ({}, some cause)

/-- A view of the same bytes, not decoded yet. -/
def copyBytes (v : View) : View := { raw := v.raw }

/-- Decodes the bytes into a page; `none` when they are too large for the limits. -/
def decode? (v : View) (e : Encoding) (limits : Limits) (r : LineFilter)
    (scanner : Comment.Scanner) : Option View :=
  match v.raw with
  | none => some v
  | some bs =>
    match Page.ofBytes e limits r scanner bs with
    | .ok (page, _) => some { v with page, isDecoded := true }
    | .error .binary => some { v with page := {}, isDecoded := false }
    | .error .tooLarge => none

/-! ## Aligning two views -/

/-- Appends empty records at the end of the text until there are `count` lines. -/
def padTo (v : View) (count : Nat) : View :=
  let filler := LineRecord.emptyAt (Text.byteLength v.page.text)
  { v with
    page := { v.page with
      records := v.page.records ++ List.replicate (count - v.page.lineCount) filler
      lineCount := max v.page.lineCount count } }

/-- Takes over the comment flags of the first `n` records. -/
def adoptFlags : Nat → List LineRecord → List LineRecord → List LineRecord
  | n + 1, r :: rs, other :: others =>
    { r with pureComment := other.pureComment } :: adoptFlags n rs others
  | _, rs, _ => rs

/-- Takes over the comment flags of another view, for the lines that both have. -/
def adoptCommentFlags (v other : View) : View :=
  let shared := min v.page.lineCount other.page.lineCount
  { v with page := { v.page with records := adoptFlags shared v.page.records other.page.records } }

/-! ## Lines -/

/-- The lines of a view, by number. -/
structure Lines where
  text : Text
  /-- the records of all lines and the empty record behind them -/
  records : List LineRecord
  count : Nat
  deriving DecidableEq, Repr, Inhabited

/-- The lines; none until the view was decoded as text. -/
def lines? (v : View) : Option Lines :=
  if v.page.records = [] then none
  else some ⟨v.page.text, v.page.records, v.page.lineCount⟩

namespace Lines

/-- Whether there is no line. -/
def isEmpty (l : Lines) : Bool := l.count == 0

/-- The record of a line. -/
def record? (l : Lines) (index : Nat) : Option LineRecord := (l.records.take l.count)[index]?

/-- The text of a line. -/
def line? (l : Lines) (index : Nat) : Option Text := (l.record? index).bind (·.text? l.text)

/-- All lines. -/
def toList (l : Lines) : List Text := (l.records.take l.count).filterMap (·.text? l.text)

/-- The number of lines that are nothing but comment. -/
def pureComments (l : Lines) : Nat := (l.records.take l.count).countP (·.pureComment)

end Lines

end View

end TextIntake
