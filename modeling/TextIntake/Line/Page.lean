import TextIntake.Text.Basic
import TextIntake.Line.Cut

set_option autoImplicit false

/-!
# Pages: normalised text with its line records

A page is a text in which every line is followed by one line feed, together with
a record of where each line stands.  Behind the records of the lines stands one
empty record at the end of the text.
-/

namespace TextIntake

/-- A finished line. -/
structure Line where
  text : Text
  /-- The column of the first character that is not blank, before anything is filtered out. -/
  firstNonBlank : Option Nat
  pureComment : Bool
  deriving DecidableEq, Repr, Inhabited

/-- Where a line stands in the text of a page, in bytes. -/
structure LineRecord where
  offset : Nat
  size : Nat := 0
  firstNonBlank : Option Nat := none
  pureComment : Bool := false
  deriving DecidableEq, Repr, Inhabited

namespace LineRecord

/-- An empty record at `offset`. -/
def emptyAt (offset : Nat) : LineRecord := { offset }

/-- The position behind the line. -/
def stop (r : LineRecord) : Nat := r.offset + r.size

/-- The text of the line; `none` when the record does not fit the text. -/
def text? (r : LineRecord) (t : Text) : Option Text := Text.slice? t r.offset r.size

end LineRecord

/-- A normalised text and its records. -/
structure Page where
  text : Text := []
  records : List LineRecord := []
  lineCount : Nat := 0
  style : LineStyle := .undefined
  /-- Something could not be decoded. -/
  incomplete : Bool := false
  deriving DecidableEq, Repr, Inhabited

namespace Page

/-- The text of a page: every line and a line feed. -/
def join (lines : List Line) : Text := lines.flatMap fun l => l.text ++ ['\n']

/-- The records of lines that start at byte `offset`, and the empty record behind. -/
def recordsFrom (offset : Nat) : List Line → List LineRecord
  | [] => [LineRecord.emptyAt offset]
  | l :: lines =>
    let size := Text.byteLength l.text
    ⟨offset, size, l.firstNonBlank, l.pureComment⟩ :: recordsFrom (offset + size + 1) lines

/-- The page of the given lines. -/
def ofLines (lines : List Line) (style : LineStyle) (incomplete : Bool) : Page where
  text := join lines
  records := recordsFrom 0 lines
  lineCount := lines.length
  style := style
  incomplete := incomplete

@[simp] theorem length_recordsFrom (offset : Nat) (lines : List Line) :
    (recordsFrom offset lines).length = lines.length + 1 := by
  induction lines generalizing offset with
  | nil => rfl
  | cons l lines ih => simp [recordsFrom, ih]

end Page

end TextIntake
