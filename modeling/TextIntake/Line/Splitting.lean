import TextIntake.Comment.Scanner
import TextIntake.Encoding.Codec
import TextIntake.Encoding.Detection
import TextIntake.Line.Cut
import TextIntake.Line.Page
import TextIntake.Text.Lowercase

set_option autoImplicit false

/-!
# Splitting a document into a page

The bytes of a document are decoded without their marker, cut into lines, and
every line is scanned for comments and filtered as asked.  What the lines are
is settled before any of them is filtered.
-/

namespace TextIntake

/-- Ceilings on the size of a document. -/
structure Limits where
  maxLines : Nat := 2147483642
  maxBytes : Nat := 2147483647
  deriving DecidableEq, Repr, Inhabited

/-- What is done to every line, in the order of the fields. -/
structure LineFilter where
  removeComments : Bool := false
  foldCase : Bool := false
  stripNumbers : Bool := false
  deriving DecidableEq, Repr, Inhabited

namespace LineFilter

/-- A line filtered, given what is comment in it. -/
def apply (r : LineFilter) (finding : Comment.Finding) (line : Text) : Text :=
  let line := if r.removeComments then finding.strip line else line
  let line := if r.foldCase then Text.lowercase line else line
  if r.stripNumbers then line.filter (!Character.isDecimalDigit ·) else line

end LineFilter

namespace Line

/-- A raw line finished, given what is comment in it. -/
def ofRaw (r : LineFilter) (finding : Comment.Finding) (raw : RawLine) : Line where
  text := r.apply finding raw.content
  firstNonBlank := Text.firstNonBlank? raw.content
  pureComment := finding.pure

/-- All raw lines finished by one scanner, and the scanner behind the last. -/
def ofRaws (r : LineFilter) : Comment.Scanner → List RawLine → List Line × Comment.Scanner
  | scanner, [] => ([], scanner)
  | scanner, raw :: raws =>
    let (finding, scanner) := scanner.scan raw.content
    let (lines, scanner) := ofRaws r scanner raws
    (ofRaw r finding raw :: lines, scanner)

end Line

namespace Page

/-- The page of a decoded text, and the scanner behind its last line. -/
def ofText (limits : Limits) (r : LineFilter) (scanner : Comment.Scanner) (t : Text) :
    Except Refusal (Page × Comment.Scanner) :=
  match RawLine.cut limits.maxLines t with
  | .error refusal => .error refusal
  | .ok raws =>
    let (lines, scanner) := Line.ofRaws r scanner raws
    .ok (ofLines lines (RawLine.style raws) (raws.any RawLine.hasReplacement), scanner)

/-- The page of a document, and the scanner behind its last line. -/
def ofBytes (e : Encoding) (limits : Limits) (r : LineFilter) (scanner : Comment.Scanner)
    (bs : Bytes) : Except Refusal (Page × Comment.Scanner) :=
  let content := payload e bs
  if limits.maxBytes < content.length then .error .tooLarge
  else ofText limits r scanner (e.decodeText content)

end Page

end TextIntake
