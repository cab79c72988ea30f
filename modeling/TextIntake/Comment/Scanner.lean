import TextIntake.Comment.Batch
import TextIntake.Comment.CStyle
import TextIntake.Comment.Hash
import TextIntake.Comment.Syntax

set_option autoImplicit false

/-!
# Scanning lines for comments

A scanner reads the lines of a source one after the other.  Between two lines it
remembers one thing, whether a block comment is open.  For each line it returns a
finding: whether the line is nothing but comment, and what to cut from it.
-/

namespace TextIntake.Comment

/-- What is comment in a line. -/
inductive Extent where
  | spans (list : List Span)
  /-- everything from byte `start` on -/
  | tail (start : Nat)
  | whole
  deriving DecidableEq, Repr, Inhabited

/-- What was found in a line. -/
structure Finding where
  /-- The line holds comment text and besides only blanks. -/
  pure : Bool := false
  extent : Extent := .spans []
  deriving DecidableEq, Repr, Inhabited

namespace Finding

/-- The line without its comments. -/
def strip (f : Finding) (line : Text) : Text :=
  match f.extent with
  | .spans list => Span.cutAll list line
  | .tail start => (Span.mk start (Text.byteLength line)).cut line
  | .whole => []

end Finding

/-- A scanner between two lines. -/
inductive Scanner where
  | absent
  | cStyle (inBlock : Bool)
  | hash
  | batch
  deriving DecidableEq, Repr, Inhabited

namespace Scanner

/-- A scanner in front of the first line. -/
def start (s : Syntax) (path : Option Path) : Scanner :=
  match s.resolve path with
  | .cStyle => cStyle false
  | .hash => hash
  | .batch => batch
  | .absent | .auto => absent

/-- Scans the next line. -/
def scan (s : Scanner) (line : Text) : Finding × Scanner :=
  match s with
  | absent => ({}, absent)
  | cStyle inBlock =>
    let found := CStyle.scanLine inBlock line
    (⟨found.hasComment && !found.hasCode, .spans found.spans⟩, cStyle found.inBlock)
  | hash =>
    match Hash.codeOfLine? line with
    | some code => (⟨Text.isBlank code, .tail (Text.byteLength code)⟩, hash)
    | none => ({}, hash)
  | batch => (if Batch.isComment line then ⟨true, .whole⟩ else {}, batch)

end Scanner

end TextIntake.Comment
