import TextIntake.Encoding.Label
import TextIntake.Encoding.Utf8
import TextIntake.Encoding.Utf16

set_option autoImplicit false

/-!
# Detecting the encoding of a document

A document may say its encoding by a marker at its start, in an XML declaration,
or in an HTML `meta` tag; the first of the three that applies decides.  An XML
declaration that names no known encoding ends the search, so that a tag further
down is not consulted.  Only the head of a document is inspected for tags.
-/

namespace TextIntake

/-- The number of bytes at the start of a document that are inspected. -/
def detectionWindow : Nat := 5000

/-- The encoding found, and the length of the marker that showed it, which is 0
for an encoding found in a tag. -/
structure Detected where
  encoding : Encoding
  skip : Nat
  deriving DecidableEq, Repr, Inhabited

namespace Detected

/-- The encodings that have a marker, in the order in which they are tried. -/
def markers : List (Encoding × Bytes) := [
  (.utf16le, Utf16.ByteOrder.little.marker),
  (.utf16be, Utf16.ByteOrder.big.marker),
  (.utf8Marked, Utf8.marker)]

/-- The encoding that a marker at the start shows. -/
def byMarker? (bs : Bytes) : Option Detected :=
  (markers.find? fun (_, marker) => marker.isPrefixOf bs).map fun (encoding, marker) =>
    ⟨encoding, marker.length⟩

/-- A double or a single quote. -/
def isQuote (b : UInt8) : Bool := b == 0x22 || b == 0x27

/-- The value at the start of what follows a key.  The first quote character
delimits it if it is closed.  A quote that is not closed ends the value, as in
`content="text/html; charset=utf-8"`, where it is the quote that the content
opened. -/
def value (rest : Bytes) : Bytes :=
  match rest.dropWhile (!isQuote ·) with
  | [] => rest
  | quote :: inside =>
    if inside.contains quote then inside.takeWhile (· != quote)
    else rest.takeWhile (!isQuote ·)

/-- The encoding named in `tag` by the value of `key`. -/
def inTag? (tag key : Bytes) : Option Encoding := do
  let (_, rest) ← Bytes.breakOn? key tag
  let label ← Utf8.decode? (value (rest.drop key.length))
  Encoding.ofLabel? label

/-- Start of an XML declaration. -/
def xmlOpen : Bytes := Bytes.ofAscii "<?xml"

/-- End of an XML declaration. -/
def xmlClose : Bytes := Bytes.ofAscii "?>"

/-- Start of a `meta` tag. -/
def metaOpen : Bytes := Bytes.ofAscii "<meta"

/-- End of a `meta` tag. -/
def metaClose : Bytes := Bytes.ofAscii ">"

/-- The encoding that the XML declaration at the start of `declaration` names. -/
def inDeclaration? (declaration : Bytes) : Option Encoding := do
  let (tag, _) ← Bytes.breakOn? xmlClose declaration
  inTag? tag (Bytes.ofAscii "encoding=")

theorem length_after_meta {head before tag tail rest : Bytes}
    (hopen : Bytes.breakOn? metaOpen head = some (before, tail))
    (hclose : Bytes.breakOn? metaClose tail = some (tag, rest)) :
    rest.length < head.length := by
  have h₁ := congrArg List.length (Bytes.breakOn?_append hopen)
  have h₂ := congrArg List.length (Bytes.breakOn?_append hclose)
  have h₃ := Bytes.breakOn?_isPrefixOf hopen
  have h₄ := Bytes.breakOn?_isPrefixOf hclose
  simp only [List.length_append] at h₁ h₂
  have : tag ≠ [] := by
    rintro rfl
    have h₅ := Bytes.breakOn?_append hclose
    simp only [List.nil_append] at h₅
    subst h₅
    cases rest with
    | nil => simp [metaOpen, Bytes.ofAscii] at h₃
    | cons b t =>
      simp [metaOpen, metaClose, Bytes.ofAscii, List.isPrefixOf] at h₃ h₄
      rw [← h₃.1] at h₄
      exact absurd h₄ (by decide)
  have : 0 < tag.length := List.length_pos_iff.2 this
  omega

/-- The encoding that the first telling `meta` tag names.  The search goes on
from the end of a tag that names none, and ends at a tag that is not closed. -/
def inMeta? (head : Bytes) : Option Encoding :=
  match _hopen : Bytes.breakOn? metaOpen head with
  | none => none
  | some (_, tail) =>
    match _hclose : Bytes.breakOn? metaClose tail with
    | none => none
    | some (tag, rest) =>
      match inTag? tag (Bytes.ofAscii "charset=") with
      | some encoding => some encoding
      | none => inMeta? rest
termination_by head.length
decreasing_by exact length_after_meta _hopen _hclose

/-- The encoding that a tag in `head` names. -/
def byTag? (head : Bytes) : Option Encoding :=
  match Bytes.breakOn? xmlOpen head with
  | some (_, declaration) => inDeclaration? declaration
  | none => inMeta? head

end Detected

/-- Detects the encoding of a document from its bytes. -/
def detect? (bs : Bytes) : Option Detected :=
  match Detected.byMarker? bs with
  | some detected => some detected
  | none => (Detected.byTag? (bs.take detectionWindow)).map fun encoding => ⟨encoding, 0⟩

/-- Detects the encoding of a document from its head, which is all that is read of a
file for this. -/
def detectFromHead? (bs : Bytes) : Option Detected := detect? (bs.take detectionWindow)

/-- What is left to decode as `e`: a marker is dropped when it belongs to the
family of `e`. -/
def payload (e : Encoding) (bs : Bytes) : Bytes :=
  match detect? bs with
  | some detected => if e.sameFamily detected.encoding then bs.drop detected.skip else bs
  | none => bs

end TextIntake
