import TextIntake.Transcoding

set_option autoImplicit false

/-!
# What follows a marker

Each Unicode form has one marker, and a document of that form may begin with it.
Detection looks at all markers and at tags further down, yet what is left to
decode depends on the one marker of the encoding that is decoded as: a marker of
another encoding stays, and a tag takes nothing away.

Main statement: `payload_eq_unmarked`.
-/

namespace TextIntake

namespace Encoding

/-- The marker that a document of the encoding may begin with. -/
def marker? : Encoding → Option Bytes
  | utf8 | utf8Marked => some Utf8.marker
  | utf16le => some Utf16.ByteOrder.little.marker
  | utf16be => some Utf16.ByteOrder.big.marker
  | latin1 | legacy _ => none

/-- A document without the marker of its encoding. -/
def unmarked (e : Encoding) (bs : Bytes) : Bytes :=
  match e.marker? with
  | some marker => if marker.isPrefixOf bs then bs.drop marker.length else bs
  | none => bs

end Encoding

theorem Bytes.head?_eq_of_isPrefixOf {marker bs : Bytes} {b : UInt8} (hb : marker.head? = some b)
    (h : marker.isPrefixOf bs = true) : bs.head? = some b := by
  obtain ⟨rest, rfl⟩ := List.isPrefixOf_iff_prefix.1 h
  cases marker with
  | nil => simp at hb
  | cons a marker => simpa using hb

namespace Detected

theorem byMarker?_eq (bs : Bytes) :
    byMarker? bs =
      if Utf16.ByteOrder.little.marker.isPrefixOf bs then some ⟨.utf16le, 2⟩
      else if Utf16.ByteOrder.big.marker.isPrefixOf bs then some ⟨.utf16be, 2⟩
      else if Utf8.marker.isPrefixOf bs then some ⟨.utf8Marked, 3⟩
      else none := by
  simp only [byMarker?, markers, List.find?_cons, List.find?_nil]
  cases Utf16.ByteOrder.little.marker.isPrefixOf bs with
  | true => rfl
  | false =>
    cases Utf16.ByteOrder.big.marker.isPrefixOf bs with
    | true => rfl
    | false => cases Utf8.marker.isPrefixOf bs <;> rfl

end Detected

/-- The markers differ in their first bytes, so that at most one of them stands at the
start. -/
theorem payload_eq_unmarked (e : Encoding) (bs : Bytes) : payload e bs = e.unmarked bs := by
  have hlittle : Utf16.ByteOrder.little.marker.isPrefixOf bs = true → bs.head? = some 0xFF :=
    Bytes.head?_eq_of_isPrefixOf rfl
  have hbig : Utf16.ByteOrder.big.marker.isPrefixOf bs = true → bs.head? = some 0xFE :=
    Bytes.head?_eq_of_isPrefixOf rfl
  have hutf8 : Utf8.marker.isPrefixOf bs = true → bs.head? = some 0xEF :=
    Bytes.head?_eq_of_isPrefixOf rfl
  unfold payload detect?
  rw [Detected.byMarker?_eq]
  by_cases h₁ : Utf16.ByteOrder.little.marker.isPrefixOf bs = true
  · have h₂ : ¬ Utf16.ByteOrder.big.marker.isPrefixOf bs = true := fun h => by
      simpa [hlittle h₁] using hbig h
    have h₃ : ¬ Utf8.marker.isPrefixOf bs = true := fun h => by simpa [hlittle h₁] using hutf8 h
    cases e <;> simp [h₁, h₂, h₃, Encoding.sameFamily, Encoding.unmarked, Encoding.marker?]
    rfl
  by_cases h₂ : Utf16.ByteOrder.big.marker.isPrefixOf bs = true
  · have h₃ : ¬ Utf8.marker.isPrefixOf bs = true := fun h => by simpa [hbig h₂] using hutf8 h
    cases e <;> simp [h₁, h₂, h₃, Encoding.sameFamily, Encoding.unmarked, Encoding.marker?]
    rfl
  by_cases h₃ : Utf8.marker.isPrefixOf bs = true
  · cases e <;> simp [h₁, h₂, h₃, Encoding.sameFamily, Encoding.unmarked, Encoding.marker?] <;> rfl
  · have htag : e.unmarked bs = bs := by
      cases e <;> simp [h₁, h₂, h₃, Encoding.unmarked, Encoding.marker?]
    rw [if_neg h₁, if_neg h₂, if_neg h₃, htag]
    cases Detected.byTag? (bs.take detectionWindow) <;> simp

@[simp] theorem Encoding.unmarked_nil (e : Encoding) : e.unmarked [] = [] := by
  cases e <;> rfl

@[simp] theorem Encoding.decodeText_nil (e : Encoding) : e.decodeText [] = [] := by
  cases e with
  | legacy codec => cases codec <;> rfl
  | _ => rfl

end TextIntake
