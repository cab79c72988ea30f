import TextIntake.Encoding.Label
import TextIntake.Proofs.Encoding.Inverse

set_option autoImplicit false

/-!
# What a label is made of

The labels that name an encoding are made of small letters, digits and four more
characters.  Blanks around a label and capitals do not matter, so a text that names an
encoding holds blanks and ASCII letters besides, but nothing that delimits a value in a tag.

Main statement: `not_mem_encode_of_ofLabel?`.
-/

namespace TextIntake

/-! ## Characters of a trimmed text -/

namespace Text

variable {t : Text} {c : Char}

theorem mem_trimStart (hc : c ∈ t) (hblank : Character.isBlank c = false) : c ∈ trimStart t := by
  unfold trimStart
  induction t with
  | nil => cases hc
  | cons d t ih =>
    rw [List.dropWhile_cons]
    split
    · rename_i hd
      rcases List.mem_cons.1 hc with rfl | hc
      · rw [hblank] at hd
        cases hd
      · exact ih hc
    · exact hc

/-- Trimming takes blanks away and nothing else. -/
theorem mem_trim (hc : c ∈ t) (hblank : Character.isBlank c = false) : c ∈ trim t := by
  have hstart := mem_trimStart hc hblank
  have hback := mem_trimStart (List.mem_reverse.2 hstart) hblank
  exact List.mem_reverse.2 hback

end Text

/-! ## ASCII characters in UTF-8 -/

namespace Utf8

theorem not_ascii_ofNat {n : Nat} (h : 0x80 ≤ n ∧ n < 0x100) : ¬ (UInt8.ofNat n).toNat < 0x80 := by
  rw [toNat_ofNat_of_lt h.2]
  omega

/-- A byte below 0x80 is a character of its own. -/
theorem mem_of_mem_encode {t : Text} {b : UInt8} (hb : b ∈ encode t) (hascii : b.toNat < 0x80) :
    Char.ofNat b.toNat ∈ t := by
  obtain ⟨c, hc, hbyte⟩ := List.mem_flatMap.1 hb
  have hvalid : c.toNat < 0xD800 ∨ (0xDFFF < c.toNat ∧ c.toNat < 0x110000) := c.valid
  suffices hnumber : b.toNat = c.toNat by
    rw [hnumber, Char.ofNat_toNat]
    exact hc
  unfold encodeChar at hbyte
  generalize c.toNat = n at hvalid hbyte
  dsimp only at hbyte
  split at hbyte
  · rw [List.mem_singleton.1 hbyte]
    exact toNat_ofNat_of_lt (by omega)
  -- the longer forms have no byte below 0x80
  split at hbyte
  · simp only [List.mem_cons, List.not_mem_nil, or_false] at hbyte
    rcases hbyte with rfl | rfl <;> exact absurd hascii (not_ascii_ofNat (by omega))
  split at hbyte
  · simp only [List.mem_cons, List.not_mem_nil, or_false] at hbyte
    rcases hbyte with rfl | rfl | rfl <;> exact absurd hascii (not_ascii_ofNat (by omega))
  · simp only [List.mem_cons, List.not_mem_nil, or_false] at hbyte
    rcases hbyte with rfl | rfl | rfl | rfl <;> exact absurd hascii (not_ascii_ofNat (by omega))

end Utf8

/-- The pieces are all characters when no malformed sequence is among them. -/
theorem Decoded.mapM_id_eq_some_iff {d : Decoded} {t : Text} :
    d.mapM id = some t ↔ d = t.map some := by
  induction d generalizing t with
  | nil => cases t <;> simp
  | cons piece d ih =>
    cases piece with
    | none => cases t <;> simp
    | some c =>
      cases t with
      | nil => simp [Option.bind_eq_some_iff]
      | cons c' t =>
        rw [List.mapM_cons, List.map_cons, List.cons.injEq, Option.some.injEq, ← ih]
        cases d.mapM id <;> simp

namespace Utf8

/-- A byte string is UTF-8 throughout when it is the form of a text. -/
theorem decode?_eq_some_iff {bs : Bytes} {t : Text} : decode? bs = some t ↔ encode t = bs := by
  rw [decode?, Decoded.mapM_id_eq_some_iff]
  constructor
  · exact encode_of_decode
  · rintro rfl
    exact decode_encode t

end Utf8

namespace Encoding

/-- The characters of labels. -/
def isLabelCharacter (c : Char) : Bool :=
  ('a' ≤ c && c ≤ 'z') || ('0' ≤ c && c ≤ '9') || ['-', '_', ':', '.'].contains c

theorem all_isLabelCharacter :
    ∀ entry ∈ ownLabels ++ standardLabels, ∀ label ∈ entry.2,
      label.toList.all isLabelCharacter = true := by
  decide +kernel

/-- What names an encoding holds only blanks and characters of labels, up to case. -/
theorem isLabelCharacter_of_ofLabel? {label : Text} {e : Encoding} (h : ofLabel? label = some e)
    {c : Char} (hc : c ∈ label) (hblank : Character.isBlank c = false) :
    isLabelCharacter c.toLower = true := by
  obtain ⟨entry, hentry, _⟩ := Option.map_eq_some_iff.1 h
  have hlabel : labelKey label ∈ entry.2 := by
    simpa using List.find?_some hentry
  have hall := all_isLabelCharacter entry (List.mem_of_find?_eq_some hentry) _ hlabel
  rw [labelKey, String.toList_ofList] at hall
  exact List.all_eq_true.1 hall c.toLower (List.mem_map_of_mem (Text.mem_trim hc hblank))

/-- The bytes that delimit a value in a tag. -/
def delimiters : Bytes := Bytes.ofAscii "\"'<>?;"

/-- No label of an encoding holds a delimiter. -/
theorem not_mem_encode_of_ofLabel? {label : Text} {e : Encoding} (h : ofLabel? label = some e)
    {b : UInt8} (hb : b ∈ delimiters) : b ∉ Utf8.encode label := by
  intro hmem
  have hplain : ∀ b ∈ delimiters, b.toNat < 0x80 ∧
      Character.isBlank (Char.ofNat b.toNat) = false ∧
      isLabelCharacter (Char.ofNat b.toNat).toLower = false := by decide +kernel
  obtain ⟨hascii, hblank, hother⟩ := hplain b hb
  have hlabel := isLabelCharacter_of_ofLabel? h (Utf8.mem_of_mem_encode hmem hascii) hblank
  rw [hother] at hlabel
  cases hlabel

end Encoding

end TextIntake
