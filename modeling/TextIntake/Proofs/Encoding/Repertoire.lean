import TextIntake.Proofs.Encoding.Marker
import TextIntake.Proofs.Encoding.SingleByte
import TextIntake.Proofs.Encoding.Utf16

set_option autoImplicit false

/-!
# Documents of one encoding

A document is the body of a text, with or without the marker of its encoding in front.
A text of characters that the encoding represents is read back from its body.  Reading
takes at most one marker away, so that a text is read back from its document too, unless
it begins with the character that the marker is made of and no marker was written.

Main statements: `decode_body`, `unmarked_marker_append` and `unmarked_encode`.
-/

namespace TextIntake

/-! ## Characters of an encoding -/

namespace Legacy

/-- Whether every character is one byte, by a table that is here. -/
def isSingleByte (codec : Legacy) : Bool := codec.table?.isSome && codec != shiftJis

/-- A table has no more places than there are bytes beyond ASCII. -/
theorem length_table_le (codec : Legacy) : codec.table.length ≤ 0x80 := by
  cases codec <;> decide +kernel

end Legacy

namespace Encoding

/-- Whether an encoding has a form of its own for a character.  Of the legacy encodings
those are meant that have a table. -/
def represents : Encoding → Char → Bool
  | utf8, _ | utf8Marked, _ | utf16le, _ | utf16be, _ => true
  | latin1, c => c.toNat < 0x100
  | legacy codec, c => codec.isSingleByte && SingleByte.holds codec.table c

/-- What is written for a text, without a marker. -/
def body : Encoding → Text → Bytes
  | utf8Marked, t => Utf8.encode t
  | e, t => e.encode t

variable {e : Encoding} {t : Text} {bs : Bytes}

/-! ## Bodies -/

theorem codec_of_isSingleByte {codec : Legacy} (h : codec.isSingleByte = true) :
    (legacy codec).decode = SingleByte.decode codec.table ∧
      (legacy codec).encode = SingleByte.encode codec.table := by
  cases codec with
  | iso2022Jp => cases h
  | _ => exact ⟨rfl, rfl⟩

/-- Whatever an encoding represents is read back, with nothing replaced. -/
theorem decode_body (ht : ∀ c ∈ t, e.represents c = true) : e.decode (e.body t) = t.map some := by
  cases e with
  | utf8 => exact Utf8.decode_encode t
  | utf8Marked => exact Utf8.decode_encode t
  | utf16le => exact Utf16.decode_encode .little t
  | utf16be => exact Utf16.decode_encode .big t
  | latin1 => exact Latin1.decode_encode fun c hc => of_decide_eq_true (ht c hc)
  | legacy codec =>
    cases t with
    | nil => cases codec <;> rfl
    | cons c t =>
      have hsingle : codec.isSingleByte = true :=
        (Bool.and_eq_true_iff.1 (ht c List.mem_cons_self)).1
      have hholds : ∀ d ∈ c :: t, SingleByte.holds codec.table d = true :=
        fun d hd => (Bool.and_eq_true_iff.1 (ht d hd)).2
      obtain ⟨hdecode, hencode⟩ := codec_of_isSingleByte hsingle
      show (legacy codec).decode ((legacy codec).encode (c :: t)) = _
      rw [hdecode, hencode]
      exact SingleByte.decode_encode codec.length_table_le hholds

theorem decodeText_body (ht : ∀ c ∈ t, e.represents c = true) : e.decodeText (e.body t) = t := by
  rw [decodeText, decode_body ht, Decoded.text_map_some]

/-! ## Markers -/

/-- A marker is the character U+FEFF like any other. -/
theorem decode_marker_append {marker : Bytes} (h : e.marker? = some marker) (rest : Bytes) :
    e.decode (marker ++ rest) = some '\uFEFF' :: e.decode rest := by
  cases e with
  | utf8 =>
    obtain rfl := Option.some.inj h
    exact Utf8.decode_encodeChar_append '\uFEFF' rest
  | utf8Marked =>
    obtain rfl := Option.some.inj h
    exact Utf8.decode_encodeChar_append '\uFEFF' rest
  | utf16le =>
    obtain rfl := Option.some.inj h
    exact Utf16.decode_units_append .little '\uFEFF' rest
  | utf16be =>
    obtain rfl := Option.some.inj h
    exact Utf16.decode_units_append .big '\uFEFF' rest
  | latin1 => cases h
  | legacy codec => cases h

/-- One marker is taken away, whatever follows it. -/
theorem unmarked_marker_append {marker : Bytes} (h : e.marker? = some marker) (rest : Bytes) :
    e.unmarked (marker ++ rest) = rest := by
  have hmarked : marker.isPrefixOf (marker ++ rest) = true :=
    List.isPrefixOf_iff_prefix.2 (List.prefix_append marker rest)
  rw [unmarked, h]
  dsimp only
  rw [if_pos hmarked, List.drop_left]

/-- Bytes that decode to a text which begins with another character than U+FEFF have no
marker. -/
theorem unmarked_of_decode (hdecode : e.decode bs = t.map some) (hhead : t.head? ≠ some '\uFEFF') :
    e.unmarked bs = bs := by
  cases hmarker : e.marker? with
  | none => rw [unmarked, hmarker]
  | some marker =>
    rw [unmarked, hmarker]
    refine if_neg fun hmarked => hhead ?_
    obtain ⟨rest, rfl⟩ := List.isPrefixOf_iff_prefix.1 hmarked
    rw [decode_marker_append hmarker] at hdecode
    cases t with
    | nil => cases hdecode
    | cons c t =>
      rw [List.map_cons, List.cons.injEq] at hdecode
      exact hdecode.1.symm

/-! ## Written documents -/

/-- What is left of a written document is its body: the marker that was written is taken
away, and where none was written, none is found. -/
theorem unmarked_encode (ht : ∀ c ∈ t, e.represents c = true)
    (hhead : e = utf8Marked ∨ t.head? ≠ some '\uFEFF') : e.unmarked (e.encode t) = e.body t := by
  by_cases hmarked : e = utf8Marked
  · subst hmarked
    exact unmarked_marker_append rfl (Utf8.encode t)
  · have hbody : e.encode t = e.body t := by
      cases e with
      | utf8Marked => exact absurd rfl hmarked
      | _ => rfl
    rw [hbody]
    exact unmarked_of_decode (decode_body ht) (hhead.resolve_left hmarked)

end Encoding

end TextIntake
