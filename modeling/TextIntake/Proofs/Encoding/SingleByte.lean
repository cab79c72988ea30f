import TextIntake.Proofs.Encoding.Utf8

set_option autoImplicit false

/-!
# Single-byte forms are read back

A character that a table holds is written as the byte at its place there, and that byte
is read as the character.  A table has at most 128 places, or two of them would share
a byte.

Main statement: `decode_encode`.
-/

namespace TextIntake

namespace SingleByte

variable {table : Table} {c : Char}

/-- Whether a character is ASCII or stands in the table.  The mark of a byte without a
character is not one of them. -/
def holds (table : Table) (c : Char) : Bool :=
  c.toNat < 0x80 || (c != Character.replacement && table.contains c.toNat)

/-- A character that is held is written as one byte, which is read as the character. -/
theorem exists_encodeChar? (hlength : table.length ≤ 0x80) (hc : holds table c = true) :
    ∃ b, encodeChar? table c = some b ∧ decodeByte table b = some c := by
  have hback : Char.ofNat c.toNat = c := Char.ofNat_toNat c
  by_cases hascii : c.toNat < 0x80
  · have hnumber := Utf8.toNat_ofNat_of_lt (n := c.toNat) (by omega)
    have hlow : UInt8.ofNat c.toNat < 0x80 := by
      rw [UInt8.lt_iff_toNat_lt, hnumber]
      exact hascii
    refine ⟨UInt8.ofNat c.toNat, if_pos hascii, ?_⟩
    rw [decodeByte, if_pos hlow, hnumber, hback]
  · simp only [holds, hascii, decide_false, Bool.false_or, Bool.and_eq_true, bne_iff_ne,
      List.contains_iff_mem] at hc
    obtain ⟨hreplacement, hmem⟩ := hc
    have hcode : c.toNat ≠ 0xFFFD := fun h => hreplacement (Char.toNat_inj.1 h)
    obtain ⟨i, hi⟩ := Option.isSome_iff_exists.1 (List.isSome_idxOf?.2 hmem)
    obtain ⟨hlt, hat, _⟩ := List.idxOf?_eq_some_iff.1 hi
    have hnumber := Utf8.toNat_ofNat_of_lt (n := 0x80 + i) (by omega)
    have hhigh : ¬ UInt8.ofNat (0x80 + i) < 0x80 := by
      rw [UInt8.lt_iff_toNat_lt, hnumber]
      exact Nat.not_lt.2 (Nat.le_add_right 0x80 i)
    have hplace : table[0x80 + i - 0x80]? = some c.toNat := by
      rw [Nat.add_sub_cancel_left, List.getElem?_eq_getElem hlt]
      exact congrArg some hat
    refine ⟨UInt8.ofNat (0x80 + i), ?_, ?_⟩
    · rw [encodeChar?, if_neg hascii, if_neg hreplacement, hi]
      rfl
    · rw [decodeByte, if_neg hhigh, hnumber, hplace]
      dsimp only
      rw [if_neg hcode, hback]

/-- A text that a table holds is read back from what is written by it. -/
theorem decode_encode {t : Text} (hlength : table.length ≤ 0x80)
    (ht : ∀ c ∈ t, holds table c = true) : decode table (encode table t) = t.map some := by
  induction t with
  | nil => rfl
  | cons c t ih =>
    obtain ⟨b, hencode, hdecode⟩ := exists_encodeChar? hlength (ht c List.mem_cons_self)
    have htail := ih fun d hd => ht d (List.mem_cons_of_mem c hd)
    rw [encode, List.flatMap_cons, hencode]
    show decodeByte table b :: decode table (encode table t) = _
    rw [hdecode, htail, List.map_cons]

end SingleByte

/-- A text of the first 256 code points is read back from its Latin-1 form. -/
theorem Latin1.decode_encode {t : Text} (ht : ∀ c ∈ t, c.toNat < 0x100) :
    decode (encode t) = t.map some := by
  rw [decode, encode, List.map_map]
  refine List.map_congr_left fun c hc => ?_
  show some (Char.ofNat (if c.toNat < 0x100 then UInt8.ofNat c.toNat else 0x3F).toNat) = some c
  rw [if_pos (ht c hc), Utf8.toNat_ofNat_of_lt (ht c hc), Char.ofNat_toNat]

end TextIntake
