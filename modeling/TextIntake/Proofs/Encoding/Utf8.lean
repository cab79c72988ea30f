import TextIntake.Encoding.Codec

set_option autoImplicit false

/-!
# UTF-8 forms are read back

Writing a text in UTF-8 and decoding the bytes gives the text back, with nothing
replaced.  The number of bytes written is the byte length that offsets are
counted in.  A byte that continues no character begins anew, whatever stands in
front of it.

Main statements: `decode_encode`, `decode_append` and `length_encode`.
-/

namespace TextIntake.Utf8

/-! ## Classes of bytes by number -/

theorem width_eq (b : UInt8) :
    width b =
      if b.toNat < 0x80 then 1
      else if b.toNat < 0xC2 then 0
      else if b.toNat < 0xE0 then 2
      else if b.toNat < 0xF0 then 3
      else if b.toNat < 0xF5 then 4
      else 0 := by
  simp only [width, UInt8.lt_iff_toNat_lt, UInt8.toNat_ofNat]

theorem width_eq_one {b : UInt8} (h : b.toNat < 0x80) : width b = 1 := by
  rw [width_eq, if_pos h]

theorem width_eq_two {b : UInt8} (h₁ : 0xC2 ≤ b.toNat) (h₂ : b.toNat < 0xE0) : width b = 2 := by
  rw [width_eq, if_neg (by omega), if_neg (by omega), if_pos h₂]

theorem width_eq_three {b : UInt8} (h₁ : 0xE0 ≤ b.toNat) (h₂ : b.toNat < 0xF0) : width b = 3 := by
  rw [width_eq, if_neg (by omega), if_neg (by omega), if_neg (by omega), if_pos h₂]

theorem width_eq_four {b : UInt8} (h₁ : 0xF0 ≤ b.toNat) (h₂ : b.toNat < 0xF5) : width b = 4 := by
  rw [width_eq, if_neg (by omega), if_neg (by omega), if_neg (by omega), if_neg (by omega),
    if_pos h₂]

theorem isContinuation_iff (b : UInt8) :
    isContinuation b = true ↔ 0x80 ≤ b.toNat ∧ b.toNat < 0xC0 := by
  simp [isContinuation, UInt8.le_iff_toNat_le, UInt8.lt_iff_toNat_lt]

/-- The range that the lead byte leaves to the byte behind it. -/
theorem follows_iff (lead b : UInt8) :
    follows lead b = true ↔
      (0x80 ≤ b.toNat ∧ b.toNat < 0xC0) ∧
        (lead.toNat = 0xE0 → 0xA0 ≤ b.toNat) ∧ (lead.toNat = 0xED → b.toNat < 0xA0) ∧
        (lead.toNat = 0xF0 → 0x90 ≤ b.toNat) ∧ (lead.toNat = 0xF4 → b.toNat < 0x90) := by
  simp only [follows, isContinuation, ← UInt8.toNat_inj, UInt8.le_iff_toNat_le,
    UInt8.lt_iff_toNat_lt, UInt8.toNat_ofNat]
  split
  · simp; omega
  split
  · simp; omega
  split
  · simp; omega
  split
  · simp; omega
  · simp; omega

theorem toNat_ofNat_of_lt {n : Nat} (h : n < 0x100) : (UInt8.ofNat n).toNat = n := by
  rw [UInt8.toNat_ofNat', Nat.mod_eq_of_lt h]

theorem payload_ofNat {n : Nat} (h : n < 0x100) : payload (UInt8.ofNat n) = n - 0x80 := by
  show (UInt8.ofNat n).toNat - 0x80 = n - 0x80
  rw [toNat_ofNat_of_lt h]

/-! ## One character

The bytes are given by their numbers, and the code point by an equation, so that
the forms of a character fit however the sums in them are written. -/

theorem decode_one {a : Nat} (ha : a < 0x80) (rest : Bytes) :
    decode (UInt8.ofNat a :: rest) = some (Char.ofNat a) :: decode rest := by
  have ha' := toNat_ofNat_of_lt (n := a) (by omega)
  have hwidth : width (UInt8.ofNat a) = 1 := width_eq_one (by omega)
  rw [decode.eq_def]
  simp only [hwidth, ha']

theorem decode_two {a b n : Nat} (ha : 0xC2 ≤ a ∧ a < 0xE0) (hb : 0x80 ≤ b ∧ b < 0xC0)
    (hn : (a - 0xC0) * 0x40 + (b - 0x80) = n) (rest : Bytes) :
    decode (UInt8.ofNat a :: UInt8.ofNat b :: rest) = some (Char.ofNat n) :: decode rest := by
  have ha' := toNat_ofNat_of_lt (n := a) (by omega)
  have hb' := toNat_ofNat_of_lt (n := b) (by omega)
  have hwidth : width (UInt8.ofNat a) = 2 := width_eq_two (by omega) (by omega)
  have hfollows : follows (UInt8.ofNat a) (UInt8.ofNat b) = true :=
    (follows_iff _ _).2 (by omega)
  rw [← hn, decode.eq_def]
  simp only [hwidth, hfollows, if_true, ha', payload_ofNat (show b < 0x100 by omega)]

theorem decode_three {a b c n : Nat} (ha : 0xE0 ≤ a ∧ a < 0xF0) (hb : 0x80 ≤ b ∧ b < 0xC0)
    (hlow : a = 0xE0 → 0xA0 ≤ b) (hhigh : a = 0xED → b < 0xA0) (hc : 0x80 ≤ c ∧ c < 0xC0)
    (hn : (a - 0xE0) * 0x1000 + (b - 0x80) * 0x40 + (c - 0x80) = n) (rest : Bytes) :
    decode (UInt8.ofNat a :: UInt8.ofNat b :: UInt8.ofNat c :: rest) =
      some (Char.ofNat n) :: decode rest := by
  have ha' := toNat_ofNat_of_lt (n := a) (by omega)
  have hb' := toNat_ofNat_of_lt (n := b) (by omega)
  have hc' := toNat_ofNat_of_lt (n := c) (by omega)
  have hwidth : width (UInt8.ofNat a) = 3 := width_eq_three (by omega) (by omega)
  have hfollows : follows (UInt8.ofNat a) (UInt8.ofNat b) = true :=
    (follows_iff _ _).2 (by omega)
  have hlast : isContinuation (UInt8.ofNat c) = true := (isContinuation_iff _).2 (by omega)
  rw [← hn, decode.eq_def]
  simp only [hwidth, hfollows, hlast, if_true, ha', payload_ofNat (show b < 0x100 by omega),
    payload_ofNat (show c < 0x100 by omega)]

theorem decode_four {a b c d n : Nat} (ha : 0xF0 ≤ a ∧ a < 0xF5) (hb : 0x80 ≤ b ∧ b < 0xC0)
    (hlow : a = 0xF0 → 0x90 ≤ b) (hhigh : a = 0xF4 → b < 0x90) (hc : 0x80 ≤ c ∧ c < 0xC0)
    (hd : 0x80 ≤ d ∧ d < 0xC0)
    (hn : (a - 0xF0) * 0x40000 + (b - 0x80) * 0x1000 + (c - 0x80) * 0x40 + (d - 0x80) = n)
    (rest : Bytes) :
    decode (UInt8.ofNat a :: UInt8.ofNat b :: UInt8.ofNat c :: UInt8.ofNat d :: rest) =
      some (Char.ofNat n) :: decode rest := by
  have ha' := toNat_ofNat_of_lt (n := a) (by omega)
  have hb' := toNat_ofNat_of_lt (n := b) (by omega)
  have hc' := toNat_ofNat_of_lt (n := c) (by omega)
  have hd' := toNat_ofNat_of_lt (n := d) (by omega)
  have hwidth : width (UInt8.ofNat a) = 4 := width_eq_four (by omega) (by omega)
  have hfollows : follows (UInt8.ofNat a) (UInt8.ofNat b) = true :=
    (follows_iff _ _).2 (by omega)
  have hthird : isContinuation (UInt8.ofNat c) = true := (isContinuation_iff _).2 (by omega)
  have hlast : isContinuation (UInt8.ofNat d) = true := (isContinuation_iff _).2 (by omega)
  rw [← hn, decode.eq_def]
  simp only [hwidth, hfollows, hthird, hlast, if_true, ha',
    payload_ofNat (show b < 0x100 by omega), payload_ofNat (show c < 0x100 by omega),
    payload_ofNat (show d < 0x100 by omega)]

/-- A code point is no surrogate and not beyond U+10FFFF, which is what the narrower
ranges behind E0, ED, F0 and F4 need. -/
theorem decode_encodeChar_append (c : Char) (rest : Bytes) :
    decode (encodeChar c ++ rest) = some c :: decode rest := by
  have hvalid : c.toNat < 0xD800 ∨ (0xDFFF < c.toNat ∧ c.toNat < 0x110000) := c.valid
  have hback : some c = some (Char.ofNat c.toNat) := by rw [Char.ofNat_toNat]
  rw [hback]
  unfold encodeChar
  generalize c.toNat = n at hvalid
  dsimp only
  split
  · rename_i h
    exact decode_one h rest
  split
  · exact decode_two (by omega) (by omega) (by omega) rest
  split
  · exact decode_three (by omega) (by omega) (by omega) (by omega) (by omega) (by omega) rest
  · exact decode_four (by omega) (by omega) (by omega) (by omega) (by omega) (by omega) (by omega)
      rest

/-! ## Texts -/

@[simp] theorem encode_nil : encode [] = [] := rfl

@[simp] theorem encode_cons (c : Char) (t : Text) :
    encode (c :: t) = encodeChar c ++ encode t := rfl

@[simp] theorem encode_append (s t : Text) : encode (s ++ t) = encode s ++ encode t := by
  simp [encode]

/-- What is written in UTF-8 is read back, with nothing replaced. -/
theorem decode_encode (t : Text) : decode (encode t) = t.map some := by
  induction t with
  | nil => rfl
  | cons c t ih => rw [encode_cons, decode_encodeChar_append, ih, List.map_cons]

theorem decodeText_encode (t : Text) : Encoding.utf8.decodeText (encode t) = t := by
  show (decode (encode t)).text = t
  rw [decode_encode, Decoded.text_map_some]

/-! ## Where decoding can be cut -/

theorem follows_eq_false {b : UInt8} (hb : isContinuation b = false) (lead : UInt8) :
    follows lead b = false := by
  rw [Bool.eq_false_iff] at hb ⊢
  intro hfollows
  exact hb ((isContinuation_iff b).2 ((follows_iff lead b).1 hfollows).1)

/-- Nothing is decoded across the front of a byte that continues no character. -/
theorem decode_append {b : UInt8} (hb : isContinuation b = false) (front rest : Bytes) :
    decode (front ++ b :: rest) = decode front ++ decode (b :: rest) := by
  have hfollows := follows_eq_false hb
  -- wherever in a character `front` ends, the character is given up in front of `b`
  fun_induction decode front with
  | case1 => rfl
  | _ =>
    simp only [List.cons_append, List.nil_append] at *
    rw [decode.eq_def]
    simp_all only [if_true, if_false, Bool.false_eq_true]

/-! ## Lengths -/

theorem length_encodeChar (c : Char) : (encodeChar c).length = c.utf8Size := by
  have h₁ : (c.val ≤ 0x7F) = (c.toNat < 0x80) := by
    rw [UInt32.le_iff_toNat_le]; exact propext Nat.lt_succ_iff.symm
  have h₂ : (c.val ≤ 0x7FF) = (c.toNat < 0x800) := by
    rw [UInt32.le_iff_toNat_le]; exact propext Nat.lt_succ_iff.symm
  have h₃ : (c.val ≤ 0xFFFF) = (c.toNat < 0x10000) := by
    rw [UInt32.le_iff_toNat_le]; exact propext Nat.lt_succ_iff.symm
  show _ = if c.val ≤ 0x7F then 1 else if c.val ≤ 0x7FF then 2 else if c.val ≤ 0xFFFF then 3 else 4
  simp only [encodeChar, h₁, h₂, h₃]
  split
  · rfl
  split
  · rfl
  split <;> rfl

/-- Offsets count the bytes of the UTF-8 form. -/
theorem length_encode (t : Text) : (encode t).length = Text.byteLength t := by
  induction t with
  | nil => rfl
  | cons c t ih => rw [encode_cons, List.length_append, length_encodeChar, ih, Text.byteLength_cons]

end TextIntake.Utf8
