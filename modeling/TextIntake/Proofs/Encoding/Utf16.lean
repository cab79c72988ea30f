import TextIntake.Proofs.Encoding.Utf8

set_option autoImplicit false

/-!
# UTF-16 forms are read back

Writing a text in UTF-16, in either byte order, and decoding the bytes gives the text
back, with nothing replaced.  A character is no surrogate, so that a unit of its own is
never taken for half of a pair, and the two halves of a pair find each other.

Main statement: `decode_encode`.
-/

namespace TextIntake.Utf16

variable {order : ByteOrder} {u v : Nat}

/-! ## Units -/

theorem isHigh_iff (u : Nat) : isHigh u = true ↔ 0xD800 ≤ u ∧ u < 0xDC00 := by
  simp [isHigh]

theorem isLow_iff (u : Nat) : isLow u = true ↔ 0xDC00 ≤ u ∧ u < 0xE000 := by
  simp [isLow]

/-- A unit is written as two bytes that make it up. -/
theorem ByteOrder.exists_bytes_eq (order : ByteOrder) (h : u < 0x10000) :
    ∃ a b, order.bytes u = [a, b] ∧ order.unit a b = u := by
  have hlow := Utf8.toNat_ofNat_of_lt (n := u % 0x100) (by omega)
  have hhigh := Utf8.toNat_ofNat_of_lt (n := u / 0x100) (by omega)
  cases order with
  | little =>
    refine ⟨_, _, rfl, ?_⟩
    rw [unit, hlow, hhigh]
    omega
  | big =>
    refine ⟨_, _, rfl, ?_⟩
    rw [unit, hlow, hhigh]
    omega

/-! ## One character -/

/-- A unit that is no surrogate is a character. -/
theorem decode_bytes_append (hu : u < 0xD800 ∨ (0xDFFF < u ∧ u < 0x10000)) (rest : Bytes) :
    decode order (order.bytes u ++ rest) = some (Char.ofNat u) :: decode order rest := by
  obtain ⟨a, b, hbytes, hunit⟩ := order.exists_bytes_eq (u := u) (by omega)
  have hhigh : ¬ isHigh u = true := fun h => by have := (isHigh_iff u).1 h; omega
  have hlow : ¬ isLow u = true := fun h => by have := (isLow_iff u).1 h; omega
  rw [hbytes, List.cons_append, List.cons_append, List.nil_append, decode.eq_def]
  simp only [hunit, if_neg hhigh, if_neg hlow]

/-- A pair of surrogates is a character. -/
theorem decode_pair_append (hu : 0xD800 ≤ u ∧ u < 0xDC00) (hv : 0xDC00 ≤ v ∧ v < 0xE000)
    (rest : Bytes) :
    decode order (order.bytes u ++ (order.bytes v ++ rest)) =
      some (Char.ofNat (0x10000 + (u - 0xD800) * 0x400 + (v - 0xDC00))) :: decode order rest := by
  obtain ⟨a, b, hfirst, hhigh⟩ := order.exists_bytes_eq (u := u) (by omega)
  obtain ⟨c, d, hsecond, hlow⟩ := order.exists_bytes_eq (u := v) (by omega)
  rw [hfirst, hsecond, decode.eq_def]
  simp only [List.cons_append, List.nil_append, hhigh, hlow, (isHigh_iff u).2 hu,
    (isLow_iff v).2 hv, if_true]

theorem decode_units_append (order : ByteOrder) (c : Char) (rest : Bytes) :
    decode order ((units c).flatMap order.bytes ++ rest) = some c :: decode order rest := by
  have hvalid : c.toNat < 0xD800 ∨ (0xDFFF < c.toNat ∧ c.toNat < 0x110000) := c.valid
  have hback : some c = some (Char.ofNat c.toNat) := by rw [Char.ofNat_toNat]
  rw [hback]
  unfold units
  generalize c.toNat = n at hvalid
  dsimp only
  split
  · rw [List.flatMap_singleton]
    exact decode_bytes_append (by omega) rest
  · have hpair := @decode_pair_append order (0xD800 + (n - 0x10000) / 0x400)
      (0xDC00 + (n - 0x10000) % 0x400) (by omega) (by omega) rest
    have hn : 0x10000 + (0xD800 + (n - 0x10000) / 0x400 - 0xD800) * 0x400 +
        (0xDC00 + (n - 0x10000) % 0x400 - 0xDC00) = n := by omega
    rw [hn] at hpair
    simpa using hpair

/-! ## Texts -/

/-- What is written in UTF-16 is read back, with nothing replaced. -/
theorem decode_encode (order : ByteOrder) (t : Text) :
    decode order (encode order t) = t.map some := by
  induction t with
  | nil => rfl
  | cons c t ih =>
    rw [encode, List.flatMap_cons, List.flatMap_append, decode_units_append, List.map_cons]
    exact congrArg (some c :: ·) ih

end TextIntake.Utf16
