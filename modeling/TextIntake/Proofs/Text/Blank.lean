import TextIntake.Text.Lowercase

set_option autoImplicit false

/-!
# Blank texts

Blanks are their own lower-case forms, so a text of blanks is lower-cased to itself.

Main statement: `lowercase_of_isBlank`.
-/

namespace TextIntake

namespace Character

/-- The code points of blanks. -/
def blanks : List Nat :=
  [0x09, 0x0A, 0x0B, 0x0C, 0x0D, 0x20, 0x85, 0xA0, 0x1680, 0x2000, 0x2001, 0x2002, 0x2003, 0x2004,
    0x2005, 0x2006, 0x2007, 0x2008, 0x2009, 0x200A, 0x2028, 0x2029, 0x202F, 0x205F, 0x3000]

theorem mem_blanks_of_isBlank {c : Char} (h : isBlank c = true) : c.toNat ∈ blanks := by
  simp only [isBlank, Bool.or_eq_true, Bool.and_eq_true, decide_eq_true_eq, beq_iff_eq] at h
  simp only [blanks, List.mem_cons, List.not_mem_nil, or_false]
  omega

/-- What holds of each code point below a bound holds of each character below it. -/
theorem forall_lt {n : Nat} {P : Char → Prop} (h : ∀ m < n, P (Char.ofNat m)) {c : Char}
    (hc : c.toNat < n) : P c := by
  have hcode := h c.toNat hc
  rwa [Char.ofNat_toNat] at hcode

theorem toNat_ofNat {n : Nat} (h : n.isValidChar) : (Char.ofNat n).toNat = n := by
  rw [Char.ofNat, dif_pos h]
  rfl

end Character

namespace Text

set_option maxRecDepth 4000 in
theorem lowerChar_ofNat_of_mem_blanks : ∀ n ∈ Character.blanks,
    lowerChar (Char.ofNat n) = [Char.ofNat n] ∧ n ≠ 0x3A3 := by
  decide

theorem lowerChar_of_isBlank {c : Char} (h : Character.isBlank c = true) :
    lowerChar c = [c] ∧ c.toNat ≠ 0x3A3 := by
  have hlower := lowerChar_ofNat_of_mem_blanks c.toNat (Character.mem_blanks_of_isBlank h)
  rwa [Char.ofNat_toNat] at hlower

theorem lowerAfter_of_isBlank {before t : Text} (h : isBlank t = true) :
    lowerAfter before t = t := by
  induction t generalizing before with
  | nil => rfl
  | cons c t ih =>
    rw [isBlank, List.all_cons, Bool.and_eq_true] at h
    obtain ⟨hlower, hsigma⟩ := lowerChar_of_isBlank h.1
    rw [lowerAfter, if_neg hsigma, hlower, ih h.2]
    rfl

/-- A text of blanks has no upper-case letters. -/
theorem lowercase_of_isBlank {t : Text} (h : isBlank t = true) : lowercase t = t :=
  lowerAfter_of_isBlank h

/-- Taking characters out of blanks leaves blanks. -/
theorem isBlank_of_sublist {s t : Text} (h : List.Sublist s t) (ht : isBlank t = true) :
    isBlank s = true :=
  List.all_eq_true.2 fun c hc => List.all_eq_true.1 ht c (h.subset hc)

end Text

end TextIntake
