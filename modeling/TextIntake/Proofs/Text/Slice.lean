import TextIntake.Text.Basic

set_option autoImplicit false

/-!
# Byte positions in a text

A position is a character boundary when the text splits there.  `slice?` reads
exactly between boundaries: it answers with what stands between two of them, and
with nothing when one of its ends falls inside a character or past the end.

Main statements: `splitAtByte?_eq_some_iff` and `slice?_eq_some_iff`.
-/

namespace TextIntake.Text

/-- Byte `n` of the text is the start of a character, or the end of the text. -/
def IsBoundary (t : Text) (n : Nat) : Prop :=
  ∃ before rest, t = before ++ rest ∧ byteLength before = n

theorem isBoundary_byteLength (before rest : Text) :
    IsBoundary (before ++ rest) (byteLength before) :=
  ⟨before, rest, rfl, rfl⟩

theorem IsBoundary.le_byteLength {t : Text} {n : Nat} (h : IsBoundary t n) : n ≤ byteLength t := by
  obtain ⟨before, rest, rfl, rfl⟩ := h
  rw [byteLength_append]
  exact Nat.le_add_right _ _

theorem eq_nil_of_byteLength {t : Text} (h : byteLength t = 0) : t = [] := by
  cases t with
  | nil => rfl
  | cons c t =>
    have hc : 0 < c.utf8Size := c.utf8Size_pos
    rw [byteLength_cons] at h
    omega

/-- A boundary that does not lie in the front of a text cuts what stands behind that front. -/
theorem exists_append_of_isBoundary {s t : Text} {n : Nat} (h : IsBoundary (s ++ t) n)
    (hn : byteLength s ≤ n) :
    ∃ inside rest, t = inside ++ rest ∧ byteLength s + byteLength inside = n := by
  obtain ⟨before, rest, hsplit, rfl⟩ := h
  rcases List.append_eq_append_iff.1 hsplit with ⟨inside, rfl, rfl⟩ | ⟨more, rfl, rfl⟩
  · exact ⟨inside, rest, rfl, (byteLength_append s inside).symm⟩
  · rw [byteLength_append] at hn
    obtain rfl : more = [] := eq_nil_of_byteLength (by omega)
    exact ⟨[], t, rfl, by rw [List.append_nil]; rfl⟩

/-- No boundary lies inside a character. -/
theorem IsBoundary.not_inside {before after : Text} {c : Char} {n : Nat}
    (h : IsBoundary (before ++ c :: after) n) :
    n ≤ byteLength before ∨ byteLength before + c.utf8Size ≤ n := by
  by_cases hn : byteLength before ≤ n
  · obtain ⟨inside, rest, hinside, rfl⟩ := exists_append_of_isBoundary h hn
    cases inside with
    | nil => exact .inl (Nat.le_refl _)
    | cons d inside =>
      obtain ⟨rfl, -⟩ := List.cons.inj hinside
      right
      rw [byteLength_cons]
      omega
  · exact .inl (Nat.le_of_not_le hn)

/-- Splitting succeeds exactly at a boundary, and loses nothing. -/
theorem splitAtByte?_eq_some_iff {n : Nat} {t before rest : Text} :
    splitAtByte? n t = some (before, rest) ↔ t = before ++ rest ∧ byteLength before = n := by
  constructor
  · intro h
    induction t generalizing n before with
    | nil =>
      cases n with
      | zero =>
        simp only [splitAtByte?, Option.some.injEq, Prod.mk.injEq] at h
        obtain ⟨rfl, rfl⟩ := h
        exact ⟨rfl, rfl⟩
      | succ n => simp [splitAtByte?] at h
    | cons c t ih =>
      cases n with
      | zero =>
        simp only [splitAtByte?, Option.some.injEq, Prod.mk.injEq] at h
        obtain ⟨rfl, rfl⟩ := h
        exact ⟨rfl, rfl⟩
      | succ n =>
        simp only [splitAtByte?] at h
        split at h
        · rename_i hfits
          obtain ⟨⟨before', rest'⟩, hsplit, heq⟩ := Option.map_eq_some_iff.1 h
          simp only [Prod.mk.injEq] at heq
          obtain ⟨rfl, rfl⟩ := heq
          obtain ⟨ht, hlen⟩ := ih hsplit
          refine ⟨by rw [ht]; rfl, ?_⟩
          simp only [byteLength_cons, hlen]
          omega
        · cases h
  · rintro ⟨rfl, rfl⟩
    exact splitAtByte?_byteLength before rest

/-- A slice is what stands between two boundaries. -/
theorem slice?_eq_some_iff {t inside : Text} {offset size : Nat} :
    slice? t offset size = some inside ↔
      ∃ before rest, t = before ++ (inside ++ rest) ∧
        byteLength before = offset ∧ byteLength inside = size := by
  constructor
  · intro h
    simp only [slice?, Option.bind_eq_bind, Option.bind_eq_some_iff, Option.pure_def,
      Option.some.injEq] at h
    obtain ⟨⟨before, tail⟩, houter, ⟨inside', rest⟩, hinner, rfl⟩ := h
    obtain ⟨rfl, hbefore⟩ := splitAtByte?_eq_some_iff.1 houter
    obtain ⟨rfl, hinside⟩ := splitAtByte?_eq_some_iff.1 hinner
    exact ⟨before, rest, rfl, hbefore, hinside⟩
  · rintro ⟨before, rest, rfl, rfl, rfl⟩
    simp [slice?, splitAtByte?_byteLength]

theorem isBoundary_of_slice? {t inside : Text} {offset size : Nat}
    (h : slice? t offset size = some inside) :
    IsBoundary t offset ∧ IsBoundary t (offset + size) := by
  obtain ⟨before, rest, rfl, rfl, rfl⟩ := slice?_eq_some_iff.1 h
  refine ⟨isBoundary_byteLength before (inside ++ rest), ?_⟩
  rw [← byteLength_append, ← List.append_assoc]
  exact isBoundary_byteLength (before ++ inside) rest

end TextIntake.Text
