import TextIntake.Proofs.Text.Blank

set_option autoImplicit false

/-!
# The column of a text

The column of a text is the number of blanks in front of its first other character.
Lower-casing never moves it, although it may make a text longer: blanks and digits are their own
lower-case forms, and the form of any other character begins with a character that is neither.
So it makes no difference either whether digits are taken out before or behind it.

Main statements: `firstNonBlank?_eq_some_iff` and `firstNonBlank?_filter_lowercase`.
-/

namespace TextIntake

namespace Character

/-- A character that is neither blank nor a decimal digit. -/
def IsSolid (c : Char) : Prop := isBlank c = false ∧ isDecimalDigit c = false

instance (c : Char) : Decidable (IsSolid c) := inferInstanceAs (Decidable (_ ∧ _))

theorem isDecimalDigit_of_lt {c : Char} (h : 0x39 < c.toNat) : isDecimalDigit c = false := by
  rw [isDecimalDigit, Bool.and_eq_false_iff, decide_eq_false_iff_not, decide_eq_false_iff_not]
  exact .inr fun hle => absurd (show c.toNat ≤ 0x39 from hle) (Nat.not_le_of_lt h)

/-- Code points that are neither those of blanks nor those of digits. -/
theorem isSolid_ofNat {n : Nat}
    (h : (0x3A ≤ n ∧ n < 0x85) ∨ (0xA1 ≤ n ∧ n < 0x1680) ∨ (0x1681 ≤ n ∧ n < 0x2000) ∨
      (0x2060 ≤ n ∧ n < 0x3000) ∨ (0x3001 ≤ n ∧ n < 0xD800) ∨ (0xE000 ≤ n ∧ n < 0x110000)) :
    IsSolid (Char.ofNat n) := by
  have hn : (Char.ofNat n).toNat = n := by
    refine toNat_ofNat ?_
    unfold Nat.isValidChar
    omega
  refine ⟨?_, isDecimalDigit_of_lt (by omega)⟩
  simp only [isBlank, hn, Bool.or_eq_false_iff, Bool.and_eq_false_iff, decide_eq_false_iff_not,
    beq_eq_false_iff_ne]
  omega

end Character

namespace Text

/-! ## The first character that is not blank -/

theorem firstNonBlank?_cons_of_blank {c : Char} (h : Character.isBlank c = true) (t : Text) :
    firstNonBlank? (c :: t) = (firstNonBlank? t).map (· + 1) := by
  rw [firstNonBlank?, List.findIdx?_cons, h]
  rfl

theorem firstNonBlank?_cons_of_not_blank {c : Char} (h : Character.isBlank c = false) (t : Text) :
    firstNonBlank? (c :: t) = some 0 := by
  rw [firstNonBlank?, List.findIdx?_cons, h]
  rfl

/-- A text has a column exactly when it is not blank. -/
theorem firstNonBlank?_eq_none_iff {t : Text} : firstNonBlank? t = none ↔ isBlank t = true := by
  rw [firstNonBlank?, List.findIdx?_eq_none_iff, isBlank, List.all_eq_true]
  exact forall₂_congr fun c _ => by rw [Bool.not_eq_eq_eq_not, Bool.not_false]

/-- The column is that of a character which is not blank, behind nothing but blanks. -/
theorem firstNonBlank?_eq_some_iff {t : Text} {k : Nat} :
    firstNonBlank? t = some k ↔
      ∃ c, t[k]? = some c ∧ Character.isBlank c = false ∧ isBlank (t.take k) = true := by
  rw [firstNonBlank?, List.findIdx?_eq_some_iff_getElem]
  constructor
  · rintro ⟨hk, hnot, hbefore⟩
    refine ⟨t[k], List.getElem?_eq_getElem hk, by simpa using hnot, ?_⟩
    refine List.all_eq_true.2 fun c hc => ?_
    obtain ⟨j, hj, rfl⟩ := List.mem_take_iff_getElem.1 hc
    simpa using hbefore j (by omega)
  · rintro ⟨c, hc, hnot, hbefore⟩
    obtain ⟨hk, rfl⟩ := List.getElem?_eq_some_iff.1 hc
    refine ⟨hk, by simpa using hnot, fun j hj => ?_⟩
    have hmem : t[j] ∈ t.take k := List.mem_take_iff_getElem.2 ⟨j, by omega, rfl⟩
    simpa using List.all_eq_true.1 hbefore t[j] hmem

/-! ## Lower-casing -/

set_option maxRecDepth 4000 in
/-- No run of lower-case forms reaches a blank or a digit. -/
theorem lowerRuns_solid : ∀ r ∈ lowerRuns,
    (0x3A ≤ r.image ∧ r.image + (r.last - r.first) < 0x85) ∨
    (0xA1 ≤ r.image ∧ r.image + (r.last - r.first) < 0x1680) ∨
    (0x1681 ≤ r.image ∧ r.image + (r.last - r.first) < 0x2000) ∨
    (0x2060 ≤ r.image ∧ r.image + (r.last - r.first) < 0x3000) ∨
    (0x3001 ≤ r.image ∧ r.image + (r.last - r.first) < 0xD800) ∨
    (0xE000 ≤ r.image ∧ r.image + (r.last - r.first) < 0x110000) := by
  decide

theorem isSolid_of_lower? {r : CaseRun} (hr : r ∈ lowerRuns) {n m : Nat}
    (h : r.lower? n = some m) : Character.IsSolid (Char.ofNat m) := by
  have hbounds := lowerRuns_solid r hr
  unfold CaseRun.lower? at h
  split at h
  · obtain rfl : r.image + (n - r.first) = m := by simpa using h
    exact Character.isSolid_ofNat (by omega)
  · cases h

/-- An ASCII character is its own lower-case form, unless it is a letter. -/
theorem toLower_cases {c : Char} (h : c.toNat < 0x80) :
    c.toLower = c ∨ (Character.IsSolid c ∧ Character.IsSolid c.toLower) :=
  Character.forall_lt
    (P := fun c => c.toLower = c ∨ (Character.IsSolid c ∧ Character.IsSolid c.toLower))
    (by decide) h

/-- Lower-casing leaves a character as it is, or puts a solid one first for a solid one. -/
theorem lowerChar_cases (c : Char) :
    lowerChar c = [c] ∨
      (Character.IsSolid c ∧ ∃ d more, lowerChar c = d :: more ∧ Character.IsSolid d) := by
  cases hblank : Character.isBlank c with
  | true => exact .inl (lowerChar_of_isBlank hblank).1
  | false =>
    unfold lowerChar
    split
    · rename_i hascii
      rcases toLower_cases hascii with hsame | ⟨hc, hd⟩
      · exact .inl (by rw [hsame])
      · exact .inr ⟨hc, _, _, rfl, hd⟩
    · rename_i hascii
      have hc : Character.IsSolid c := ⟨hblank, Character.isDecimalDigit_of_lt (by omega)⟩
      split
      · exact .inr ⟨hc, _, _, rfl, by decide⟩
      split
      · rename_i n hfind
        obtain ⟨r, hr, hlower⟩ := List.exists_of_findSome?_eq_some hfind
        exact .inr ⟨hc, _, _, rfl, isSolid_of_lower? hr hlower⟩
      · exact .inl rfl

/-- What stands in a lower-cased text for its first character. -/
theorem lowerAfter_cons_cases (before : Text) (c : Char) (t : Text) :
    ∃ form, lowerAfter before (c :: t) = form ++ lowerAfter (c :: before) t ∧
      (form = [c] ∨
        (Character.IsSolid c ∧ ∃ d more, form = d :: more ∧ Character.IsSolid d)) := by
  refine ⟨_, rfl, ?_⟩
  split
  · rename_i hsigma
    have hc : Character.IsSolid c := by
      rw [← Char.ofNat_toNat c, hsigma]
      decide
    refine .inr ⟨hc, _, _, rfl, ?_⟩
    unfold lowerSigma
    split <;> decide
  · exact lowerChar_cases c

section

variable {keep : Char → Bool} (hkeep : ∀ c, Character.IsSolid c → keep c = true)

include hkeep

theorem firstNonBlank?_filter_of_solid {c : Char} (h : Character.IsSolid c) (t : Text) :
    firstNonBlank? ((c :: t).filter keep) = some 0 := by
  rw [List.filter_cons_of_pos (hkeep c h), firstNonBlank?_cons_of_not_blank h.1]

theorem firstNonBlank?_filter_lowerAfter (before t : Text) :
    firstNonBlank? ((lowerAfter before t).filter keep) = firstNonBlank? (t.filter keep) := by
  induction t generalizing before with
  | nil => rfl
  | cons c t ih =>
    obtain ⟨form, hform, rfl | ⟨hc, d, more, rfl, hd⟩⟩ := lowerAfter_cons_cases before c t
    · rw [hform, List.singleton_append]
      cases hkept : keep c with
      | false =>
        rw [List.filter_cons_of_neg (by simp [hkept]), List.filter_cons_of_neg (by simp [hkept])]
        exact ih (c :: before)
      | true =>
        rw [List.filter_cons_of_pos hkept, List.filter_cons_of_pos hkept]
        cases hblank : Character.isBlank c with
        | false =>
          rw [firstNonBlank?_cons_of_not_blank hblank, firstNonBlank?_cons_of_not_blank hblank]
        | true =>
          rw [firstNonBlank?_cons_of_blank hblank, firstNonBlank?_cons_of_blank hblank, ih]
    · rw [hform, List.cons_append, firstNonBlank?_filter_of_solid hkeep hd,
        firstNonBlank?_filter_of_solid hkeep hc]

/-- Lower-casing does not move the column, whatever blanks and digits are taken out. -/
theorem firstNonBlank?_filter_lowercase (t : Text) :
    firstNonBlank? ((lowercase t).filter keep) = firstNonBlank? (t.filter keep) :=
  firstNonBlank?_filter_lowerAfter hkeep [] t

end

theorem firstNonBlank?_lowercase (t : Text) :
    firstNonBlank? (lowercase t) = firstNonBlank? t := by
  have hkept : ∀ t : Text, t.filter (fun _ => true) = t := fun t =>
    List.filter_eq_self.2 fun _ _ => rfl
  have hcolumn : firstNonBlank? ((lowercase t).filter fun _ => true) =
      firstNonBlank? (t.filter fun _ => true) :=
    firstNonBlank?_filter_lowercase (fun _ _ => rfl) t
  rwa [hkept, hkept] at hcolumn

end Text

end TextIntake
