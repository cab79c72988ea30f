import TextIntake.Line.Cut
import TextIntake.Proofs.Text.Blank

set_option autoImplicit false

/-!
# Characters inside lines

A line of text holds no line end, no NUL and no noncharacter.  Taking characters
out of a line keeps it so, and so does lower-casing: no character has one of these
for its lower-case form.

Main statement: `isInline_of_mem_lowercase`.
-/

namespace TextIntake

namespace Character

/-- A character that may stand inside a line of text. -/
def IsInline (c : Char) : Prop :=
  c ≠ '\r' ∧ c ≠ '\n' ∧ c ≠ '\x00' ∧ isNoncharacter c = false

instance (c : Char) : Decidable (IsInline c) := inferInstanceAs (Decidable (_ ∧ _ ∧ _ ∧ _))

theorem isInline_iff {c : Char} :
    IsInline c ↔ c ≠ '\n' ∧ c ≠ '\r' ∧ RawLine.isBinary c = false := by
  simp only [IsInline, RawLine.isBinary, Bool.or_eq_false_iff, beq_eq_false_iff_ne]
  exact and_left_comm

/-- Code points far from the controls and in none of the blocks of noncharacters. -/
def IsTame (n : Nat) : Prop :=
  (0x20 ≤ n ∧ n < 0xD800) ∨ (0xFDF0 ≤ n ∧ n < 0xFFFE) ∨ (0x10000 ≤ n ∧ n < 0x1FFFE)

theorem isInline_ofNat {n : Nat} (h : IsTame n) : IsInline (Char.ofNat n) := by
  unfold IsTame at h
  have hn : (Char.ofNat n).toNat = n := by
    refine toNat_ofNat ?_
    unfold Nat.isValidChar
    omega
  refine ⟨?_, ?_, ?_, ?_⟩
  · intro hc
    rw [hc] at hn
    change 0x0D = n at hn
    omega
  · intro hc
    rw [hc] at hn
    change 0x0A = n at hn
    omega
  · intro hc
    rw [hc] at hn
    change 0 = n at hn
    omega
  · simp only [isNoncharacter, hn, Bool.or_eq_false_iff, Bool.and_eq_false_iff,
      decide_eq_false_iff_not, beq_eq_false_iff_ne]
    omega

end Character

namespace Text

/-! ## Lower-casing -/

set_option maxRecDepth 4000 in
/-- Each run of lower-case forms lies inside one block of tame code points. -/
theorem lowerRuns_bounds : ∀ r ∈ lowerRuns,
    (0x20 ≤ r.image ∧ r.image + (r.last - r.first) < 0xD800) ∨
    (0xFDF0 ≤ r.image ∧ r.image + (r.last - r.first) < 0xFFFE) ∨
    (0x10000 ≤ r.image ∧ r.image + (r.last - r.first) < 0x1FFFE) := by
  decide

theorem isTame_of_lower? {r : CaseRun} (hr : r ∈ lowerRuns) {n m : Nat}
    (h : r.lower? n = some m) : Character.IsTame m := by
  have hbounds := lowerRuns_bounds r hr
  unfold CaseRun.lower? at h
  split at h
  · obtain rfl : r.image + (n - r.first) = m := by simpa using h
    unfold Character.IsTame
    omega
  · cases h

set_option maxRecDepth 4000 in
theorem isInline_toLower {c : Char} (h : c.toNat < 0x80) :
    Character.IsInline c → Character.IsInline c.toLower :=
  Character.forall_lt (P := fun c => Character.IsInline c → Character.IsInline c.toLower)
    (by decide) h

theorem isInline_of_mem_lowerChar {c d : Char} (hc : Character.IsInline c)
    (hd : d ∈ lowerChar c) : Character.IsInline d := by
  unfold lowerChar at hd
  split at hd
  · rename_i hascii
    rw [List.mem_singleton] at hd
    exact hd ▸ isInline_toLower hascii hc
  split at hd
  · simp only [List.mem_cons, List.not_mem_nil, or_false] at hd
    rcases hd with rfl | rfl <;> decide
  split at hd
  · rename_i n hfind
    obtain ⟨r, hr, hlower⟩ := List.exists_of_findSome?_eq_some hfind
    rw [List.mem_singleton] at hd
    exact hd ▸ Character.isInline_ofNat (isTame_of_lower? hr hlower)
  · rw [List.mem_singleton] at hd
    exact hd ▸ hc

theorem isInline_lowerSigma (before after : Text) :
    Character.IsInline (lowerSigma before after) := by
  unfold lowerSigma
  split <;> decide

theorem isInline_of_mem_lowerAfter {before t : Text} {d : Char}
    (ht : ∀ c ∈ t, Character.IsInline c) (hd : d ∈ lowerAfter before t) :
    Character.IsInline d := by
  induction t generalizing before with
  | nil => simp [lowerAfter] at hd
  | cons c t ih =>
    have hc := ht c (by simp)
    have htail : ∀ c ∈ t, Character.IsInline c := fun d hd => ht d (List.mem_cons_of_mem c hd)
    rw [lowerAfter, List.mem_append] at hd
    rcases hd with hd | hd
    · split at hd
      · rw [List.mem_singleton] at hd
        exact hd ▸ isInline_lowerSigma before t
      · exact isInline_of_mem_lowerChar hc hd
    · exact ih htail hd

/-- Lower-casing makes no line end and no binary character. -/
theorem isInline_of_mem_lowercase {t : Text} {d : Char}
    (ht : ∀ c ∈ t, Character.IsInline c) (hd : d ∈ lowercase t) : Character.IsInline d :=
  isInline_of_mem_lowerAfter ht hd

end Text

end TextIntake
