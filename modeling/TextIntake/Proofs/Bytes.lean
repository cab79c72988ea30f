import TextIntake.Bytes

set_option autoImplicit false

/-!
# First occurrences of a pattern

`breakOn?` cuts in front of the first occurrence of a pattern, and finds nothing only where
the pattern does not occur.  In bytes that are put together from parts a pattern may occur
across a joint.  It does not where a byte stands between the parts that is not in the
pattern, or where the front part lacks the byte that the pattern begins with; and a pattern
whose first byte does not come again in it cannot begin inside an occurrence of itself.

Main statements: `breakOn?_eq_some_iff`, `breakOn?_eq_none_iff` and `IsFirst.of_not_occurs`.
-/

namespace TextIntake.Bytes

variable {pattern bs before rest after front : Bytes} {b : UInt8}

/-- `rest` begins with the first occurrence of `pattern` in `bs`, and `before` is what stands
in front of it. -/
structure IsFirst (pattern bs before rest : Bytes) : Prop where
  append : before ++ rest = bs
  starts : pattern <+: rest
  /-- No occurrence begins earlier. -/
  earliest : ∀ {earlier later : Bytes}, earlier ++ later = bs → pattern <+: later →
    before.length ≤ earlier.length

namespace IsFirst

theorem unique {before' rest' : Bytes} (h : IsFirst pattern bs before rest)
    (h' : IsFirst pattern bs before' rest') : before = before' ∧ rest = rest' := by
  have hle := h.earliest h'.append h'.starts
  have hge := h'.earliest h.append h.starts
  exact List.append_inj (h.append.trans h'.append.symm) (Nat.le_antisymm hle hge)

theorem occurs (h : IsFirst pattern bs before rest) : pattern <:+: bs := by
  rw [← h.append]
  exact h.starts.isInfix.trans (List.suffix_append before rest).isInfix

/-- A pattern at the start occurs there first. -/
theorem of_starts (h : pattern <+: bs) : IsFirst pattern bs [] bs where
  append := rfl
  starts := h
  earliest := fun _ _ => Nat.zero_le _

end IsFirst

/-! ## Cutting -/

theorem isFirst_of_breakOn? (h : breakOn? pattern bs = some (before, rest)) :
    IsFirst pattern bs before rest := by
  refine ⟨breakOn?_append h, List.isPrefixOf_iff_prefix.1 (breakOn?_isPrefixOf h), ?_⟩
  intro earlier later happend hlater
  induction bs generalizing before rest earlier with
  | nil =>
    rw [List.append_eq_nil_iff] at happend
    rw [(List.append_eq_nil_iff.1 (breakOn?_append h)).1]
    exact Nat.zero_le _
  | cons b t ih =>
    rw [breakOn?] at h
    split at h
    · obtain ⟨rfl, _⟩ := Prod.mk.inj (Option.some.inj h)
      exact Nat.zero_le _
    · rename_i hstart
      obtain ⟨⟨before', rest'⟩, hcut, heq⟩ := Option.map_eq_some_iff.1 h
      obtain ⟨rfl, _⟩ := Prod.mk.inj heq
      cases earlier with
      | nil =>
        obtain rfl : later = b :: t := happend
        exact absurd (List.isPrefixOf_iff_prefix.2 hlater) hstart
      | cons x earlier =>
        obtain ⟨_, htail⟩ := List.cons.inj happend
        exact Nat.succ_le_succ (ih hcut htail)

theorem breakOn?_eq_none_iff : breakOn? pattern bs = none ↔ ¬ pattern <:+: bs := by
  induction bs with
  | nil =>
    rw [breakOn?, List.infix_nil]
    cases pattern <;> simp
  | cons b t ih =>
    rw [breakOn?, List.infix_cons_iff, ← List.isPrefixOf_iff_prefix, not_or, ← ih]
    split
    · rename_i hstart
      simp [hstart]
    · rename_i hstart
      simp [hstart]

/-- Cutting finds the first occurrence. -/
theorem breakOn?_eq_some_iff :
    breakOn? pattern bs = some (before, rest) ↔ IsFirst pattern bs before rest := by
  refine ⟨isFirst_of_breakOn?, fun h => ?_⟩
  match hcut : breakOn? pattern bs with
  | none => exact absurd h.occurs (breakOn?_eq_none_iff.1 hcut)
  | some (before', rest') =>
    obtain ⟨rfl, rfl⟩ := h.unique (isFirst_of_breakOn? hcut)
    rfl

/-- Where a pattern occurs, it occurs somewhere first. -/
theorem exists_isFirst (h : pattern <:+: bs) : ∃ before rest, IsFirst pattern bs before rest := by
  match hcut : breakOn? pattern bs with
  | none => exact absurd h (breakOn?_eq_none_iff.1 hcut)
  | some (before, rest) => exact ⟨before, rest, isFirst_of_breakOn? hcut⟩

/-! ## Occurrences across a joint -/

/-- A pattern without the byte `b` does not reach over it. -/
theorem starts_of_starts_append_cons (hb : b ∉ pattern) (h : pattern <+: front ++ b :: rest) :
    pattern <+: front := by
  induction front generalizing pattern with
  | nil =>
    cases pattern with
    | nil => exact List.nil_prefix
    | cons c t =>
      obtain ⟨rfl, _⟩ := List.cons_prefix_cons.1 h
      exact absurd List.mem_cons_self hb
  | cons c front ih =>
    cases pattern with
    | nil => exact List.nil_prefix
    | cons d t =>
      obtain ⟨rfl, htail⟩ := List.cons_prefix_cons.1 h
      exact List.cons_prefix_cons.2 ⟨rfl, ih (fun hmem => hb (List.mem_cons_of_mem d hmem)) htail⟩

/-- A pattern without the byte `b` occurs on one side of it if at all. -/
theorem not_occurs_append_cons (hb : b ∉ pattern) (hfront : ¬ pattern <:+: front)
    (hrest : ¬ pattern <:+: rest) : ¬ pattern <:+: front ++ b :: rest := by
  induction front with
  | nil =>
    intro h
    rcases List.infix_cons_iff.1 h with h | h
    · have hstarts : pattern <+: [] ++ b :: rest := h
      exact hfront (starts_of_starts_append_cons hb hstarts).isInfix
    · exact hrest h
  | cons c front ih =>
    intro h
    rcases List.infix_cons_iff.1 h with h | h
    · have hstarts : pattern <+: (c :: front) ++ b :: rest := h
      exact hfront (starts_of_starts_append_cons hb hstarts).isInfix
    · exact ih (fun hinner => hfront (List.infix_cons hinner)) h

/-- A pattern does not begin in bytes that lack its first byte. -/
theorem not_occurs_append {t : Bytes} (hfront : b ∉ front) (hrest : ¬ (b :: t) <:+: rest) :
    ¬ (b :: t) <:+: front ++ rest := by
  induction front with
  | nil => exact hrest
  | cons c front ih =>
    intro h
    rcases List.infix_cons_iff.1 h with h | h
    · obtain ⟨rfl, _⟩ := List.cons_prefix_cons.1 h
      exact hfront List.mem_cons_self
    · exact ih (fun hmem => hfront (List.mem_cons_of_mem c hmem)) h

/-- A pattern that does not begin inside an occurrence of itself is found behind bytes that do
not hold it. -/
theorem IsFirst.of_not_occurs {t : Bytes} (hb : b ∉ t) (h : ¬ (b :: t) <:+: before)
    (after : Bytes) :
    IsFirst (b :: t) (before ++ (b :: t ++ after)) before (b :: t ++ after) := by
  refine ⟨rfl, List.prefix_append (b :: t) after, ?_⟩
  intro earlier later happend hlater
  refine Nat.le_of_not_lt fun hlt => h ?_
  rcases List.append_eq_append_iff.1 happend with ⟨more, hbefore, rfl⟩ | ⟨more, rfl, _⟩
  · cases more with
    | nil => simp [hbefore] at hlt
    | cons c more =>
      obtain ⟨rfl, htail⟩ := List.cons_prefix_cons.1 hlater
      have hinside : b :: t <+: b :: more :=
        List.cons_prefix_cons.2 ⟨rfl, starts_of_starts_append_cons hb htail⟩
      rw [hbefore]
      exact hinside.isInfix.trans (List.suffix_append earlier (b :: more)).isInfix
  · rw [List.length_append] at hlt
    omega

end TextIntake.Bytes
