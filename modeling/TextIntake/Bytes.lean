set_option autoImplicit false

/-!
# Byte strings

Files and the output of commands are byte strings.  This module holds the few
operations on them that are not about any encoding: finding a pattern and
cutting there.
-/

namespace TextIntake

/-- A byte string. -/
abbrev Bytes := List UInt8

namespace Bytes

/-- The bytes of an ASCII text. -/
def ofAscii (s : String) : Bytes := s.toList.map fun c => UInt8.ofNat c.toNat

/-- Cuts before the first occurrence of `pattern`: the bytes in front of it and
the bytes from it on. -/
def breakOn? (pattern : Bytes) : Bytes → Option (Bytes × Bytes)
  | [] => if pattern.isEmpty then some ([], []) else none
  | b :: t =>
    if pattern.isPrefixOf (b :: t) then some ([], b :: t)
    else (breakOn? pattern t).map fun (before, rest) => (b :: before, rest)

theorem breakOn?_append {pattern bs before rest : Bytes}
    (h : breakOn? pattern bs = some (before, rest)) : before ++ rest = bs := by
  induction bs generalizing before rest with
  | nil =>
    simp only [breakOn?] at h
    split at h <;> simp_all
  | cons b t ih =>
    simp only [breakOn?] at h
    split at h
    · simp_all
    · obtain ⟨⟨before', rest'⟩, h', heq⟩ := Option.map_eq_some_iff.1 h
      simp only [Prod.mk.injEq] at heq
      obtain ⟨rfl, rfl⟩ := heq
      simp [ih h']

theorem breakOn?_isPrefixOf {pattern bs before rest : Bytes}
    (h : breakOn? pattern bs = some (before, rest)) : pattern.isPrefixOf rest = true := by
  induction bs generalizing before rest with
  | nil =>
    simp only [breakOn?] at h
    split at h <;> simp_all
  | cons b t ih =>
    simp only [breakOn?] at h
    split at h
    · simp_all
    · obtain ⟨⟨before', rest'⟩, h', heq⟩ := Option.map_eq_some_iff.1 h
      simp only [Prod.mk.injEq] at heq
      obtain ⟨rfl, rfl⟩ := heq
      exact ih h'

end Bytes

end TextIntake
