import TextIntake.Tool.Basic

set_option autoImplicit false

/-!
# Patterns

What a pattern is made of: sets of octets, places that a match can be tied to,
repetitions, alternatives, and groups whose text may be asked for again.
-/

namespace TextIntake.Tool

/-- A set of octets, as one truth value for each. -/
structure OctetSet where
  bits : Array Bool
  deriving DecidableEq, Repr, Inhabited

namespace OctetSet

/-- The octets that fulfil a condition. -/
def ofPredicate (p : Char → Bool) : OctetSet where
  bits := ((List.range 256).map fun n => p (Char.ofNat n)).toArray

/-- Whether an octet is in the set. -/
def holds (s : OctetSet) (c : Char) : Bool := s.bits.getD c.toNat false

/-- The octets of a text. -/
def ofText (t : Text) : OctetSet := ofPredicate t.contains

/-- All other octets. -/
def complement (s : OctetSet) : OctetSet where
  bits := s.bits.map (!·)

end OctetSet

/-- A place that a match can be tied to. -/
inductive Anchor where
  | lineStart
  | lineEnd
  | bufferStart
  | bufferEnd
  | wordStart
  | wordEnd
  /-- the start or the end of a word -/
  | wordEdge
  | notWordEdge
  deriving DecidableEq, Repr, Inhabited

/-- A pattern. -/
inductive Pattern where
  | empty
  | one (c : Char)
  | among (s : OctetSet)
  | anchor (a : Anchor)
  | both (first second : Pattern)
  | either (first second : Pattern)
  | repeated (p : Pattern) (least : Nat) (most : Option Nat)
  | group (number : Nat) (p : Pattern)
  /-- the text that a group matched -/
  | again (number : Nat)
  deriving Inhabited

end TextIntake.Tool
