import TextIntake.Text.Basic

set_option autoImplicit false

/-!
# Spans of a line

What a scan finds in a line is kept as spans of bytes, so that it can be cut out
later.  Spans are cut from the last to the first, because a cut moves only what
stands behind it.
-/

namespace TextIntake

/-- The bytes from `start` up to and not including `stop`. -/
structure Span where
  start : Nat
  stop : Nat
  deriving DecidableEq, Repr, Inhabited

namespace Span

/-- The line without the span.  A span that reaches past the line, or does not fit
its characters, cuts nothing. -/
def cut (s : Span) (line : Text) : Text :=
  match Text.splitAtByte? s.start line with
  | none => line
  | some (before, rest) =>
    match Text.splitAtByte? (s.stop - s.start) rest with
    | none => line
    | some (_, after) => before ++ after

/-- The line without any of the spans. -/
def cutAll (spans : List Span) (line : Text) : Text := spans.foldr cut line

@[simp] theorem cutAll_nil (line : Text) : cutAll [] line = line := rfl

@[simp] theorem cutAll_cons (s : Span) (spans : List Span) (line : Text) :
    cutAll (s :: spans) line = s.cut (cutAll spans line) := rfl

end Span

end TextIntake
