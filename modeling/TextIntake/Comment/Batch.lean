import TextIntake.Text.Basic

set_option autoImplicit false

/-!
# Comments of batch files

A line is a comment as a whole, or not at all: when its first word is `REM`, in
either case, or when it starts with two colons.
-/

namespace TextIntake.Batch

/-- Whether a line is a comment.  Behind `REM` only a space or a tab ends the word. -/
def isComment (line : Text) : Bool :=
  match Text.trimStart line with
  | ':' :: ':' :: _ => true
  | [r, e, m] => isRem r e m
  | r :: e :: m :: next :: _ => isRem r e m && (next == ' ' || next == '\t')
  | _ => false
where
  /-- The letters of `REM` in either case. -/
  isRem (r e m : Char) : Bool := r.toLower == 'r' && e.toLower == 'e' && m.toLower == 'm'

end TextIntake.Batch
