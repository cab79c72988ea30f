import TextIntake.Text.Basic

set_option autoImplicit false

/-!
# Hash comments

`#` opens a comment that runs to the end of its line.  Inside a quoted string it
does not count, and there a backslash takes away the meaning of the character
behind it.
-/

namespace TextIntake.Hash

/-- Where in a line the scan stands. -/
inductive Mode where
  | code
  | quoted (quote : Char) (escaped : Bool)
  deriving DecidableEq, Repr, Inhabited

/-- The part of the line in front of its comment; `none` without a comment. -/
def code? : Mode → Text → Option Text
  | _, [] => none
  | .quoted quote true, c :: t => (code? (.quoted quote false) t).map (c :: ·)
  | .quoted quote false, c :: t =>
    if c = '\\' then (code? (.quoted quote true) t).map (c :: ·)
    else if c = quote then (code? .code t).map (c :: ·)
    else (code? (.quoted quote false) t).map (c :: ·)
  | .code, c :: t =>
    if c = '#' then some []
    else if c = '"' ∨ c = '\'' then (code? (.quoted c false) t).map (c :: ·)
    else (code? .code t).map (c :: ·)

/-- The part of a whole line in front of its comment. -/
def codeOfLine? (line : Text) : Option Text := code? .code line

end TextIntake.Hash
