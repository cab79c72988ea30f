import TextIntake.Text.Basic
import TextIntake.Text.CaseData

set_option autoImplicit false

/-!
# Lower-casing a text

The full lower-case form of a text.  Every character is mapped on its own, with
two exceptions: U+0130 becomes `i` followed by a combining dot, and a capital
sigma at the end of a word becomes the final sigma.
-/

namespace TextIntake.Text

/-- The lower-case form of one character away from any context. -/
def lowerChar (c : Char) : Text :=
  if c.toNat < 0x80 then [c.toLower]
  else if c.toNat = 0x130 then ['i', Char.ofNat 0x307]
  else
    match lowerRuns.findSome? (·.lower? c.toNat) with
    | some n => [Char.ofNat n]
    | none => [c]

/-- Whether the first character that is not case-ignorable is a cased one. -/
def meetsCased (t : Text) : Bool :=
  match t.dropWhile (fun c => inRanges ignorableRanges c.toNat) with
  | [] => false
  | c :: _ => inRanges casedRanges c.toNat

/-- The lower-case form of a capital sigma between `before`, which is given from
the sigma backwards, and `after`: final when a word ends with it. -/
def lowerSigma (before after : Text) : Char :=
  if meetsCased before && !meetsCased after then Char.ofNat 0x3C2 else Char.ofNat 0x3C3

/-- The lower-case form of `t` when it follows the characters `before`, given
from the last one backwards. -/
def lowerAfter (before : Text) : Text → Text
  | [] => []
  | c :: t =>
    (if c.toNat = 0x3A3 then [lowerSigma before t] else lowerChar c) ++ lowerAfter (c :: before) t

/-- The lower-case form of a text. -/
def lowercase (t : Text) : Text := lowerAfter [] t

end TextIntake.Text
