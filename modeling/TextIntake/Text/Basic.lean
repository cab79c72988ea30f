set_option autoImplicit false

/-!
# Text: characters, blanks and byte columns

A text is a list of Unicode scalar values.  Positions in a text are counted in
two ways: by character, for columns shown to a reader, and by byte of its UTF-8
form, for the offsets that line records carry.  This module fixes both counts,
the class of blank characters and the characters that mark content as binary.
-/

namespace TextIntake

/-- A text, as the list of its characters. -/
abbrev Text := List Char

namespace Character

/-- The characters of the Unicode property `White_Space`. -/
def isBlank (c : Char) : Bool :=
  let n := c.toNat
  (0x09 ≤ n && n ≤ 0x0D) || n == 0x20 || n == 0x85 || n == 0xA0 || n == 0x1680 ||
    (0x2000 ≤ n && n ≤ 0x200A) || n == 0x2028 || n == 0x2029 || n == 0x202F ||
    n == 0x205F || n == 0x3000

/-- The 66 code points that Unicode reserves as noncharacters: U+FDD0 to U+FDEF
and the last two of every plane. -/
def isNoncharacter (c : Char) : Bool :=
  let n := c.toNat
  (0xFDD0 ≤ n && n ≤ 0xFDEF) || n % 0x10000 == 0xFFFE || n % 0x10000 == 0xFFFF

/-- U+FFFD, which stands for input that could not be decoded. -/
def replacement : Char := '\uFFFD'

/-- The decimal digits `0` to `9`. -/
def isDecimalDigit (c : Char) : Bool := '0' ≤ c && c ≤ '9'

end Character

namespace Text

/-- The text without the blanks at its start. -/
def trimStart (t : Text) : Text := t.dropWhile Character.isBlank

/-- The text without the blanks at its end. -/
def trimEnd (t : Text) : Text := (t.reverse.dropWhile Character.isBlank).reverse

/-- The text without the blanks at both ends. -/
def trim (t : Text) : Text := trimEnd (trimStart t)

/-- A text of blanks only. -/
def isBlank (t : Text) : Bool := t.all Character.isBlank

/-- The text with `A` to `Z` replaced by `a` to `z` and nothing else changed. -/
def lowerAscii (t : Text) : Text := t.map Char.toLower

/-- The column of the first character that is not blank, counted in characters. -/
def firstNonBlank? (t : Text) : Option Nat := t.findIdx? (fun c => !Character.isBlank c)

/-! ## Byte positions -/

/-- The number of bytes of the UTF-8 form. -/
def byteLength : Text → Nat
  | [] => 0
  | c :: t => c.utf8Size + byteLength t

@[simp] theorem byteLength_nil : byteLength [] = 0 := rfl

@[simp] theorem byteLength_cons (c : Char) (t : Text) :
    byteLength (c :: t) = c.utf8Size + byteLength t := rfl

@[simp] theorem byteLength_append (s t : Text) :
    byteLength (s ++ t) = byteLength s + byteLength t := by
  induction s with
  | nil => simp
  | cons c s ih => simp [ih, Nat.add_assoc]

/-- Splits a text after `n` bytes; `none` when byte `n` lies inside a character
or past the end. -/
def splitAtByte? : Nat → Text → Option (Text × Text)
  | 0, t => some ([], t)
  | _ + 1, [] => none
  | n + 1, c :: t =>
    if c.utf8Size ≤ n + 1 then
      (splitAtByte? (n + 1 - c.utf8Size) t).map fun (a, b) => (c :: a, b)
    else none

/-- The `size` bytes from byte `offset` on; `none` when either end is not the
boundary of a character. -/
def slice? (t : Text) (offset size : Nat) : Option Text := do
  let (_, rest) ← splitAtByte? offset t
  let (inside, _) ← splitAtByte? size rest
  return inside

theorem splitAtByte?_byteLength (s t : Text) :
    splitAtByte? (byteLength s) (s ++ t) = some (s, t) := by
  induction s with
  | nil => cases t <;> rfl
  | cons c s ih =>
    have hc : 0 < c.utf8Size := c.utf8Size_pos
    obtain ⟨m, hm⟩ : ∃ m, c.utf8Size + byteLength s = m + 1 := ⟨_, (Nat.succ_pred (by omega)).symm⟩
    have hle : c.utf8Size ≤ m + 1 := by omega
    have hsub : m + 1 - c.utf8Size = byteLength s := by omega
    simp [hm, splitAtByte?, hle, hsub, ih]

end Text

end TextIntake
