import TextIntake.Number.Rounding
import TextIntake.Text.Basic

set_option autoImplicit false

/-!
# Floating numbers in writing

A floating number is a sign with a binary number, or infinite, or no number at all.
This module reads one from the start of a text, in decimal or hexadecimal digits, and
writes one with a number of places, with an exponent, or in whichever of the two ways
is shorter.
-/

namespace TextIntake

/-- A floating number. -/
inductive Floating where
  | finite (negative : Bool) (size : Binary)
  | infinite (negative : Bool)
  | nan (negative : Bool)
  deriving DecidableEq, Repr, Inhabited

namespace Floating

/-- Whether the number has a minus in front. -/
def isNegative : Floating → Bool
  | finite negative _ | infinite negative | nan negative => negative

/-! ## Reading -/

/-- A number that was read. -/
structure Reading where
  value : Floating
  /-- what stands behind the number -/
  rest : Text
  /-- whether the number is too large or too small for its format -/
  outOfRange : Bool := false
  deriving DecidableEq, Repr, Inhabited

/-- The value of a digit in any base up to 16. -/
def digit? (base : Nat) (c : Char) : Option Nat :=
  let n :=
    if Character.isDecimalDigit c then c.toNat - 0x30
    else if 'a' ≤ c ∧ c ≤ 'f' then c.toNat - 0x61 + 10
    else if 'A' ≤ c ∧ c ≤ 'F' then c.toNat - 0x41 + 10
    else 16
  if n < base then some n else none

/-- Whether a character is a digit. -/
def isDigit (base : Nat) (c : Char) : Bool := (digit? base c).isSome

/-- The number that digits write. -/
def ofDigits (base : Nat) (t : Text) : Nat :=
  t.foldl (fun n c => n * base + (digit? base c).getD 0) 0

/-- Digits around a point: those in front, those behind, and the rest. -/
def digits (base : Nat) (t : Text) : Text × Text × Text :=
  let whole := t.takeWhile (isDigit base)
  match t.drop whole.length with
  | '.' :: t =>
    let part := t.takeWhile (isDigit base)
    if whole = [] ∧ part = [] then ([], [], '.' :: t) else (whole, part, t.drop part.length)
  | t => (whole, [], t)

/-- An exponent behind one of the letters `marks`, and the rest.  Without digits there is
none. -/
def exponent (marks : Text) (t : Text) : Int × Text :=
  match t with
  | c :: behind =>
    let (negative, number) :=
      match behind with
      | '-' :: number => (true, number)
      | '+' :: number => (false, number)
      | number => (false, number)
    let ds := number.takeWhile Character.isDecimalDigit
    if marks.contains c ∧ ds ≠ [] then
      let n : Int := ofDigits 10 ds
      (if negative then -n else n, number.drop ds.length)
    else (0, t)
  | [] => (0, [])

/-- The number `significand * base ^ power` in a format. -/
def scaled (f : BinaryFormat) (negative : Bool) (significand base : Nat) (power : Int)
    (rest : Text) : Reading :=
  let bound : Int := 4 * (f.limit + f.precision)
  let size : Int := bitLength significand
  if significand = 0 then { value := finite negative ⟨0, 0⟩, rest }
  else if bound < power then { value := infinite negative, rest, outOfRange := true }
  else if power < -(bound + size) then
    { value := finite negative ⟨0, 0⟩, rest, outOfRange := true }
  else
    let factor := Nat.pow base power.natAbs
    let (n, d) := if 0 ≤ power then (significand * factor, 1) else (significand, factor)
    match f.round? n d with
    | none => { value := infinite negative, rest, outOfRange := true }
    | some x =>
      let (a, b) := x.fraction
      let isSmall := x.mantissa < Nat.pow 2 (f.precision - 1) ∧ x.exponent ≤ f.least
      let isExact := a * d == n * b
      { value := finite negative x, rest, outOfRange := isSmall && !isExact }

/-- Whether a text starts with a word, whatever the case of its letters. -/
def startsWith (word : String) (t : Text) : Bool :=
  (t.take word.length).map Char.toLower == word.toList

/-- Reads a number behind its sign. -/
def readUnsigned? (f : BinaryFormat) (negative : Bool) (t : Text) : Option Reading :=
  let decimal : Option Reading :=
    let (whole, part, rest) := digits 10 t
    if whole = [] ∧ part = [] then none
    else
      let (e, rest) := exponent ['e', 'E'] rest
      some (scaled f negative (ofDigits 10 (whole ++ part)) 10 (e - part.length) rest)
  if startsWith "infinity" t then some { value := infinite negative, rest := t.drop 8 }
  else if startsWith "inf" t then some { value := infinite negative, rest := t.drop 3 }
  else if startsWith "nan" t then
    let behind := t.drop 3
    let inside := (behind.drop 1).takeWhile fun c => c.isAlphanum || c == '_'
    let rest :=
      if behind.head? = some '(' ∧ (behind.drop (inside.length + 1)).head? = some ')' then
        behind.drop (inside.length + 2)
      else behind
    some { value := nan negative, rest }
  else if startsWith "0x" t then
    let (whole, part, rest) := digits 16 (t.drop 2)
    if whole = [] ∧ part = [] then decimal
    else
      let (e, rest) := exponent ['p', 'P'] rest
      some (scaled f negative (ofDigits 16 (whole ++ part)) 2 (e - 4 * part.length) rest)
  else decimal

/-- Reads a number from the start of a text, behind blanks and with a sign. -/
def read? (f : BinaryFormat) (t : Text) : Option Reading :=
  let t := t.dropWhile fun c => c == ' ' || ('\t' ≤ c && c ≤ '\r')
  match t with
  | '-' :: t => readUnsigned? f true t
  | '+' :: t => readUnsigned? f false t
  | t => readUnsigned? f false t

/-! ## Writing -/

/-- How a number is written. -/
structure Style where
  precision : Option Nat := none
  /-- keep a point and zeros that could be left out -/
  alternate : Bool := false
  deriving DecidableEq, Repr, Inhabited

/-- The digits of a number in base ten, at least so many. -/
def padded (width n : Nat) : Text :=
  let ds := Nat.toDigits 10 n
  List.replicate (width - ds.length) '0' ++ ds

/-- Puts a point in front of the last so many digits. -/
def withPoint (places : Nat) (alternate : Bool) (ds : Text) : Text :=
  let whole := ds.take (ds.length - places)
  let part := ds.drop (ds.length - places)
  if places = 0 then (if alternate then whole ++ ['.'] else whole) else whole ++ '.' :: part

/-- A size with a number of places. -/
def fixed (x : Binary) (places : Nat) (alternate : Bool) : Text :=
  let (n, d) := x.fraction
  withPoint places alternate (padded (places + 1) (roundDiv (n * Nat.pow 10 places) d))

/-- The quotient times a power of ten, rounded. -/
def scaledRound (n d : Nat) (power : Int) : Nat :=
  let factor := Nat.pow 10 power.natAbs
  if 0 ≤ power then roundDiv (n * factor) d else roundDiv n (d * factor)

/-- The power of ten that a size reaches, and as many digits as asked for behind the first,
rounded. -/
def decimalDigits (x : Binary) (places : Nat) : Int × Nat :=
  let (n, d) := x.fraction
  if n = 0 then (0, 0)
  else
    let length (k : Nat) : Int := (Nat.toDigits 10 k).length
    let guess := length n - length d
    let reaches (e : Int) : Bool :=
      if 0 ≤ e then d * Nat.pow 10 e.natAbs ≤ n else d ≤ n * Nat.pow 10 e.natAbs
    let e := if reaches guess then guess else guess - 1
    let ds := scaledRound n d (places - e)
    if Nat.pow 10 (places + 1) ≤ ds then (e + 1, scaledRound n d (places - (e + 1))) else (e, ds)

/-- An exponent with its sign and at least two digits. -/
def exponentText (mark : Char) (e : Int) : Text :=
  mark :: (if e < 0 then '-' else '+') :: padded 2 e.natAbs

/-- A size with an exponent and a number of places. -/
def scientific (x : Binary) (places : Nat) (alternate : Bool) : Text :=
  let (e, ds) := decimalDigits x places
  withPoint places alternate (padded (places + 1) ds) ++ exponentText 'e' e

/-- Leaves out the zeros at the end of the places, and a point without places. -/
def trimmed (t : Text) : Text :=
  let mantissa := t.takeWhile (· ≠ 'e')
  let rest := t.drop mantissa.length
  if mantissa.contains '.' then
    let kept := mantissa.reverse.dropWhile (· == '0')
    ((if kept.head? = some '.' then kept.drop 1 else kept).reverse) ++ rest
  else t

/-- A size with a number of digits, in whichever way is shorter. -/
def general (x : Binary) (precision : Nat) (alternate : Bool) : Text :=
  let p := max precision 1
  let (e, _) := decimalDigits x (p - 1)
  let t :=
    if -4 ≤ e ∧ e < p then fixed x (p - 1 - e).toNat alternate
    else scientific x (p - 1) alternate
  if alternate then t else trimmed t

/-- A size in hexadecimal digits with a power of two.  The first digit holds the leading
bits of the format that do not fill four. -/
def hexadecimal (f : BinaryFormat) (x : Binary) (s : Style) : Text :=
  let leading := if f.precision % 4 = 0 then 4 else f.precision % 4
  let places := (f.precision - leading) / 4
  let least := f.least + 4 * places
  let shift := f.precision - bitLength x.mantissa
  let exponent := x.exponent - shift + 4 * places
  let (m, e) : Nat × Int :=
    if x.mantissa = 0 then (0, 0)
    else if exponent < least then
      (x.mantissa * Nat.pow 2 (x.exponent - f.least).toNat, least)
    else (x.mantissa * Nat.pow 2 shift, exponent)
  let (kept, m) :=
    match s.precision with
    | some p => if p < places then (p, roundDiv m (Nat.pow 16 (places - p))) else (p, m)
    | none => (places, m)
  let (m, e) : Nat × Int :=
    if Nat.pow 16 (min kept places + 1) ≤ m then (m / 16, e + 4) else (m, e)
  let ds := (Nat.toDigits 16 m)
  let ds := List.replicate (min kept places + 1 - ds.length) '0' ++ ds
  let ds := ds ++ List.replicate (kept - places) '0'
  let t := withPoint kept s.alternate ds
  let t :=
    if s.precision.isSome then t
    else
      let short := (t.reverse.dropWhile (· == '0')).reverse
      if !t.contains '.' then t
      else if short.getLast? = some '.' ∧ !s.alternate then short.dropLast else short
  '0' :: 'x' :: t ++ 'p' :: (if e < 0 then '-' else '+') :: padded 1 e.natAbs

/-- A number without its sign, written by the lower-case letter of a conversion. -/
def unsigned (f : BinaryFormat) (letter : Char) (s : Style) : Floating → Text
  | infinite _ => "inf".toList
  | nan _ => "nan".toList
  | finite _ x =>
    let places := s.precision.getD 6
    if letter = 'f' then fixed x places s.alternate
    else if letter = 'e' then scientific x places s.alternate
    else if letter = 'g' then general x places s.alternate
    else hexadecimal f x s

end Floating

end TextIntake
