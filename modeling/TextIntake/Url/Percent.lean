import TextIntake.Encoding.Utf8

set_option autoImplicit false

/-!
# Percent-encoding

The parts of a URL differ in the ASCII characters that they cannot hold as they
are.  Those, the control characters and everything outside ASCII are written
byte by byte as `%` and two hexadecimal digits.
-/

namespace TextIntake.Percent

/-- The ASCII characters that a part of a URL cannot hold, besides the control
characters. -/
abbrev Reserved := List Char

/-- Nothing but the control characters. -/
def controls : Reserved := []

/-- What a fragment cannot hold. -/
def fragment : Reserved := [' ', '"', '<', '>', Char.ofNat 0x60]

/-- What a path cannot hold. -/
def path : Reserved := fragment ++ ['#', '?', '\x7b', '\x7d']

/-- What a user name or a password cannot hold. -/
def userInfo : Reserved := path ++ ['/', ':', ';', '=', '@', '[', '\\', ']', '^', '|']

/-- What a query cannot hold. -/
def query : Reserved := [' ', '"', '#', '<', '>']

/-- What a query of a special scheme cannot hold. -/
def specialQuery : Reserved := query ++ ['\'']

/-- The digit of a number below 16. -/
def digit (n : Nat) : Char := Char.ofNat (if n < 10 then 0x30 + n else 0x37 + n)

/-- The number of a hexadecimal digit in either case. -/
def digitValue? (c : Char) : Option Nat :=
  if '0' ≤ c ∧ c ≤ '9' then some (c.toNat - 0x30)
  else if 'A' ≤ c ∧ c ≤ 'F' then some (c.toNat - 0x37)
  else if 'a' ≤ c ∧ c ≤ 'f' then some (c.toNat - 0x57)
  else none

/-- One byte. -/
def encodeByte (b : UInt8) : Text := ['%', digit (b.toNat / 16), digit (b.toNat % 16)]

/-- One character. -/
def encodeChar (reserved : Reserved) (c : Char) : Text :=
  if c.toNat < 0x20 || 0x7F ≤ c.toNat || reserved.contains c then
    (Utf8.encodeChar c).flatMap encodeByte
  else [c]

/-- A text. -/
def encode (reserved : Reserved) (t : Text) : Text := t.flatMap (encodeChar reserved)

/-- The bytes of a text in which `%` and two hexadecimal digits stand for a byte.
Any other `%` stands for itself. -/
def decode : Text → Bytes
  | '%' :: a :: b :: t =>
    match digitValue? a, digitValue? b with
    | some hi, some lo => UInt8.ofNat (hi * 16 + lo) :: decode t
    | _, _ => 0x25 :: decode (a :: b :: t)
  | c :: t => Utf8.encodeChar c ++ decode t
  | [] => []

end TextIntake.Percent
