import TextIntake.Encoding.Basic

set_option autoImplicit false

/-!
# UTF-16

A character is one 16-bit unit or a pair of surrogates, and a unit is two bytes
in either order.  A surrogate without its partner is one malformed sequence, and
so is what is left when the bytes end inside a character.
-/

namespace TextIntake.Utf16

/-- The order of the two bytes of a unit. -/
inductive ByteOrder where
  | little
  | big
  deriving DecidableEq, Repr, Inhabited

namespace ByteOrder

/-- The unit made of two bytes. -/
def unit (order : ByteOrder) (a b : UInt8) : Nat :=
  match order with
  | little => a.toNat + b.toNat * 0x100
  | big => a.toNat * 0x100 + b.toNat

/-- The two bytes of a unit. -/
def bytes (order : ByteOrder) (unit : Nat) : Bytes :=
  match order with
  | little => [UInt8.ofNat (unit % 0x100), UInt8.ofNat (unit / 0x100)]
  | big => [UInt8.ofNat (unit / 0x100), UInt8.ofNat (unit % 0x100)]

/-- The marker U+FEFF. -/
def marker (order : ByteOrder) : Bytes := order.bytes 0xFEFF

end ByteOrder

/-- The first unit of a pair. -/
def isHigh (unit : Nat) : Bool := 0xD800 ≤ unit && unit < 0xDC00

/-- The second unit of a pair. -/
def isLow (unit : Nat) : Bool := 0xDC00 ≤ unit && unit < 0xE000

/-- The units of one character. -/
def units (c : Char) : List Nat :=
  let n := c.toNat
  if n < 0x10000 then [n]
  else [0xD800 + (n - 0x10000) / 0x400, 0xDC00 + (n - 0x10000) % 0x400]

/-- The UTF-16 form of a text, without a marker. -/
def encode (order : ByteOrder) (t : Text) : Bytes := (t.flatMap units).flatMap order.bytes

/-- Decodes from the first byte to the last. -/
def decode (order : ByteOrder) : Bytes → Decoded
  | [] => []
  | [_] => [none]
  | a :: b :: t =>
    let u := order.unit a b
    if isHigh u then
      match t with
      | c :: d :: t₁ =>
        let v := order.unit c d
        if isLow v then
          some (Char.ofNat (0x10000 + (u - 0xD800) * 0x400 + (v - 0xDC00))) :: decode order t₁
        else none :: decode order (c :: d :: t₁)
      | _ => [none]
    else if isLow u then none :: decode order t
    else some (Char.ofNat u) :: decode order t

end TextIntake.Utf16
