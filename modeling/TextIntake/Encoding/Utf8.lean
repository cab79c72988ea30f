import TextIntake.Encoding.Basic

set_option autoImplicit false

/-!
# UTF-8

`encode` writes the one UTF-8 form of a text.  `decode` accepts exactly these
forms; of anything else it gives up the longest start of a character that the
bytes still allow, as one malformed sequence, and goes on behind it.
-/

namespace TextIntake.Utf8

/-- The bytes of the marker U+FEFF. -/
def marker : Bytes := [0xEF, 0xBB, 0xBF]

/-- The UTF-8 form of one character. -/
def encodeChar (c : Char) : Bytes :=
  let n := c.toNat
  if n < 0x80 then [UInt8.ofNat n]
  else if n < 0x800 then [UInt8.ofNat (0xC0 + n / 0x40), UInt8.ofNat (0x80 + n % 0x40)]
  else if n < 0x10000 then
    [UInt8.ofNat (0xE0 + n / 0x1000), UInt8.ofNat (0x80 + n / 0x40 % 0x40),
      UInt8.ofNat (0x80 + n % 0x40)]
  else
    [UInt8.ofNat (0xF0 + n / 0x40000), UInt8.ofNat (0x80 + n / 0x1000 % 0x40),
      UInt8.ofNat (0x80 + n / 0x40 % 0x40), UInt8.ofNat (0x80 + n % 0x40)]

/-- The UTF-8 form of a text. -/
def encode (t : Text) : Bytes := t.flatMap encodeChar

/-- The number of bytes of the character that `b` starts; 0 when `b` starts none. -/
def width (b : UInt8) : Nat :=
  if b < 0x80 then 1
  else if b < 0xC2 then 0
  else if b < 0xE0 then 2
  else if b < 0xF0 then 3
  else if b < 0xF5 then 4
  else 0

/-- Any byte that continues a character. -/
def isContinuation (b : UInt8) : Bool := 0x80 ≤ b && b < 0xC0

/-- The bytes that may follow the first byte `lead` of a character.  The narrower
ranges keep out longer forms than needed, surrogates and code points beyond
U+10FFFF. -/
def follows (lead b : UInt8) : Bool :=
  if lead = 0xE0 then 0xA0 ≤ b && b < 0xC0
  else if lead = 0xED then 0x80 ≤ b && b < 0xA0
  else if lead = 0xF0 then 0x90 ≤ b && b < 0xC0
  else if lead = 0xF4 then 0x80 ≤ b && b < 0x90
  else isContinuation b

/-- The low six bits of a continuation byte. -/
def payload (b : UInt8) : Nat := b.toNat - 0x80

/-- Decodes from the first byte to the last. -/
def decode : Bytes → Decoded
  | [] => []
  | b :: t =>
    match width b with
    | 1 => some (Char.ofNat b.toNat) :: decode t
    | 2 =>
      match t with
      | [] => [none]
      | c :: t₁ =>
        if follows b c then
          some (Char.ofNat ((b.toNat - 0xC0) * 0x40 + payload c)) :: decode t₁
        else none :: decode (c :: t₁)
    | 3 =>
      match t with
      | [] => [none]
      | c :: t₁ =>
        if follows b c then
          match t₁ with
          | [] => [none]
          | d :: t₂ =>
            if isContinuation d then
              some (Char.ofNat ((b.toNat - 0xE0) * 0x1000 + payload c * 0x40 + payload d)) ::
                decode t₂
            else none :: decode (d :: t₂)
        else none :: decode (c :: t₁)
    | 4 =>
      match t with
      | [] => [none]
      | c :: t₁ =>
        if follows b c then
          match t₁ with
          | [] => [none]
          | d :: t₂ =>
            if isContinuation d then
              match t₂ with
              | [] => [none]
              | e :: t₃ =>
                if isContinuation e then
                  some (Char.ofNat ((b.toNat - 0xF0) * 0x40000 + payload c * 0x1000 +
                    payload d * 0x40 + payload e)) :: decode t₃
                else none :: decode (e :: t₃)
            else none :: decode (d :: t₂)
        else none :: decode (c :: t₁)
    | _ => none :: decode t

/-- The text of a byte string that is UTF-8 throughout. -/
def decode? (bs : Bytes) : Option Text := (decode bs).mapM id

end TextIntake.Utf8
