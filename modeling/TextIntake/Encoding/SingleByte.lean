import TextIntake.Encoding.Basic
import TextIntake.Encoding.Table

set_option autoImplicit false

/-!
# Single-byte encodings

Reading and writing by a table of the upper half.  What a table cannot hold is
written as a decimal character reference, such as `&#20013;`.
-/

namespace TextIntake

/-- The decimal character reference of `c`. -/
def characterReference (c : Char) : Bytes := Bytes.ofAscii s!"&#{c.toNat};"

namespace SingleByte

/-- The character of a byte. -/
def decodeByte (table : Table) (b : UInt8) : Option Char :=
  if b < 0x80 then some (Char.ofNat b.toNat)
  else
    match table[b.toNat - 0x80]? with
    | some n => if n = 0xFFFD then none else some (Char.ofNat n)
    | none => none

/-- The byte of a character. -/
def encodeChar? (table : Table) (c : Char) : Option UInt8 :=
  if c.toNat < 0x80 then some (UInt8.ofNat c.toNat)
  else if c = Character.replacement then none
  else (table.idxOf? c.toNat).map fun i => UInt8.ofNat (0x80 + i)

/-- Decodes byte by byte. -/
def decode (table : Table) (bs : Bytes) : Decoded := bs.map (decodeByte table)

/-- Encodes character by character, with references for what the table lacks. -/
def encode (table : Table) (t : Text) : Bytes :=
  t.flatMap fun c =>
    match encodeChar? table c with
    | some b => [b]
    | none => characterReference c

end SingleByte

namespace Latin1

/-- Every byte is the character of its number. -/
def decode (bs : Bytes) : Decoded := bs.map fun b => some (Char.ofNat b.toNat)

/-- A character beyond U+00FF is written as `?`. -/
def encode (t : Text) : Bytes :=
  t.map fun c => if c.toNat < 0x100 then UInt8.ofNat c.toNat else 0x3F

end Latin1

end TextIntake
