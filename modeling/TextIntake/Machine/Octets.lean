import TextIntake.Encoding.SingleByte
import TextIntake.Encoding.Utf8
import TextIntake.File.Path

set_option autoImplicit false

/-!
# Octets

Programs know no encoding: to them every byte is a character of its own, with the
number of the byte.  A text of such characters is a text of octets.
-/

namespace TextIntake.Octets

/-- Bytes as characters. -/
def ofBytes (bs : Bytes) : Text := bs.map fun b => Char.ofNat b.toNat

/-- Characters back to bytes. -/
def toBytes (t : Text) : Bytes := t.map fun c => UInt8.ofNat c.toNat

/-- A text as it reaches a program. -/
def ofText (t : Text) : Text := ofBytes (Utf8.encode t)

/-- The path that octets name. -/
def path (t : Text) : Path := (Utf8.decode (toBytes t)).text

end TextIntake.Octets
