import TextIntake.Encoding.Iso2022
import TextIntake.Encoding.SingleByte
import TextIntake.Encoding.Utf8
import TextIntake.Encoding.Utf16

set_option autoImplicit false

/-!
# Decoding and encoding

One pair of functions for all encodings.  Decoding never looks for a marker:
U+FEFF at the start is a character like any other.  Encoding puts a marker in
front only for UTF-8 with a marker.

The tables of the legacy encodings are not complete.  Those with several bytes for a
character (GBK, gb18030, Big5, EUC-JP, EUC-KR, and the pairs of Shift_JIS and
ISO-2022-JP) and the single-byte ones without a table here are read and written as
ASCII only.
-/

namespace TextIntake

namespace Legacy

/-- The table of a single-byte encoding that has one here. -/
def table? : Legacy → Option SingleByte.Table
  | ibm866 => some SingleByte.ibm866
  | iso8859_2 => some SingleByte.iso8859_2
  | iso8859_5 => some SingleByte.iso8859_5
  | iso8859_7 => some SingleByte.iso8859_7
  | iso8859_15 => some SingleByte.iso8859_15
  | koi8r => some SingleByte.koi8r
  | macintosh => some SingleByte.macintosh
  | windows1250 => some SingleByte.windows1250
  | windows1251 => some SingleByte.windows1251
  | windows1252 => some SingleByte.windows1252
  | windows1253 => some SingleByte.windows1253
  | userDefined => some SingleByte.userDefined
  | shiftJis => some shiftJisSingles
  | _ => none
where
  /-- The single bytes of Shift_JIS: U+0080 and the half-width katakana. -/
  shiftJisSingles : SingleByte.Table :=
    0x80 :: (List.replicate 0x20 0xFFFD ++ (List.range 63).map (0xFF61 + ·) ++
      List.replicate 0x20 0xFFFD)

/-- The table by which an encoding is read and written.  Without a table of its
own only the ASCII half is known: every other byte is malformed, and every other
character is written as a reference. -/
def table (codec : Legacy) : SingleByte.Table := codec.table?.getD []

end Legacy

namespace Encoding

/-- Decodes a byte string piece by piece.  Of a legacy encoding without a table only ASCII is
decoded; `Legacy.table?` lists those that have one. -/
def decode : Encoding → Bytes → Decoded
  | utf8 | utf8Marked => Utf8.decode
  | utf16le => Utf16.decode .little
  | utf16be => Utf16.decode .big
  | latin1 => Latin1.decode
  | legacy .iso2022Jp => Iso2022.decode
  | legacy codec => SingleByte.decode codec.table

/-- The text of a byte string. -/
def decodeText (e : Encoding) (bs : Bytes) : Text := (e.decode bs).text

/-- Encodes a text.  In a legacy encoding without a table only ASCII is encoded as such. -/
def encode : Encoding → Text → Bytes
  | utf8, t => Utf8.encode t
  | utf8Marked, t => Utf8.marker ++ Utf8.encode t
  | utf16le, t => Utf16.encode .little t
  | utf16be, t => Utf16.encode .big t
  | latin1, t => Latin1.encode t
  | legacy .iso2022Jp, t => Iso2022.encode t
  | legacy codec, t => SingleByte.encode codec.table t

end Encoding

end TextIntake
