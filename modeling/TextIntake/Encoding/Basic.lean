import TextIntake.Bytes
import TextIntake.Text.Basic

set_option autoImplicit false

/-!
# Text encodings

An encoding is one of the Unicode forms, Latin-1 as the plain map of bytes to
the first 256 code points, or a legacy encoding of the WHATWG Encoding Standard.
Every encoding has one name.  Two encodings are of one family when a marker
written for the one may be skipped while reading the other.
-/

namespace TextIntake

/-- The legacy encodings of the Encoding Standard. -/
inductive Legacy where
  | ibm866 | iso8859_2 | iso8859_3 | iso8859_4 | iso8859_5 | iso8859_6 | iso8859_7
  | iso8859_8 | iso8859_8i | iso8859_10 | iso8859_13 | iso8859_14 | iso8859_15 | iso8859_16
  | koi8r | koi8u | macintosh | windows874 | windows1250 | windows1251 | windows1252
  | windows1253 | windows1254 | windows1255 | windows1256 | windows1257 | windows1258
  | macCyrillic | gbk | gb18030 | big5 | eucJp | iso2022Jp | shiftJis | eucKr | userDefined
  deriving DecidableEq, Repr, Inhabited

namespace Legacy

/-- The name the Encoding Standard gives it. -/
def name : Legacy → String
  | ibm866 => "IBM866"
  | iso8859_2 => "ISO-8859-2"
  | iso8859_3 => "ISO-8859-3"
  | iso8859_4 => "ISO-8859-4"
  | iso8859_5 => "ISO-8859-5"
  | iso8859_6 => "ISO-8859-6"
  | iso8859_7 => "ISO-8859-7"
  | iso8859_8 => "ISO-8859-8"
  | iso8859_8i => "ISO-8859-8-I"
  | iso8859_10 => "ISO-8859-10"
  | iso8859_13 => "ISO-8859-13"
  | iso8859_14 => "ISO-8859-14"
  | iso8859_15 => "ISO-8859-15"
  | iso8859_16 => "ISO-8859-16"
  | koi8r => "KOI8-R"
  | koi8u => "KOI8-U"
  | macintosh => "macintosh"
  | windows874 => "windows-874"
  | windows1250 => "windows-1250"
  | windows1251 => "windows-1251"
  | windows1252 => "windows-1252"
  | windows1253 => "windows-1253"
  | windows1254 => "windows-1254"
  | windows1255 => "windows-1255"
  | windows1256 => "windows-1256"
  | windows1257 => "windows-1257"
  | windows1258 => "windows-1258"
  | macCyrillic => "x-mac-cyrillic"
  | gbk => "GBK"
  | gb18030 => "gb18030"
  | big5 => "Big5"
  | eucJp => "EUC-JP"
  | iso2022Jp => "ISO-2022-JP"
  | shiftJis => "Shift_JIS"
  | eucKr => "EUC-KR"
  | userDefined => "x-user-defined"

end Legacy

/-- A text encoding. -/
inductive Encoding where
  | utf8
  /-- UTF-8 that is written with its marker in front. -/
  | utf8Marked
  | utf16le
  | utf16be
  | latin1
  | legacy (codec : Legacy)
  deriving DecidableEq, Repr, Inhabited

namespace Encoding

/-- The name under which an encoding is reported. -/
def name : Encoding → String
  | utf8 => "UTF-8"
  | utf8Marked => "UTF-8-BOM"
  | utf16le => "UTF-16LE"
  | utf16be => "UTF-16BE"
  | latin1 => "ISO-8859-1"
  | legacy codec => codec.name

/-- A marker of the one encoding may be skipped while reading the other: the
encodings are the same, or both are forms of UTF-8. -/
def sameFamily (a b : Encoding) : Bool :=
  ((a == utf8 || a == utf8Marked) && (b == utf8 || b == utf8Marked)) || a == b

end Encoding

/-- What decoding a byte string yields, piece by piece: a character, or `none`
for a malformed sequence, which the text shows as U+FFFD. -/
abbrev Decoded := List (Option Char)

namespace Decoded

/-- The decoded text. -/
def text (d : Decoded) : Text := d.map (·.getD Character.replacement)

/-- Whether a malformed sequence was replaced. -/
def hasErrors (d : Decoded) : Bool := d.any Option.isNone

@[simp] theorem text_nil : text [] = [] := rfl

@[simp] theorem text_map_some (t : Text) : text (t.map some) = t := by
  simp [text, Function.comp_def]

@[simp] theorem hasErrors_map_some (t : Text) : hasErrors (t.map some) = false := by
  simp [hasErrors]

end Decoded

end TextIntake
