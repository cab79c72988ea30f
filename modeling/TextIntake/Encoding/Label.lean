import TextIntake.Encoding.Basic

set_option autoImplicit false

/-!
# Encoding labels

Documents and users name an encoding by a label.  Blanks around a label and the
case of its ASCII letters do not count.  Beside the labels of the Encoding
Standard there are labels for UTF-8 with a marker and for Latin-1; labels that
the standard maps to its "replacement" encoding name nothing here.
-/

namespace TextIntake.Encoding

/-- The labels that go beyond the Encoding Standard, or override it. -/
def ownLabels : List (Encoding × List String) := [
  (utf8Marked, ["utf-8-bom", "utf8-bom"]),
  (latin1, ["iso-8859-1", "iso8859-1", "iso_8859-1", "latin1", "latin-1", "l1"])]

/-- The labels of the Encoding Standard. -/
def standardLabels : List (Encoding × List String) := [
  (utf8, ["unicode-1-1-utf-8", "unicode11utf8", "unicode20utf8", "utf-8", "utf8",
    "x-unicode20utf8"]),
  (legacy .ibm866, ["866", "cp866", "csibm866", "ibm866"]),
  (legacy .iso8859_2, ["csisolatin2", "iso-8859-2", "iso-ir-101", "iso8859-2", "iso88592",
    "iso_8859-2", "iso_8859-2:1987", "l2", "latin2"]),
  (legacy .iso8859_3, ["csisolatin3", "iso-8859-3", "iso-ir-109", "iso8859-3", "iso88593",
    "iso_8859-3", "iso_8859-3:1988", "l3", "latin3"]),
  (legacy .iso8859_4, ["csisolatin4", "iso-8859-4", "iso-ir-110", "iso8859-4", "iso88594",
    "iso_8859-4", "iso_8859-4:1988", "l4", "latin4"]),
  (legacy .iso8859_5, ["csisolatincyrillic", "cyrillic", "iso-8859-5", "iso-ir-144",
    "iso8859-5", "iso88595", "iso_8859-5", "iso_8859-5:1988"]),
  (legacy .iso8859_6, ["arabic", "asmo-708", "csiso88596e", "csiso88596i", "csisolatinarabic",
    "ecma-114", "iso-8859-6", "iso-8859-6-e", "iso-8859-6-i", "iso-ir-127", "iso8859-6",
    "iso88596", "iso_8859-6", "iso_8859-6:1987"]),
  (legacy .iso8859_7, ["csisolatingreek", "ecma-118", "elot_928", "greek", "greek8",
    "iso-8859-7", "iso-ir-126", "iso8859-7", "iso88597", "iso_8859-7", "iso_8859-7:1987",
    "sun_eu_greek"]),
  (legacy .iso8859_8, ["csiso88598e", "csisolatinhebrew", "hebrew", "iso-8859-8",
    "iso-8859-8-e", "iso-ir-138", "iso8859-8", "iso88598", "iso_8859-8", "iso_8859-8:1988",
    "visual"]),
  (legacy .iso8859_8i, ["csiso88598i", "iso-8859-8-i", "logical"]),
  (legacy .iso8859_10, ["csisolatin6", "iso-8859-10", "iso-ir-157", "iso8859-10",
    "iso885910", "l6", "latin6"]),
  (legacy .iso8859_13, ["iso-8859-13", "iso8859-13", "iso885913"]),
  (legacy .iso8859_14, ["iso-8859-14", "iso8859-14", "iso885914"]),
  (legacy .iso8859_15, ["csisolatin9", "iso-8859-15", "iso8859-15", "iso885915",
    "iso_8859-15", "l9"]),
  (legacy .iso8859_16, ["iso-8859-16"]),
  (legacy .koi8r, ["cskoi8r", "koi", "koi8", "koi8-r", "koi8_r"]),
  (legacy .koi8u, ["koi8-ru", "koi8-u"]),
  (legacy .macintosh, ["csmacintosh", "mac", "macintosh", "x-mac-roman"]),
  (legacy .windows874, ["dos-874", "iso-8859-11", "iso8859-11", "iso885911", "tis-620",
    "windows-874"]),
  (legacy .windows1250, ["cp1250", "windows-1250", "x-cp1250"]),
  (legacy .windows1251, ["cp1251", "windows-1251", "x-cp1251"]),
  (legacy .windows1252, ["ansi_x3.4-1968", "ascii", "cp1252", "cp819", "csisolatin1",
    "ibm819", "iso-ir-100", "iso88591", "iso_8859-1:1987", "us-ascii", "windows-1252",
    "x-cp1252"]),
  (legacy .windows1253, ["cp1253", "windows-1253", "x-cp1253"]),
  (legacy .windows1254, ["cp1254", "csisolatin5", "iso-8859-9", "iso-ir-148", "iso8859-9",
    "iso88599", "iso_8859-9", "iso_8859-9:1989", "l5", "latin5", "windows-1254", "x-cp1254"]),
  (legacy .windows1255, ["cp1255", "windows-1255", "x-cp1255"]),
  (legacy .windows1256, ["cp1256", "windows-1256", "x-cp1256"]),
  (legacy .windows1257, ["cp1257", "windows-1257", "x-cp1257"]),
  (legacy .windows1258, ["cp1258", "windows-1258", "x-cp1258"]),
  (legacy .macCyrillic, ["x-mac-cyrillic", "x-mac-ukrainian"]),
  (legacy .gbk, ["chinese", "csgb2312", "csiso58gb231280", "gb2312", "gb_2312",
    "gb_2312-80", "gbk", "iso-ir-58", "x-gbk"]),
  (legacy .gb18030, ["gb18030"]),
  (legacy .big5, ["big5", "big5-hkscs", "cn-big5", "csbig5", "x-x-big5"]),
  (legacy .eucJp, ["cseucpkdfmtjapanese", "euc-jp", "x-euc-jp"]),
  (legacy .iso2022Jp, ["csiso2022jp", "iso-2022-jp"]),
  (legacy .shiftJis, ["csshiftjis", "ms932", "ms_kanji", "shift-jis", "shift_jis", "sjis",
    "windows-31j", "x-sjis"]),
  (legacy .eucKr, ["cseuckr", "csksc56011987", "euc-kr", "iso-ir-149", "korean",
    "ks_c_5601-1987", "ks_c_5601-1989", "ksc5601", "ksc_5601", "windows-949"]),
  (utf16be, ["unicodefffe", "utf-16be"]),
  (utf16le, ["csunicode", "iso-10646-ucs-2", "ucs-2", "unicode", "unicodefeff", "utf-16",
    "utf-16le"]),
  (legacy .userDefined, ["x-user-defined"])]

/-- The form in which labels are compared. -/
def labelKey (label : Text) : String := String.ofList (Text.lowerAscii (Text.trim label))

/-- The encoding that a label names. -/
def ofLabel? (label : Text) : Option Encoding :=
  ((ownLabels ++ standardLabels).find? fun (_, labels) => labels.contains (labelKey label)).map
    Prod.fst

end TextIntake.Encoding
