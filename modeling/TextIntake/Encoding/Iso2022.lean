import TextIntake.Encoding.SingleByte

set_option autoImplicit false

/-!
# ISO-2022-JP

Escape sequences switch between sets of characters: ASCII, the Roman set with a yen
sign and an overline in it, the half-width katakana, and the set of two-byte
characters.  The characters of the last set are not known here, so each pair of its
bytes counts as malformed.  Two escape sequences in a row are malformed too, and so
are the control characters that switch sets in other encodings.
-/

namespace TextIntake.Iso2022

/-- A set of characters. -/
inductive Plane where
  | ascii
  | roman
  | katakana
  | pairs
  deriving DecidableEq, Repr, Inhabited

/-- Where in a sequence the decoder stands. -/
inductive Mode where
  | start
  /-- behind the first byte of a pair -/
  | second
  /-- behind an escape character -/
  | escape
  /-- behind an escape character and one byte more -/
  | escapeWith (lead : UInt8)
  deriving DecidableEq, Repr, Inhabited

/-- A decoder between two bytes. -/
structure State where
  plane : Plane := .ascii
  mode : Mode := .start
  /-- nothing stands between here and the last escape sequence -/
  switched : Bool := false
  deriving DecidableEq, Repr, Inhabited

/-- The escape character. -/
def escapeByte : UInt8 := 0x1B

/-- A control character that has no place in this encoding. -/
def isShift (b : UInt8) : Bool := b == 0x0E || b == 0x0F || b == escapeByte

/-- The set that an escape sequence switches to. -/
def planeOf? (lead b : UInt8) : Option Plane :=
  if lead = 0x28 then
    if b = 0x42 then some .ascii
    else if b = 0x4A then some .roman
    else if b = 0x49 then some .katakana
    else none
  else if b = 0x40 ∨ b = 0x42 then some .pairs
  else none

/-- The character of a byte in a set of single bytes. -/
def single? (plane : Plane) (b : UInt8) : Option Char :=
  match plane with
  | .roman =>
    if b = 0x5C then some '\u00a5'
    else if b = 0x7E then some '\u203e'
    else single b
  | .katakana => if 0x21 ≤ b ∧ b ≤ 0x5F then some (Char.ofNat (0xFF40 + b.toNat)) else none
  | _ => single b
where
  /-- The character of an ASCII byte. -/
  single (b : UInt8) : Option Char :=
    if b < 0x80 ∧ !isShift b then some (Char.ofNat b.toNat) else none

/-- Reads a byte at the start of a sequence. -/
def atStart (s : State) (b : UInt8) : Decoded × State :=
  if b = escapeByte then ([], { s with mode := .escape })
  else
    let s := { s with mode := .start, switched := false }
    if s.plane = .pairs then
      if 0x21 ≤ b ∧ b ≤ 0x7E then ([], { s with mode := .second }) else ([none], s)
    else ([single? s.plane b], s)

/-- Reads the second byte of a pair. -/
def atSecond (s : State) (b : UInt8) : Decoded × State :=
  ([none], { s with mode := if b = escapeByte then .escape else .start })

/-- Reads a byte.  What turns out not to be an escape sequence is read again without
its escape character. -/
def step (s : State) (b : UInt8) : Decoded × State :=
  let back := { s with mode := .start, switched := false }
  match s.mode with
  | .start => atStart s b
  | .second => atSecond s b
  | .escape =>
    if b = 0x24 ∨ b = 0x28 then ([], { s with mode := .escapeWith b })
    else
      let (out, s) := atStart back b
      (none :: out, s)
  | .escapeWith lead =>
    match planeOf? lead b with
    | some plane => (if s.switched then [none] else [], { plane, switched := true })
    | none =>
      let (out, s) := atStart back lead
      let (more, s) := if s.mode = .second then atSecond s b else atStart s b
      (none :: (out ++ more), s)

/-- What a sequence that is cut off decodes to. -/
def finish (s : State) : Decoded :=
  match s.mode with
  | .start => []
  | .second | .escape => [none]
  | .escapeWith lead =>
    none :: (if s.plane = .pairs then [none] else [single? s.plane lead])

/-- Decodes from a state on. -/
def decodeFrom (s : State) : Bytes → Decoded
  | [] => finish s
  | b :: bs =>
    let (out, s) := step s b
    out ++ decodeFrom s bs

/-- Decodes a byte string. -/
def decode (bs : Bytes) : Decoded := decodeFrom {} bs

/-- Encodes from the ASCII or the Roman set on, and switches back at the end. -/
def encodeFrom (roman : Bool) : Text → Bytes
  | [] => if roman then toAscii else []
  | c :: t =>
    if c = '\u00a5' ∨ c = '\u203e' then
      (if roman then [] else [escapeByte, 0x28, 0x4A]) ++
        (if c = '\u00a5' then 0x5C else 0x7E) :: encodeFrom true t
    else if 0x80 ≤ c.toNat then characterReference c ++ encodeFrom roman t
    else
      let b := UInt8.ofNat c.toNat
      if isShift b then characterReference Character.replacement ++ encodeFrom roman t
      else if roman ∧ (b = 0x5C ∨ b = 0x7E) then toAscii ++ b :: encodeFrom false t
      else b :: encodeFrom roman t
where
  /-- The escape sequence that switches to ASCII. -/
  toAscii : Bytes := [escapeByte, 0x28, 0x42]

/-- Encodes a text, with references for what is neither ASCII nor in the Roman set. -/
def encode (t : Text) : Bytes := encodeFrom false t

end TextIntake.Iso2022
