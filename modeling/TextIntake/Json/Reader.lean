import TextIntake.Number.Rounding
import TextIntake.Text.Basic

set_option autoImplicit false

/-!
# Reading JSON

A value is read straight into what is expected of it, from the first character
on, so the first thing that goes wrong decides the fault: the text is not JSON,
it ends too early, or a value is not of the kind expected.  Values that nobody
expects are skipped; of those only the form is checked.
-/

namespace TextIntake.Json

/-- Why a text could not be read. -/
inductive Fault where
  /-- the text is not JSON -/
  | malformed
  /-- the text ends inside a value -/
  | truncated
  /-- a value is of another kind than expected -/
  | unsuitable
  /-- a value is of the expected kind, but means nothing -/
  | meaningless (message : String)
  deriving DecidableEq, Repr, Inhabited

/-- The wording of a fault. -/
def Fault.message : Fault → String
  | malformed => "the text is not JSON"
  | truncated => "the text ends inside a value"
  | unsuitable => "a value is of another kind than expected"
  | meaningless message => message

/-- A step reads a value from the start of a text and returns what is left. -/
abbrev Step (α : Type) : Type := Text → Except Fault (α × Text)

/-! ## Blanks and words -/

/-- The blanks of JSON. -/
def isBlank (c : Char) : Bool := c == ' ' || c == '\t' || c == '\n' || c == '\r'

/-- Drops the blanks at the start. -/
def dropBlanks (t : Text) : Text := t.dropWhile isBlank

/-- Reads the rest of a word. -/
def restOfWord : Text → Text → Except Fault Text
  | [], t => .ok t
  | _ :: _, [] => .error .truncated
  | a :: word, c :: t => if a = c then restOfWord word t else .error .malformed

/-- The words of JSON behind their first letters. -/
def wordFrom? (c : Char) : Option Text :=
  if c = 'n' then some "ull".toList
  else if c = 't' then some "rue".toList
  else if c = 'f' then some "alse".toList
  else none

/-! ## Strings -/

/-- Where the reader of a string stands. -/
inductive Mode where
  | plain
  /-- behind a backslash -/
  | escape
  /-- inside a numeric escape: digits to come, and their value so far; `first` is
  the first half of a pair of surrogates in front of it -/
  | hex (left value : Nat) (first : Option Nat)
  /-- behind the first half of a pair of surrogates -/
  | half (first : Nat)
  /-- behind a backslash there -/
  | halfEscape (first : Nat)
  deriving DecidableEq, Repr, Inhabited

/-- The value of a hexadecimal digit. -/
def hexValue? (c : Char) : Option Nat :=
  if '0' ≤ c ∧ c ≤ '9' then some (c.toNat - 0x30)
  else if 'a' ≤ c ∧ c ≤ 'f' then some (c.toNat - 0x61 + 10)
  else if 'A' ≤ c ∧ c ≤ 'F' then some (c.toNat - 0x41 + 10)
  else none

/-- The character that a letter behind a backslash stands for. -/
def escaped? (c : Char) : Option Char :=
  if c = '"' ∨ c = '\\' ∨ c = '/' then some c
  else if c = 'b' then some (Char.ofNat 8)
  else if c = 'f' then some (Char.ofNat 12)
  else if c = 'n' then some '\n'
  else if c = 'r' then some '\r'
  else if c = 't' then some '\t'
  else none

/-- The first half of a pair of surrogates. -/
def isFirstHalf (n : Nat) : Bool := 0xD800 ≤ n && n < 0xDC00

/-- The second half of a pair of surrogates. -/
def isSecondHalf (n : Nat) : Bool := 0xDC00 ≤ n && n < 0xE000

/-- What comes of a complete numeric escape. -/
inductive Unit16 where
  | char (c : Char)
  | firstHalf (n : Nat)
  | wrong
  deriving DecidableEq, Repr, Inhabited

/-- The meaning of a numeric escape.  Unchecked, surrogates may stand alone. -/
def unit16 (checked : Bool) (first : Option Nat) (n : Nat) : Unit16 :=
  if !checked then .char (Char.ofNat n)
  else
    match first with
    | some m =>
      if isSecondHalf n then .char (Char.ofNat (0x10000 + (m - 0xD800) * 0x400 + (n - 0xDC00)))
      else .wrong
    | none =>
      if isSecondHalf n then .wrong
      else if isFirstHalf n then .firstHalf n
      else .char (Char.ofNat n)

/-- One more character in front of a string that was read. -/
def cons (c : Char) (r : Except Fault (Text × Text)) : Except Fault (Text × Text) :=
  r.map fun (s, rest) => (c :: s, rest)

/-- Reads a string behind its opening quote.  A numeric escape needs four more bytes
before its digits are looked at. -/
def stringFrom (checked : Bool) : Mode → Text → Except Fault (Text × Text)
  | _, [] => .error .truncated
  | .plain, c :: t =>
    if c = '"' then .ok ([], t)
    else if c = '\\' then stringFrom checked .escape t
    else if c.toNat < 0x20 then .error .malformed
    else cons c (stringFrom checked .plain t)
  | .escape, c :: t =>
    if c = 'u' then
      if Text.byteLength t < 4 then .error .truncated
      else stringFrom checked (.hex 4 0 none) t
    else
      match escaped? c with
      | some d => cons d (stringFrom checked .plain t)
      | none => .error .malformed
  | .hex left value first, c :: t =>
    match hexValue? c with
    | none => .error .malformed
    | some d =>
      let value := value * 16 + d
      if 1 < left then stringFrom checked (.hex (left - 1) value first) t
      else
        match unit16 checked first value with
        | .char c => cons c (stringFrom checked .plain t)
        | .firstHalf n => stringFrom checked (.half n) t
        | .wrong => .error .malformed
  | .half first, c :: t =>
    if c = '\\' then stringFrom checked (.halfEscape first) t else .error .malformed
  | .halfEscape first, c :: t =>
    if c = 'u' then
      if Text.byteLength t < 4 then .error .truncated
      else stringFrom checked (.hex 4 0 (some first)) t
    else .error .malformed

/-- Reads a string behind its opening quote. -/
def string : Step Text := stringFrom true .plain

/-! ## Numbers -/

/-- A number that was read. -/
inductive Number where
  /-- a whole number below 2⁶⁴, without a sign -/
  | natural (n : Nat)
  | other
  deriving DecidableEq, Repr, Inhabited

/-- The value of decimal digits. -/
def digitsValue (ds : Text) : Nat := ds.foldl (fun n c => n * 10 + (c.toNat - 0x30)) 0

/-- The significant digits of a number, as far as they are taken, and the power of
ten that belongs to them. -/
structure Scaled where
  significand : Nat := 0
  exponent : Int := 0
  deriving DecidableEq, Repr, Inhabited

namespace Scaled

/-- The bound that a significand stays below. -/
def bound : Nat := 0x10000000000000000

/-- Takes digits as long as the significand has room for them, and tells how many were
left out. -/
def take (significand : Nat) : Text → Nat × Nat
  | [] => (significand, 0)
  | c :: ds =>
    let next := significand * 10 + (c.toNat - 0x30)
    if next < bound then take next ds else (significand, ds.length + 1)

/-- The number with the given digits in front of the point and behind it. -/
def ofDigits (whole part : Text) : Scaled :=
  let (significand, left) := take 0 whole
  let (significand, unused) := take significand part
  ⟨significand, (left : Int) - ((part.length - unused : Nat) : Int)⟩

/-- The number times a power of ten. -/
def shift (x : Scaled) (n : Int) : Scaled := { x with exponent := x.exponent + n }

/-- The largest power of ten that is multiplied with. -/
def maxPower : Nat := 308

/-- Whether the number can be had as the product of two numbers of 64 bits, the
significand and the power of ten, each of them rounded. -/
def isInRange (x : Scaled) : Bool :=
  if x.significand = 0 ∨ x.exponent < 0 then true
  else if (maxPower : Int) < x.exponent then false
  else
    let format := BinaryFormat.double
    match format.round? x.significand 1, format.round? (Nat.pow 10 x.exponent.toNat) 1 with
    | some a, some b =>
      let (n, d) := a.fraction
      let (m, e) := b.fraction
      (format.round? (n * m) (d * e)).isSome
    | _, _ => false

end Scaled

/-- The digits at the start of a text, which need at least one. -/
def someDigits (t : Text) : Except Fault (Text × Text) :=
  match t with
  | [] => .error .truncated
  | c :: _ =>
    if Character.isDecimalDigit c then
      .ok (t.takeWhile Character.isDecimalDigit, t.dropWhile Character.isDecimalDigit)
    else .error .malformed

/-- Reads whole digits: no other digit stands behind a zero at the start. -/
def wholeDigits (t : Text) : Except Fault (Text × Text) :=
  match someDigits t with
  | .error fault => .error fault
  | .ok (ds, rest) =>
    if ds.head? = some '0' ∧ 1 < ds.length then .error .malformed else .ok (ds, rest)

/-- Reads the fraction, if there is one. -/
def fraction (t : Text) : Except Fault (Option Text × Text) :=
  match t with
  | '.' :: t => (someDigits t).map fun (ds, rest) => (some ds, rest)
  | _ => .ok (none, t)

/-- Reads the exponent, if there is one. -/
def exponent (t : Text) : Except Fault (Option Int × Text) :=
  match t with
  | c :: t' =>
    if c = 'e' ∨ c = 'E' then
      let (negative, t') :=
        match t' with
        | '-' :: t' => (true, t')
        | '+' :: t' => (false, t')
        | t' => (false, t')
      (someDigits t').map fun (ds, rest) =>
        let n : Int := digitsValue ds
        (some (if negative then -n else n), rest)
    else .ok (none, t)
  | [] => .ok (none, t)

/-- Reads a number.  One that is too large to be approximated is malformed. -/
def number : Step Number := fun t => do
  let (negative, t) :=
    match t with
    | '-' :: t => (true, t)
    | t => (false, t)
  let (whole, t) ← wholeDigits t
  let (part, t) ← fraction t
  let (power, t) ← exponent t
  let value := digitsValue whole
  if !negative && part.isNone && power.isNone && value < 0x10000000000000000 then
    .ok (.natural value, t)
  else
    let scaled := (Scaled.ofDigits whole (part.getD [])).shift (power.getD 0)
    if scaled.isInRange then .ok (.other, t) else .error .malformed

/-! ## Values of another kind -/

/-- Whether a number starts with a character. -/
def startsNumber (c : Char) : Bool := c == '-' || Character.isDecimalDigit c

/-- The fault of a value that is not of the expected kind.  A scalar is read to its
end before it is refused. -/
def mismatch (t : Text) : Fault :=
  match t with
  | [] => .truncated
  | c :: rest =>
    let after {α : Type} (r : Except Fault α) : Fault :=
      match r with
      | .ok _ => .unsuitable
      | .error fault => fault
    match wordFrom? c with
    | some word => after (restOfWord word rest)
    | none =>
      if startsNumber c then after (number t)
      else if c = '"' then after (string rest)
      else if c = '[' ∨ c = '\x7b' then .unsuitable
      else .malformed

/-! ## Skipping -/

/-- A number that is skipped: only its form counts, and one that is cut off is
malformed. -/
def skipNumber (t : Text) : Except Fault Text :=
  let t := if t.head? = some '-' then t.drop 1 else t
  let read : Except Fault Text := do
    let (_, t) ← wholeDigits t
    let (_, t) ← fraction t
    let (_, t) ← exponent t
    return t
  match read with
  | .ok rest => .ok rest
  | .error _ => .error .malformed

/-- A bracket that is open. -/
inductive Bracket where
  | list
  | members
  deriving DecidableEq, Repr, Inhabited

/-- The character that closes a bracket. -/
def Bracket.closing : Bracket → Char
  | list => ']'
  | members => '\x7d'

/-- What is expected next while a value is skipped. -/
inductive Want where
  | value
  /-- the first item of a list, or its end -/
  | first
  /-- a name, or the end when it would be the first -/
  | name (mayClose : Bool)
  /-- a comma, or the end of the innermost bracket -/
  | more
  deriving DecidableEq, Repr, Inhabited

/-- Skips a scalar that starts with `c`. -/
def skipScalar (c : Char) (t : Text) : Except Fault Text :=
  match wordFrom? c with
  | some word => restOfWord word t
  | none =>
    if startsNumber c then skipNumber (c :: t)
    else if c = '"' then (stringFrom false .plain t).map Prod.snd
    else .error .malformed

/-- Skips a colon. -/
def skipColon (t : Text) : Except Fault Text :=
  match dropBlanks t with
  | [] => .error .truncated
  | c :: rest => if c = ':' then .ok rest else .error .malformed

/-- Skips a value, given the open brackets, the innermost in front. -/
def skipFrom : Nat → Want → List Bracket → Text → Except Fault Text
  | 0, _, _, _ => .error .truncated
  | fuel + 1, want, brackets, t =>
    match dropBlanks t with
    | [] => .error .truncated
    | c :: rest =>
      let behind (brackets : List Bracket) (rest : Text) : Except Fault Text :=
        if brackets = [] then .ok rest else skipFrom fuel .more brackets rest
      let value : Except Fault Text :=
        if c = '[' then skipFrom fuel .first (.list :: brackets) rest
        else if c = '\x7b' then skipFrom fuel (.name true) (.members :: brackets) rest
        else
          match skipScalar c rest with
          | .ok rest => behind brackets rest
          | .error fault => .error fault
      match want, brackets with
      | .value, _ => value
      | .first, _ => if c = ']' then behind brackets.tail rest else value
      | .name mayClose, _ =>
        if c = '"' then
          match (stringFrom false .plain rest).bind fun (_, rest) => skipColon rest with
          | .ok rest => skipFrom fuel .value brackets rest
          | .error fault => .error fault
        else if mayClose ∧ c = '\x7d' then behind brackets.tail rest
        else .error .malformed
      | .more, [] => .error .malformed
      | .more, bracket :: outer =>
        if c = bracket.closing then behind outer rest
        else if c = ',' then
          skipFrom fuel (if bracket = .list then .value else .name false) brackets rest
        else .error .malformed

/-- Skips a value. -/
def skip (t : Text) : Except Fault Text := skipFrom (t.length + 1) .value [] t

/-! ## Expected values -/

/-- A string. -/
def textValue : Step Text := fun t =>
  match dropBlanks t with
  | '"' :: rest => string rest
  | t => .error (mismatch t)

/-- A truth value. -/
def boolValue : Step Bool := fun t =>
  match dropBlanks t with
  | 't' :: rest => (restOfWord "rue".toList rest).map fun rest => (true, rest)
  | 'f' :: rest => (restOfWord "alse".toList rest).map fun rest => (false, rest)
  | t => .error (mismatch t)

/-- A whole number below 2⁶⁴. -/
def naturalValue : Step Nat := fun t =>
  match dropBlanks t with
  | [] => .error .truncated
  | c :: rest =>
    if startsNumber c then
      match number (c :: rest) with
      | .ok (.natural n, rest) => .ok (n, rest)
      | .ok (.other, _) => .error .unsuitable
      | .error fault => .error fault
    else .error (mismatch (c :: rest))

/-- A value that may be `null`. -/
def optional {α : Type} (step : Step α) : Step (Option α) := fun t =>
  match dropBlanks t with
  | 'n' :: rest => (restOfWord "ull".toList rest).map fun rest => (none, rest)
  | t => (step t).map fun (a, rest) => (some a, rest)

/-- The empty value that goes with a word in braces. -/
def nullValue (t : Text) : Except Fault Text :=
  match dropBlanks t with
  | 'n' :: rest => restOfWord "ull".toList rest
  | t => .error (mismatch t)

/-- One of a set of words: a string, or an object of one member with the word for its
name and `null` for its value. -/
def wordValue {α : Type} (meaning? : String → Option α) : Step α := fun t =>
  let word (t : Text) : Except Fault (α × Text) := do
    let (w, rest) ← textValue t
    match meaning? (String.ofList w) with
    | some a => .ok (a, rest)
    | none => .error .unsuitable
  match dropBlanks t with
  | [] => .error .truncated
  | '"' :: rest => word ('"' :: rest)
  | '\x7b' :: rest => do
    let (a, rest) ← word rest
    let rest ← skipColon rest
    let rest ← nullValue rest
    match dropBlanks rest with
    | [] => .error .truncated
    | c :: rest => if c = '\x7d' then .ok (a, rest) else .error .malformed
  | _ => .error .malformed

/-! ## Records -/

/-- A field of a record that is being read into a value. -/
structure Field (α : Type) where
  name : String
  /-- whether a record without the field is refused -/
  required : Bool := false
  /-- reads the value of the field and puts it into the record -/
  read : α → Step α

/-- A field that holds what a step reads. -/
def Field.of {α β : Type} (name : String) (step : Step β) (put : α → β → α)
    (required : Bool := false) : Field α where
  name := name
  required := required
  read a t := (step t).map fun (b, rest) => (put a b, rest)

variable {α : Type}

/-- Reads the members of an object up to its end; `seen` holds the names so far. -/
def membersFrom (fields : List (Field α)) :
    Nat → Bool → List String → α → Text → Except Fault ((α × List String) × Text)
  | 0, _, _, _, _ => .error .truncated
  | fuel + 1, isFirst, seen, a, t =>
    match dropBlanks t with
    | [] => .error .truncated
    | c :: rest =>
      if c = '\x7d' then .ok ((a, seen), rest)
      else do
        let atName ←
          if isFirst then .ok (c :: rest)
          else if c = ',' then .ok (dropBlanks rest)
          else .error .malformed
        let (name, rest) ←
          match atName with
          | [] => .error .truncated
          | '"' :: rest => string rest
          | _ => .error .malformed
        let name := String.ofList name
        match fields.find? fun f => f.name == name with
        | none => do
          let rest ← skip (← skipColon rest)
          membersFrom fields fuel false seen a rest
        | some field =>
          if seen.contains name then .error .unsuitable
          else do
            let (a, rest) ← field.read a (← skipColon rest)
            membersFrom fields fuel false (name :: seen) a rest

/-- Reads the end of a list that has all its items. -/
def endOfList (t : Text) : Except Fault Text :=
  match dropBlanks t with
  | [] => .error .truncated
  | c :: rest => if c = ']' then .ok rest else .error .malformed

/-- Reads the fields of a record in their order, up to the end of the list. -/
def itemsFrom : List (Field α) → Bool → α → Text → Except Fault (α × Text)
  | [], _, a, t => (endOfList t).map fun rest => (a, rest)
  | field :: fields, isFirst, a, t =>
    match dropBlanks t with
    | [] => .error .truncated
    | c :: rest =>
      if c = ']' then
        if (field :: fields).any Field.required then .error .unsuitable else .ok (a, rest)
      else do
        let atItem ←
          if isFirst then .ok (c :: rest)
          else if c = ',' then
            match dropBlanks rest with
            | [] => .error .truncated
            | d :: rest => if d = ']' then .error .malformed else .ok (d :: rest)
          else .error .malformed
        let (a, rest) ← field.read a atItem
        itemsFrom fields false a rest

/-- A record: an object with the fields by name, in any order, or a list with the
fields in their order.  Fields that are not there keep the values of `start`. -/
def record (fields : List (Field α)) (start : α) : Step α := fun t =>
  match dropBlanks t with
  | '[' :: rest => itemsFrom fields true start rest
  | '\x7b' :: rest => do
    let ((a, seen), rest) ← membersFrom fields (rest.length + 1) true [] start rest
    if fields.any fun f => f.required && !seen.contains f.name then .error .unsuitable
    else .ok (a, rest)
  | t => .error (mismatch t)

/-- Reads a text that holds one value and nothing else. -/
def read (step : Step α) (t : Text) : Except Fault α :=
  match step t with
  | .error fault => .error fault
  | .ok (a, rest) => if dropBlanks rest = [] then .ok a else .error .malformed

end TextIntake.Json
