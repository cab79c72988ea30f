import TextIntake.Number.Floating
import TextIntake.Tool.Quoting

set_option autoImplicit false

/-!
# Printing arguments

`printf` writes its arguments by a format, over and over until all are used.
`echo` writes them as they are, or with escapes resolved.  A shell has a `printf` of
its own; what the two have in common is here.
-/

namespace TextIntake.Tool.Print

/-! ## Escapes -/

/-- The escapes that a text may hold besides those of all texts. -/
structure Escapes where
  /-- `\x` with up to two hexadecimal digits gives an octet -/
  hex : Bool := false
  /-- a `0` may stand in front of three octal digits -/
  zero : Bool := false
  /-- octal digits count only behind a `0` -/
  zeroOnly : Bool := false
  /-- `\c` ends the output -/
  stop : Bool := false
  /-- `\u` and `\U` with four and eight hexadecimal digits give a character, and what
  lacks its digits is refused -/
  characters : Bool := false
  /-- a backslash in front of a double quote goes, and one in front of what means nothing
  stays together with it -/
  quotes : Bool := false
  deriving DecidableEq, Repr, Inhabited

/-- What an escape stands for. -/
inductive Escape where
  | text (t : Text)
  /-- the end of all output -/
  | stop
  | fault (message : Text)
  deriving DecidableEq, Repr, Inhabited

/-- The written form of a character that is no octet: its number. -/
def characterText (n : Nat) : Text :=
  let digits (width : Nat) : Text := padLeft width '0' ((Nat.toDigits 16 n).map Char.toUpper)
  if n < 128 then [Char.ofNat n]
  else if n < 0x10000 then '\\' :: 'u' :: digits 4
  else '\\' :: 'U' :: digits 8

/-- Resolves `\u` or `\U` in front of a text that should start with so many digits. -/
def character (letter : Char) (count : Nat) (t : Text) : Escape :=
  let digits := (t.take count).takeWhile fun c => (hexValue? c).isSome
  let n := Tool.hexadecimal digits
  if digits.length < count then .fault "missing hexadecimal number in escape".toList
  else if (0xD800 ≤ n ∧ n < 0xE000) ∨ 0x10FFFF < n then
    .fault ("invalid universal character name \\".toList ++ letter :: t.take count)
  else .text (characterText n)

/-- Resolves the escape behind a backslash, and tells how many characters it covers there.
Octal digits, at most three, give an octet. -/
def escape? (e : Escapes) (t : Text) : Option (Escape × Nat) :=
  match t with
  | [] => none
  | c :: rest =>
    let octals (skipped : Nat) : Option (Escape × Nat) :=
      let digits := ((t.drop skipped).take 3).takeWhile isOctal
      some (.text [octalByte digits], skipped + digits.length)
    match control? c with
    | some d => some (.text [d], 1)
    | none =>
      if c = '\\' then some (.text ['\\'], 1)
      else if c = 'e' then some (.text [Char.ofNat 27], 1)
      else if e.quotes ∧ c = '"' then some (.text ['"'], 1)
      else if e.stop ∧ c = 'c' then some (.stop, 1)
      else if e.hex ∧ c = 'x' then
        match (rest.take 2).takeWhile fun d => (hexValue? d).isSome with
        | [] =>
          if e.characters then some (.fault "missing hexadecimal number in escape".toList, 1)
          else none
        | digits => some (.text [Char.ofNat (Tool.hexadecimal digits)], 1 + digits.length)
      else if e.characters ∧ c = 'u' then some (character c 4 rest, 5)
      else if e.characters ∧ c = 'U' then some (character c 8 rest, 9)
      else if isOctal c ∧ (c = '0' ∨ !e.zeroOnly) then octals (if e.zero ∧ c = '0' then 1 else 0)
      else if e.quotes then some (.text ['\\', c], 1)
      else none

/-- A text with all escapes resolved, and what cut it short. -/
structure Unescaped where
  text : Text := []
  stopped : Bool := false
  fault : Option Text := none
  deriving DecidableEq, Repr, Inhabited

/-- More text in front. -/
def Unescaped.behind (t : Text) (u : Unescaped) : Unescaped := { u with text := t ++ u.text }

/-- Resolves all escapes; so many characters belong to an escape that was resolved
before. -/
def unescapeFrom (e : Escapes) : Nat → Text → Unescaped
  | _, [] => {}
  | skipped + 1, _ :: t => unescapeFrom e skipped t
  | 0, c :: t =>
    if c = '\\' then
      match escape? e t with
      | some (.text u, length) => (unescapeFrom e length t).behind u
      | some (.stop, _) => { stopped := true }
      | some (.fault message, _) => { fault := some message }
      | none => (unescapeFrom e 0 t).behind ['\\']
    else (unescapeFrom e 0 t).behind [c]

/-- Resolves all escapes. -/
def unescape (e : Escapes) (t : Text) : Unescaped := unescapeFrom e 0 t

/-! ## Formats -/

/-- A width or a precision. -/
inductive Measure where
  | absent
  | number (n : Nat)
  /-- the next argument gives it -/
  | argument
  deriving DecidableEq, Repr, Inhabited

/-- A conversion as it stands in a format. -/
structure Directive where
  flags : Text := []
  width : Measure := .absent
  precision : Measure := .absent
  letter : Char
  deriving DecidableEq, Repr, Inhabited

/-- A piece of a format. -/
inductive Piece where
  | text (t : Text)
  | directive (d : Directive)
  /-- the end of all output -/
  | stop
  | fault (message : Text)
  deriving DecidableEq, Repr, Inhabited

/-- How formats are read. -/
structure Grammar where
  escapes : Escapes
  /-- reads the conversion behind a percent sign: how many characters it covers there -/
  directive : Text → Piece × Nat

/-- Reads a format; so many characters belong to a piece that was read before. -/
def piecesFrom (g : Grammar) : Nat → Text → List Piece
  | _, [] => []
  | skipped + 1, _ :: t => piecesFrom g skipped t
  | 0, c :: t =>
    if c = '%' then
      let (piece, length) := if t.head? = some '%' then (.text ['%'], 1) else g.directive t
      piece :: piecesFrom g length t
    else if c = '\\' then
      match escape? g.escapes t with
      | some (.text u, length) => .text u :: piecesFrom g length t
      | some (.stop, length) => .stop :: piecesFrom g length t
      | some (.fault message, length) => .fault message :: piecesFrom g length t
      | none => .text ['\\'] :: piecesFrom g 0 t
    else .text [c] :: piecesFrom g 0 t

/-- Reads a format. -/
def pieces (g : Grammar) (format : Text) : List Piece := piecesFrom g 0 format

/-! ## Conversions -/

/-- A conversion with its measures known. -/
structure Conversion where
  left : Bool := false
  zeros : Bool := false
  plus : Bool := false
  space : Bool := false
  alternate : Bool := false
  width : Nat := 0
  precision : Option Nat := none
  letter : Char
  deriving DecidableEq, Repr, Inhabited

/-- The conversion of a directive whose measures are known.  A negative width is one to the
left; a negative precision is none. -/
def Directive.conversion (d : Directive) (width precision : Option Int) : Conversion where
  left := d.flags.contains '-' || (width.any fun w => decide (w < 0))
  zeros := d.flags.contains '0'
  plus := d.flags.contains '+'
  space := d.flags.contains ' '
  alternate := d.flags.contains '#'
  width := ((width.map Int.natAbs)).getD 0
  precision := precision.bind fun p => if p < 0 then none else some p.toNat
  letter := d.letter

namespace Conversion

/-- Fills up to the width.  Zeros stand between what must come first and the digits. -/
def pad (c : Conversion) (zeros : Bool) (front digits : Text) : Text :=
  let fill := c.width - (front.length + digits.length)
  if c.left then front ++ digits ++ List.replicate fill ' '
  else if zeros then front ++ List.replicate fill '0' ++ digits
  else List.replicate fill ' ' ++ front ++ digits

/-- The sign of a number. -/
def sign (c : Conversion) (negative : Bool) : Text :=
  if negative then ['-'] else if c.plus then ['+'] else if c.space then [' '] else []

/-- A text. -/
def text (c : Conversion) (t : Text) : Text :=
  c.pad false [] (match c.precision with
    | some n => t.take n
    | none => t)

/-- A character; where none is given, a NUL. -/
def char (c : Conversion) (t : Text) : Text := c.pad false [] [t.headD (Char.ofNat 0)]

/-- An integer. -/
def integer (c : Conversion) (n : Int) : Text :=
  let base := if c.letter = 'o' then 8 else if c.letter = 'x' ∨ c.letter = 'X' then 16 else 10
  let isSigned := c.letter = 'd' ∨ c.letter = 'i'
  let digits : Text :=
    if n = 0 ∧ c.precision = some 0 then [] else Nat.toDigits base n.natAbs
  let digits := if c.letter = 'X' then digits.map Char.toUpper else digits
  let digits := padLeft (c.precision.getD 0) '0' digits
  let digits :=
    if c.alternate ∧ base = 8 ∧ digits.head? ≠ some '0' then '0' :: digits else digits
  let front : Text :=
    if isSigned then c.sign (n < 0)
    else if c.alternate ∧ base = 16 ∧ n ≠ 0 then ['0', c.letter]
    else []
  c.pad (c.zeros && c.precision.isNone) front digits

/-- A floating number. -/
def floating (c : Conversion) (f : BinaryFormat) (x : Floating) : Text :=
  let style : Floating.Style := { precision := c.precision, alternate := c.alternate }
  let t := Floating.unsigned f c.letter.toLower style x
  let t := if c.letter.isUpper then t.map Char.toUpper else t
  let isFinite : Bool := match x with
    | .finite _ _ => true
    | _ => false
  let front : Text := if c.letter.toLower == 'a' && isFinite then t.take 2 else []
  c.pad (c.zeros && isFinite) (c.sign x.isNegative ++ front) (t.drop front.length)

end Conversion

/-! ## Numbers in arguments -/

/-- A number that an argument was read as. -/
structure Numeral where
  value : Int := 0
  /-- whether anything was read -/
  isThere : Bool := true
  rest : Text := []
  outOfRange : Bool := false
  deriving DecidableEq, Repr, Inhabited

/-- Reads an integer: decimal, hexadecimal behind `0x`, binary behind `0b`, octal behind
another zero. -/
def Numeral.read (t : Text) : Numeral :=
  let whole := t
  let t := t.dropWhile isSpace
  let (negative, t) : Bool × Text :=
    match t with
    | '-' :: t => (true, t)
    | '+' :: t => (false, t)
    | t => (false, t)
  let isPrefixed (letter : Char) (base : Nat) : Bool :=
    match t with
    | '0' :: x :: d :: _ => x.toLower == letter && Floating.isDigit base d
    | _ => false
  let (base, digits) : Nat × Text :=
    if isPrefixed 'x' 16 then (16, t.drop 2)
    else if isPrefixed 'b' 2 then (2, t.drop 2)
    else if t.head? = some '0' then (8, t)
    else (10, t)
  let ds := digits.takeWhile (Floating.isDigit base)
  if ds = [] then { isThere := false, rest := whole }
  else
    let n : Int := Floating.ofDigits base ds
    { value := if negative then -n else n, rest := digits.drop ds.length }

/-- The least and the largest signed number. -/
def signedLimit : Int := 0x8000000000000000

/-- One more than the largest unsigned number. -/
def unsignedLimit : Int := 0x10000000000000000

/-- A numeral as a signed number. -/
def Numeral.signed (n : Numeral) : Numeral :=
  if n.value < -signedLimit then { n with value := -signedLimit, outOfRange := true }
  else if signedLimit ≤ n.value then { n with value := signedLimit - 1, outOfRange := true }
  else n

/-- A numeral as an unsigned number; a negative one wraps around. -/
def Numeral.unsigned (n : Numeral) : Numeral :=
  if n.value ≤ -unsignedLimit ∨ unsignedLimit ≤ n.value then
    { n with value := unsignedLimit - 1, outOfRange := true }
  else if n.value < 0 then { n with value := n.value + unsignedLimit }
  else n

/-- The number of a character constant: a quote and a character behind it. -/
def constant? (t : Text) : Option (Char × Text) :=
  match t with
  | q :: c :: rest => if q = '"' ∨ q = '\'' then some (c, rest) else none
  | _ => none

/-- The conversions of integers. -/
def integerLetters : Text := "diouxX".toList

/-- The conversions of floating numbers. -/
def floatingLetters : Text := "aAeEfFgG".toList

end TextIntake.Tool.Print

namespace TextIntake.Tool

/-! ## The tool -/

namespace Printf

open Print

/-- How far the writing is. -/
structure Progress where
  left : List Text
  status : Nat := 0
  /-- whether all output has ended -/
  isOver : Bool := false
  deriving DecidableEq, Repr, Inhabited

/-- The conversions that a flag cannot stand with. -/
def conflicts (flag : Char) : Text :=
  if flag = '\'' ∨ flag = 'I' then "aAceEosxX".toList
  else if flag = '#' then "cdisu".toList
  else if flag = '0' then "cs".toList
  else []

/-- Reads a measure. -/
def measure (t : Text) : Measure × Text :=
  match t with
  | '*' :: rest => (.argument, rest)
  | t =>
    let digits := t.takeWhile Character.isDecimalDigit
    let m : Measure := match number? digits with
      | some n => .number n
      | none => .absent
    (m, t.drop digits.length)

/-- Reads the conversion behind a percent sign. -/
def directive (t : Text) : Piece × Nat :=
  let flags := t.takeWhile "I'-+ #0".toList.contains
  let (width, rest) := measure (t.drop flags.length)
  let (precision, rest) : Measure × Text :=
    match rest with
    | '.' :: rest =>
      match measure rest with
      | (.absent, rest) => (.number 0, rest)
      | found => found
    | rest => (.absent, rest)
  let rest := rest.dropWhile "lLhjtz".toList.contains
  let length := t.length - rest.length
  let refused : Piece × Nat :=
    (.fault ('%' :: (t.take (length + 1)) ++ ": invalid conversion specification".toList),
      length + 1)
  match t.head?, rest.head? with
  | some 'b', _ => (.directive { letter := 'b' }, 1)
  | some 'q', _ => (.directive { letter := 'q' }, 1)
  | _, none => refused
  | _, some letter =>
    let isKnown := (integerLetters ++ floatingLetters ++ ['c', 's']).contains letter
    let isRefused := flags.any fun f => (conflicts f).contains letter
    if !isKnown || isRefused || (letter == 'c' && precision != .absent) then refused
    else (.directive { flags, width, precision, letter }, length + 1)

/-- The escapes of formats. -/
def formatEscapes : Escapes := { hex := true, stop := true, characters := true, quotes := true }

/-- How formats are read. -/
def grammar : Grammar where
  escapes := formatEscapes
  directive := directive

/-- Complains about what was not read of a number. -/
def checkNumber (name argument : Text) (isThere outOfRange : Bool) (rest : Text) : Act Bool := do
  if outOfRange then
    complain name (Quoting.always argument ++ ": Numerical result out of range".toList)
    return false
  else if rest = [] then return true
  else
    let what := if isThere then ": value not completely converted" else ": expected a numeric value"
    complain name (Quoting.always argument ++ what.toList)
    return false

/-- Warns of characters behind a character constant. -/
def warnOfRest (name rest : Text) : Act Unit := do
  if rest ≠ [] then
    complain name ("warning: ".toList ++ rest ++
      ": character(s) following character constant have been ignored".toList)

/-- Reads an integer argument; `signed` tells of which kind. -/
def integer (name : Text) (signed : Bool) (argument : Text) : Act (Int × Bool) := do
  match constant? argument with
  | some (c, rest) =>
    warnOfRest name rest
    return (c.toNat, true)
  | none =>
    let n := Numeral.read argument
    let n := if signed then n.signed else n.unsigned
    return (n.value, ← checkNumber name argument n.isThere n.outOfRange n.rest)

/-- Reads a floating argument. -/
def floating (name argument : Text) : Act (Floating × Bool) := do
  match constant? argument with
  | some (c, rest) =>
    warnOfRest name rest
    return (.finite false ⟨c.toNat, 0⟩, true)
  | none =>
    match Floating.read? .extended argument with
    | some r => return (r.value, ← checkNumber name argument true r.outOfRange r.rest)
    | none => return (.finite false ⟨0, 0⟩, ← checkNumber name argument false false argument)

/-- The largest measure. -/
def largestMeasure : Int := 0x7FFFFFFF

/-- Takes an argument for a measure. -/
def takeMeasure (name : Text) (m : Measure) (p : Progress) : Act (Option Int × Progress) := do
  match m with
  | .absent => return (none, p)
  | .number n => return (some n, p)
  | .argument =>
    match p.left with
    | [] => return (some 0, p)
    | argument :: left =>
      let (n, ok) ← integer name true argument
      let p := { p with left, status := if ok then p.status else 1 }
      return (some n, p)

/-- Writes one conversion. -/
def convert (name : Text) (d : Directive) (p : Progress) : Act Progress := do
  let (width, p) ← takeMeasure name d.width p
  if largestMeasure < (width.getD 0).natAbs then
    complain name "invalid field width".toList
    return { p with status := 1, isOver := true }
  let (precision, p) ← takeMeasure name d.precision p
  if largestMeasure < precision.getD 0 then
    complain name "invalid precision".toList
    return { p with status := 1, isOver := true }
  let c := d.conversion width precision
  let argument := p.left.headD []
  let isLeft := p.left ≠ []
  let p := { p with left := p.left.drop 1 }
  let after (ok : Bool) : Progress := if ok then p else { p with status := 1 }
  if c.letter = 'b' then
    let u := unescape { formatEscapes with zero := true } argument
    say u.text
    match u.fault with
    | some message =>
      complain name message
      return { p with status := 1, isOver := true }
    | none => return if u.stopped then { p with status := 0, isOver := true } else p
  else if c.letter = 'q' then
    if isLeft then say (if Quoting.needsQuotes argument then Quoting.always argument else argument)
    return p
  else if c.letter = 's' then
    say (c.text argument)
    return p
  else if c.letter = 'c' then
    say (c.char argument)
    return p
  else if integerLetters.contains c.letter then
    let (n, ok) ← integer name (c.letter == 'd' || c.letter == 'i') argument
    say (c.integer n)
    return after ok
  else
    let (x, ok) ← floating name argument
    say (c.floating .extended x)
    return after ok

/-- Writes a format once. -/
def once (name : Text) : List Piece → Progress → Act Progress
  | [], p => return p
  | piece :: rest, p => do
    if p.isOver then return p
    match piece with
    | .text t =>
      say t
      once name rest p
    | .stop => return { p with status := 0, isOver := true }
    | .fault message =>
      complain name message
      return { p with status := 1, isOver := true }
    | .directive d => once name rest (← convert name d p)

/-- Writes a format until the arguments are used up. -/
def repeated (name : Text) (format : List Piece) : Nat → Progress → Act Progress
  | 0, p => return p
  | fuel + 1, p => do
    let before := p.left.length
    let p ← once name format p
    if p.isOver then return p
    match p.left with
    | [] => return p
    | argument :: _ =>
      if p.left.length = before then
        complain name ("warning: ignoring excess arguments, starting with ".toList ++
          Quoting.always argument)
        return p
      else repeated name format fuel p

end Printf

/-- Writes its arguments by a format. -/
def printf : Tool := checked 1 fun name arguments => do
  match if arguments.head? = some ['-', '-'] then arguments.drop 1 else arguments with
  | [] =>
    complain name "missing operand".toList
    pointToHelp name
    return .exited 1
  | format :: rest =>
    let pieces := Print.pieces Printf.grammar format
    let p ← Printf.repeated name pieces (rest.length + 1) { left := rest }
    return .exited p.status

/-! ## echo -/

namespace Echo

/-- How `echo` writes. -/
structure Style where
  escapes : Option Print.Escapes := none
  newline : Bool := true
  deriving DecidableEq, Repr, Inhabited

/-- What arguments look like with spaces between them. -/
def Style.text (s : Style) (arguments : List Text) : Text :=
  let joined := (arguments.intersperse [' ']).flatten
  let ending : Text := if s.newline then ['\n'] else []
  match s.escapes with
  | none => joined ++ ending
  | some e =>
    let u := Print.unescape e joined
    if u.stopped then u.text else u.text ++ ending

/-- The escapes that `-e` resolves. -/
def resolved : Print.Escapes := { hex := true, zero := true, stop := true }

/-- Reads the options: arguments of the letters `n`, `e` and `E` alone. -/
def options : Style → List Text → Style × List Text
  | s, [] => (s, [])
  | s, argument :: rest =>
    match argument with
    | '-' :: c :: letters =>
      if (c :: letters).all ['n', 'e', 'E'].contains then
        let apply (s : Style) (c : Char) : Style :=
          if c = 'n' then { s with newline := false }
          else if c = 'e' then { s with escapes := some resolved }
          else { s with escapes := none }
        options ((c :: letters).foldl apply s) rest
      else (s, argument :: rest)
    | _ => (s, argument :: rest)

end Echo

/-- Writes its arguments. -/
def echo : Tool := checked 1 fun _ arguments => do
  let (style, arguments) := Echo.options {} arguments
  say (style.text arguments)
  return .exited 0

end TextIntake.Tool
