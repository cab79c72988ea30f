import TextIntake.Number.Floating
import TextIntake.Tool.Basic

set_option autoImplicit false

/-!
# Orders of lines

The ways in which the keys of two lines are compared: as texts, as numbers of several
kinds, as names of months, or as versions.
-/

namespace TextIntake.Tool.Sorting

/-- A blank: what stands between fields. -/
def isBlank (c : Char) : Bool := c == ' ' || c == '\t' || c == '\n'

/-- One order, and where it sees no difference another. -/
def thenBy (first second : Ordering) : Ordering :=
  match first with
  | .eq => second
  | o => o

/-! ## Numbers -/

/-- A decimal number: its digits in front of the point and behind it. -/
structure Numeral where
  negative : Bool := false
  whole : Text := []
  places : Text := []
  deriving DecidableEq, Repr, Inhabited

/-- Reads a number without a sign, and what stands behind it. -/
def unsigned (t : Text) : Numeral × Text :=
  let whole := t.takeWhile Character.isDecimalDigit
  match t.drop whole.length with
  | '.' :: rest =>
    let places := rest.takeWhile Character.isDecimalDigit
    ({ whole, places }, rest.drop places.length)
  | rest => ({ whole }, rest)

/-- Reads the number at the start of a text, and what stands behind it. -/
def numeral (t : Text) : Numeral × Text :=
  match t with
  | '-' :: t =>
    let (n, rest) := unsigned t
    ({ n with negative := true }, rest)
  | t => unsigned t

/-- A number times a power of ten, up to which it has places. -/
def Numeral.scaled (n : Numeral) (places : Nat) : Int :=
  let padded := n.places ++ List.replicate (places - n.places.length) '0'
  let size : Int := ((number? (n.whole ++ padded)).getD 0 : Nat)
  if n.negative then -size else size

/-- The order of two numbers. -/
def Numeral.compare (a b : Numeral) : Ordering :=
  let places := max a.places.length b.places.length
  Ord.compare (a.scaled places) (b.scaled places)

/-- The order by numbers at the start. -/
def byNumber (a b : Text) : Ordering :=
  (numeral (a.dropWhile isBlank)).1.compare (numeral (b.dropWhile isBlank)).1

/-- The letters of units, from the smallest on. -/
def units : List Text := ["kK".toList, ['M'], ['G'], ['T'], ['P'], ['E'], ['Z'], ['Y'], ['R'], ['Q']]

/-- The rank of the unit behind a number.  Zero has none. -/
def unitRank (n : Numeral) (rest : Text) : Int :=
  if (n.whole ++ n.places).all (· == '0') then 0
  else
    let rank : Nat :=
      match rest with
      | c :: _ => ((units.findIdx? (·.contains c)).map (· + 1)).getD 0
      | [] => 0
    if n.negative then -(rank : Int) else rank

/-- The order by numbers with units: first by the unit. -/
def byUnit (a b : Text) : Ordering :=
  let (m, x) := numeral (a.dropWhile isBlank)
  let (n, y) := numeral (b.dropWhile isBlank)
  thenBy (Ord.compare (unitRank m x) (unitRank n y)) (m.compare n)

/-- The order of two floating numbers.  What is no number comes first. -/
def compareFloating : Floating → Floating → Ordering
  | .nan true, .nan false => .lt
  | .nan false, .nan true => .gt
  | .nan _, .nan _ => .eq
  | .nan _, _ => .lt
  | _, .nan _ => .gt
  | .infinite a, .infinite b => if a = b then .eq else if a then .lt else .gt
  | .infinite a, .finite _ _ => if a then .lt else .gt
  | .finite _ _, .infinite b => if b then .gt else .lt
  | .finite a x, .finite b y =>
    let (m, k) := x.fraction
    let (n, l) := y.fraction
    let signed (negative : Bool) (n : Nat) : Int := if negative then -(n : Int) else n
    Ord.compare (signed a (m * l)) (signed b (n * k))

/-- The order by floating numbers; texts that are none come first. -/
def byFloating (a b : Text) : Ordering :=
  match Floating.read? .extended a, Floating.read? .extended b with
  | some x, some y => compareFloating x.value y.value
  | none, some _ => .lt
  | some _, none => .gt
  | none, none => .eq

/-! ## Months -/

/-- The names of the months. -/
def months : List String :=
  ["JAN", "FEB", "MAR", "APR", "MAY", "JUN", "JUL", "AUG", "SEP", "OCT", "NOV", "DEC"]

/-- The number of the month whose name a text starts with; zero where there is none. -/
def month (t : Text) : Nat :=
  let t := ((t.dropWhile isBlank).take 3).map Char.toUpper
  ((months.findIdx? fun name => name.toList == t).map (· + 1)).getD 0

/-- The order by months. -/
def byMonth (a b : Text) : Ordering := Ord.compare (month a) (month b)

/-! ## Versions -/

/-- The weight of the character at the start of a text among versions. -/
def weight : Text → Int
  | [] => -1
  | c :: _ =>
    if Character.isDecimalDigit c then 0
    else if c.isAlpha then c.toNat
    else if c = '~' then -2
    else c.toNat + 256

/-- The order of two runs of digits by their numbers. -/
def compareDigits (a b : Text) : Ordering :=
  Ord.compare ((number? a).getD 0) ((number? b).getD 0)

/-- The order by versions: what is no digit is compared by its weight, digits by their
number. -/
def compareVersions : Nat → Text → Text → Ordering
  | 0, _, _ => .eq
  | _, [], [] => .eq
  | fuel + 1, a, b =>
    let isOther (t : Text) : Bool := (t.head?).any fun c => !Character.isDecimalDigit c
    if isOther a || isOther b then
      thenBy (Ord.compare (weight a) (weight b)) (compareVersions fuel (a.drop 1) (b.drop 1))
    else
      let m := a.takeWhile Character.isDecimalDigit
      let n := b.takeWhile Character.isDecimalDigit
      thenBy (compareDigits m n)
        (compareVersions fuel (a.drop m.length) (b.drop n.length))

/-- Whether a text is an ending of file names: points with letters and digits behind them. -/
def isEnding : Nat → Text → Bool
  | 0, _ => false
  | _, [] => true
  | fuel + 1, '.' :: c :: t =>
    (c.isAlpha || c == '~') &&
      isEnding fuel (t.dropWhile fun c => c.isAlphanum || c == '~')
  | _, _ => false

/-- A text, not empty, without the longest ending. -/
def withoutEnding (t : Text) : Text :=
  let isStem (n : Nat) : Bool := isEnding (t.length + 1) (t.drop (n + 1))
  t.take (((List.range t.length).find? isStem).getD t.length + 1)

/-- Names that start with a point come first, and among them the shortest two. -/
def pointRank : Text → Nat
  | ['.'] => 0
  | ['.', '.'] => 1
  | '.' :: _ => 2
  | _ => 3

/-- The order by versions, first without endings. -/
def byVersion (a b : Text) : Ordering :=
  match a, b with
  | [], [] => .eq
  | [], _ => .lt
  | _, [] => .gt
  | a, b =>
    let fuel := a.length + b.length + 1
    thenBy (Ord.compare (pointRank a) (pointRank b))
      (thenBy (compareVersions fuel (withoutEnding a) (withoutEnding b))
        (compareVersions fuel a b))

end TextIntake.Tool.Sorting
