import TextIntake.Tool.Quoting

set_option autoImplicit false

/-!
# Counts

A count is a number in decimal digits, with a unit behind it where the tool allows
one: `K`, `M` and so on stand for powers of 1024, `kB`, `MB` and so on for powers of
1000, `b` for blocks of 512.
-/

namespace TextIntake.Tool

/-- What is wrong with a count. -/
inductive CountFault where
  | invalid
  | tooLarge
  deriving DecidableEq, Repr, Inhabited

namespace Count

/-- The largest count, and one more. -/
def limit : Nat := 0x10000000000000000

/-- The letters of units, from the first power on. -/
def powers : List Text := ["kK".toList, "mM".toList, "gG".toList, "tT".toList, ['P'], ['E'],
  ['Z'], ['Y'], ['R'], ['Q']]

/-- The unit that stands behind a number.  Only the letters in `allowed` name one. -/
def unit? (allowed : Text) (t : Text) : Option Nat :=
  match t with
  | [] => some 1
  | c :: rest =>
    let base : Option Nat :=
      match rest with
      | [] | ['i', 'B'] => some 1024
      | ['B'] => some 1000
      | _ => none
    if !allowed.contains c then none
    else if c = 'b' then if rest = [] then some 512 else none
    else
      match powers.findIdx? (·.contains c), base with
      | some i, some b => some (Nat.pow b (i + 1))
      | _, _ => none

/-- Reads a count.  A unit alone counts once. -/
def read (allowed : Text) (t : Text) : Except CountFault Nat :=
  let t := t.dropWhile isSpace
  let t := if t.head? = some '+' then t.drop 1 else t
  let digits := t.takeWhile Character.isDecimalDigit
  let rest := t.drop digits.length
  if digits = [] ∧ rest = [] then .error .invalid
  else
    match unit? allowed rest with
    | none => .error .invalid
    | some unit =>
      let n := (number? digits).getD 1 * unit
      if n < limit then .ok n else .error .tooLarge

/-- The complaint about a count that cannot be read. -/
def complaint (what t : Text) (fault : CountFault) : Text :=
  let text := "invalid ".toList ++ what ++ ": ".toList ++ Quoting.always t
  match fault with
  | .invalid => text
  | .tooLarge => text ++ ": Value too large for defined data type".toList

end Count

end TextIntake.Tool
