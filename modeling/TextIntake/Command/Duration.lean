set_option autoImplicit false

/-!
# Durations

Time limits, counted in milliseconds, and the way they are written: in the
largest of the units s, ms and ns that gives a whole number in front of the
point, without zeros at the end.
-/

namespace TextIntake

/-- A span of time. -/
structure Duration where
  milliseconds : Nat
  deriving DecidableEq, Repr, Inhabited

namespace Duration

/-- A number of seconds. -/
def seconds (n : Nat) : Duration := ⟨n * 1000⟩

/-- What stands behind the whole number for a number of thousandths: a point and
the digits up to the last that is not zero, or nothing. -/
def fraction (thousandths : Nat) : String :=
  let digits := (toString (1000 + thousandths)).toList.drop 1
  match (digits.reverse.dropWhile (· == '0')).reverse with
  | [] => ""
  | kept => String.ofList ('.' :: kept)

/-- The written form. -/
def text (d : Duration) : String :=
  if d.milliseconds = 0 then "0ns"
  else if d.milliseconds < 1000 then s!"{d.milliseconds}ms"
  else
    let whole := d.milliseconds / 1000
    let rest := fraction (d.milliseconds % 1000)
    s!"{whole}{rest}s"

end Duration

end TextIntake
