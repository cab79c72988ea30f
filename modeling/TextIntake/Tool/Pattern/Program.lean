import TextIntake.Tool.Pattern.Reading

set_option autoImplicit false

/-!
# Pattern programs

A pattern as a program of small steps, each of which names the steps behind it.  Where
two steps follow, the first of them is preferred.
-/

namespace TextIntake.Tool.Pattern

/-- A step of a program. -/
inductive Step where
  | accept
  | take (c : Char) (next : Nat)
  | takeAmong (s : OctetSet) (next : Nat)
  | check (a : Anchor) (next : Nat)
  | fork (first second : Nat)
  /-- a round of a repetition, which is only worth while when it got somewhere since the
  slot was last set -/
  | round (slot body next : Nat)
  /-- notes the place in a slot -/
  | note (slot next : Nat)
  | again (number next : Nat)
  deriving Inhabited

/-- A program.  The slots `2 n` and `2 n + 1` hold where group `n` starts and ends. -/
structure Program where
  steps : Array Step := #[.accept]
  start : Nat := 0
  groups : Nat := 0
  slots : Nat := 2
  /-- whether the text of a group is asked for again -/
  asksAgain : Bool := false
  deriving Inhabited

namespace Program

/-- A part of a program, and the step at which it starts. -/
structure Part where
  steps : Array Step
  slots : Nat
  start : Nat
  deriving Inhabited

/-- A part with one more step in front. -/
def Part.behind (p : Part) (step : Step) : Part :=
  { p with steps := p.steps.push step, start := p.steps.size }

/-- A part with a pattern any number of times in front. -/
def Part.looped (p : Part) (body : Part → Part) : Part :=
  let place := p.steps.size
  let inner := body { steps := p.steps.push .accept, slots := p.slots + 1, start := place }
  { inner with
    steps := inner.steps.set! place (.round p.slots inner.start p.start), start := place }

/-- A part with a pattern up to so many times in front. -/
def Part.upTo (p : Part) (body : Part → Part) : Nat → Part
  | 0 => p
  | n + 1 =>
    let inner := body (Part.upTo p body n)
    inner.behind (.fork inner.start p.start)

/-- A part with a pattern so many times in front. -/
def Part.times (p : Part) (body : Part → Part) : Nat → Part
  | 0 => p
  | n + 1 => body (Part.times p body n)

/-- A part with a pattern in front. -/
def compile : Pattern → Part → Part
  | .empty, k => k
  | .one c, k => k.behind (.take c k.start)
  | .among s, k => k.behind (.takeAmong s k.start)
  | .anchor a, k => k.behind (.check a k.start)
  | .both p q, k => compile p (compile q k)
  | .either p q, k =>
    let second := compile q k
    let first := compile p { second with start := k.start }
    first.behind (.fork first.start second.start)
  | .repeated p least most, k =>
    match most with
    | none => (k.looped (compile p)).times (compile p) least
    | some n => (k.upTo (compile p) (n - least)).times (compile p) least
  | .group number p, k =>
    let inner := compile p (k.behind (.note (2 * number + 1) k.start))
    inner.behind (.note (2 * number) inner.start)
  | .again number, k => k.behind (.again number k.start)

/-- Whether a pattern asks for the text of a group. -/
def asksAgainIn : Pattern → Bool
  | .both p q | .either p q => asksAgainIn p || asksAgainIn q
  | .repeated p _ _ | .group _ p => asksAgainIn p
  | .again _ => true
  | _ => false

/-- The program of a pattern with so many groups. -/
def ofPattern (p : Pattern) (groups : Nat) : Program :=
  let part := compile p { steps := #[.accept], slots := 2 * groups + 2, start := 0 }
  { steps := part.steps, start := part.start, groups, slots := part.slots
    asksAgain := asksAgainIn p }

end Program

end TextIntake.Tool.Pattern
