import TextIntake.Tool.Pattern.Program

set_option autoImplicit false

/-!
# Searching

A pattern matches at the leftmost place possible, and there as much as possible.  Of the
ways to match that much the preferred one tells what the groups cover.

Where no text of a group is asked for again, how far a match reaches is found by going
through the text with the set of all steps at once; then the preferred way to that end
is found by trying each step at each place at most once.  Otherwise all ways are tried,
up to a bound.
-/

namespace TextIntake.Tool.Pattern

/-- The text that is searched. -/
structure Field where
  text : Array Char
  /-- what ends lines inside the text, so that anchors hold there -/
  lineEnd : Option Char := none
  deriving Inhabited

namespace Field

/-- Whether the octet at a place belongs to a word. -/
def isWordAt (f : Field) (i : Nat) : Bool := ((f.text[i]?).map isNamePart).getD false

/-- Whether the octet in front of a place belongs to a word. -/
def isWordBefore (f : Field) (i : Nat) : Bool := i != 0 && f.isWordAt (i - 1)

/-- Whether an anchor holds at a place. -/
def holds (f : Field) (a : Anchor) (i : Nat) : Bool :=
  match a with
  | .bufferStart => i == 0
  | .bufferEnd => i == f.text.size
  | .lineStart => i == 0 || (f.lineEnd.isSome && f.text[i - 1]? == f.lineEnd)
  | .lineEnd => i == f.text.size || (f.lineEnd.isSome && f.text[i]? == f.lineEnd)
  | .wordStart => !f.isWordBefore i && f.isWordAt i
  | .wordEnd => f.isWordBefore i && !f.isWordAt i
  | .wordEdge => f.isWordBefore i != f.isWordAt i
  | .notWordEdge => f.isWordBefore i == f.isWordAt i

end Field

/-- A match: where it starts and stops, and the slots of its groups. -/
structure Match where
  start : Nat
  stop : Nat
  slots : Array (Option Nat) := #[]
  deriving DecidableEq, Repr, Inhabited

namespace Match

/-- Where a group starts and stops.  Group 0 is the whole match. -/
def group? (m : Match) (n : Nat) : Option (Nat × Nat) :=
  if n = 0 then some (m.start, m.stop)
  else
    match m.slots.getD (2 * n) none, m.slots.getD (2 * n + 1) none with
    | some a, some b => some (a, b)
    | _, _ => none

/-- The text of a group; none for a group that took no part. -/
def groupText (m : Match) (text : Array Char) (n : Nat) : Text :=
  match m.group? n with
  | some (a, b) => (text.extract a b).toList
  | none => []

end Match

namespace Program

/-! ## How far a match reaches -/

/-- A set of steps: those that take an octet, and whether the match may end. -/
structure Front where
  takers : List Nat := []
  accepts : Bool := false
  deriving Inhabited

/-- Follows steps that take nothing, at a place.  `seen` holds the steps met before. -/
def close (p : Program) (f : Field) (i : Nat) :
    Nat → List Nat → Array Bool → Front → Front
  | 0, _, _, front => front
  | _, [], _, front => front
  | fuel + 1, n :: stack, seen, front =>
    if seen.getD n true then close p f i fuel stack seen front
    else
      let seen := seen.set! n true
      match p.steps.getD n .accept with
      | .accept => close p f i fuel stack seen { front with accepts := true }
      | .take _ _ | .takeAmong _ _ | .again _ _ =>
        close p f i fuel stack seen { front with takers := n :: front.takers }
      | .check a next =>
        close p f i fuel (if f.holds a i then next :: stack else stack) seen front
      | .fork first second | .round _ first second =>
        close p f i fuel (first :: second :: stack) seen front
      | .note _ next => close p f i fuel (next :: stack) seen front

/-- The front that some steps lead to. -/
def front (p : Program) (f : Field) (i : Nat) (starts : List Nat) : Front :=
  close p f i (2 * p.steps.size + starts.length + 2) starts
    (Array.replicate p.steps.size false) {}

/-- The step behind one that takes an octet. -/
def taken? (p : Program) (c : Char) (n : Nat) : Option Nat :=
  match p.steps.getD n .accept with
  | .take d next => if c = d then some next else none
  | .takeAmong s next => if s.holds c then some next else none
  | _ => none

/-- How far a match reaches that goes on from a front. -/
def reach (p : Program) (f : Field) : Nat → Nat → Front → Option Nat → Option Nat
  | 0, _, _, best => best
  | fuel + 1, i, front, best =>
    let best := if front.accepts then some i else best
    match front.takers, f.text[i]? with
    | [], _ | _, none => best
    | takers, some c =>
      reach p f fuel (i + 1) (p.front f (i + 1) (takers.filterMap (p.taken? c))) best

/-- Where the longest match from a place stops. -/
def stop? (p : Program) (f : Field) (i : Nat) : Option Nat :=
  reach p f (f.text.size + 1 - i) i (p.front f i [p.start]) none

/-! ## The preferred way -/

/-- A way on which a match may go on. -/
structure Way where
  step : Nat
  place : Nat
  slots : Array (Option Nat)
  deriving Inhabited

/-- The ways on from a step, preferred ones first; none behind the end of a match. -/
def ways (p : Program) (f : Field) (w : Way) : List Way :=
  let go (next : Nat) : Way := { w with step := next }
  match p.steps.getD w.step .accept with
  | .accept => []
  | .take _ _ | .takeAmong _ _ =>
    match f.text[w.place]? with
    | some c =>
      ((p.taken? c w.step).map fun next => { w with step := next, place := w.place + 1 }).toList
    | none => []
  | .check a next => if f.holds a w.place then [go next] else []
  | .fork first second => [go first, go second]
  | .round slot body next =>
    if w.slots.getD slot none = some w.place then [go next]
    else [{ w with step := body, slots := w.slots.set! slot (some w.place) }, go next]
  | .note slot next => [{ w with step := next, slots := w.slots.set! slot (some w.place) }]
  | .again number next =>
    match w.slots.getD (2 * number) none, w.slots.getD (2 * number + 1) none with
    | some a, some b =>
      if f.text.extract a b = f.text.extract w.place (w.place + (b - a)) then
        [{ w with step := next, place := w.place + (b - a) }]
      else []
    | _, _ => []

/-- Whether a way is at the end of a match. -/
def isEnd (p : Program) (w : Way) : Bool :=
  match p.steps.getD w.step .accept with
  | .accept => true
  | _ => false

/-- The slots of the preferred way to a known stop. -/
def trace (p : Program) (f : Field) (start stop : Nat) :
    Nat → List Way → Array Bool → Array (Option Nat)
  | 0, _, _ => #[]
  | _, [], _ => #[]
  | fuel + 1, w :: stack, seen =>
    let index := (w.place - start) * p.steps.size + w.step
    if stop < w.place ∨ seen.getD index true then trace p f start stop fuel stack seen
    else if w.place = stop ∧ p.isEnd w then w.slots
    else trace p f start stop fuel (p.ways f w ++ stack) (seen.set! index true)

/-- The first of the longest matches on some ways. -/
def explore (p : Program) (f : Field) :
    Nat → List Way → Option (Nat × Array (Option Nat)) → Option (Nat × Array (Option Nat))
  | 0, _, best => best
  | _, [], best => best
  | fuel + 1, w :: stack, best =>
    if p.isEnd w then
      let isBetter : Bool := match best with
        | some (stop, _) => stop < w.place
        | none => true
      explore p f fuel stack (if isBetter then some (w.place, w.slots) else best)
    else explore p f fuel (p.ways f w ++ stack) best

/-- How many steps are tried when all ways have to be. -/
def effort : Nat := 0x40000

/-- No slot set yet. -/
def noSlots (p : Program) : Array (Option Nat) := Array.replicate p.slots none

/-- The match that starts at a place. -/
def matchAt? (p : Program) (f : Field) (i : Nat) : Option Match :=
  let first : Way := ⟨p.start, i, p.noSlots⟩
  if p.asksAgain then
    (explore p f effort [first] none).map fun (stop, slots) => ⟨i, stop, slots⟩
  else
    (p.stop? f i).map fun stop =>
      if p.groups = 0 then ⟨i, stop, #[]⟩
      else
        let size := (stop - i + 1) * p.steps.size
        ⟨i, stop, trace p f i stop (3 * size + 2) [first] (Array.replicate size false)⟩

/-- The first match that starts at one of so many places. -/
def searchFrom (p : Program) (f : Field) : Nat → Nat → Option Match
  | 0, _ => none
  | fuel + 1, i =>
    match p.matchAt? f i with
    | some m => some m
    | none => searchFrom p f fuel (i + 1)

/-- The first match that starts at a place or behind it. -/
def search (p : Program) (f : Field) (i : Nat) : Option Match :=
  p.searchFrom f (f.text.size + 1 - i) i

/-- Whether there is a match anywhere. -/
def occurs (p : Program) (f : Field) : Bool := (p.search f 0).isSome

end Program

end TextIntake.Tool.Pattern
