import TextIntake.Tool.Sorting.Order

set_option autoImplicit false

/-!
# Keys

A key is a part of a line by which lines are ordered, and the way in which it is
compared.  Its ends are given by fields and characters in them.
-/

namespace TextIntake.Tool.Sorting

/-- What is compared. -/
inductive Measure where
  | text
  | number
  | floating
  | unit
  | month
  | version
  | random
  deriving DecidableEq, Repr, Inhabited

/-- What is left out of a comparison. -/
inductive Leaving where
  | nothing
  /-- all but blanks, letters and digits -/
  | marks
  /-- what does not print -/
  | unprintable
  deriving DecidableEq, Repr, Inhabited

/-- How keys are compared. -/
structure Manner where
  measures : List Measure := []
  leaving : Leaving := .nothing
  folds : Bool := false
  skipsAtStart : Bool := false
  skipsAtEnd : Bool := false
  reversed : Bool := false
  deriving DecidableEq, Repr, Inhabited

/-- Whether nothing but the direction is said about the comparison. -/
def Manner.isPlain (m : Manner) : Bool := { m with reversed := false } == {}

/-- Where a key starts and where it ends; a field that is not given is the end of the line. -/
structure Span where
  field : Nat := 0
  offset : Nat := 0
  lastField : Option Nat := none
  lastOffset : Nat := 0
  deriving DecidableEq, Repr, Inhabited

/-- A key. -/
structure Key where
  span : Span := {}
  manner : Manner := {}
  deriving DecidableEq, Repr, Inhabited

/-! ## Fields -/

/-- The text behind so many fields, which a character separates. -/
def behindSeparated (separator : Char) : Nat → Text → Text
  | 0, t => t
  | n + 1, t => behindSeparated separator n ((t.dropWhile (· ≠ separator)).drop 1)

/-- The text behind so many fields, each with the blanks in front of it. -/
def behindBlank : Nat → Text → Text
  | 0, t => t
  | _, [] => []
  | n + 1, t => behindBlank n ((t.dropWhile isBlank).dropWhile fun c => !isBlank c)

/-- The text behind so many fields. -/
def behindFields (separator : Option Char) (n : Nat) (t : Text) : Text :=
  match separator with
  | some c => if t.length < n then [] else behindSeparated c n t
  | none => behindBlank n t

/-- The text from the start of a key on. -/
def fromStart (separator : Option Char) (k : Key) (t : Text) : Text :=
  let rest := behindFields separator k.span.field t
  let rest := if k.manner.skipsAtStart then rest.dropWhile isBlank else rest
  rest.drop k.span.offset

/-- The text behind the end of a key. -/
def fromEnd (separator : Option Char) (k : Key) (t : Text) : Text :=
  match k.span.lastField with
  | none => []
  | some field =>
    if k.span.lastOffset = 0 then
      match separator with
      | some c =>
        let rest := behindFields separator field t
        rest.drop (rest.takeWhile (· ≠ c)).length
      | none => behindFields separator (field + 1) t
    else
      let rest := behindFields separator field t
      let rest := if k.manner.skipsAtEnd then rest.dropWhile isBlank else rest
      rest.drop k.span.lastOffset

/-- The text of a key in a line. -/
def Key.text (separator : Option Char) (k : Key) (t : Text) : Text :=
  let rest := fromStart separator k t
  rest.take (rest.length - (fromEnd separator k t).length)

/-! ## Comparing -/

/-- Whether a character is left out. -/
def Leaving.holds : Leaving → Char → Bool
  | nothing, _ => false
  | marks, c => !(c.isAlphanum || isBlank c)
  | unprintable, c => !isPrintable c

/-- The text of a key as it is compared. -/
def Manner.prepared (m : Manner) (t : Text) : Text :=
  let t := if m.leaving = .nothing then t else t.filter fun c => !m.leaving.holds c
  if m.folds then t.map Char.toUpper else t

/-- The order of two prepared texts, whatever the direction. -/
def Manner.order (m : Manner) (a b : Text) : Ordering :=
  if m.measures.contains .number then byNumber a b
  else if m.measures.contains .floating then byFloating a b
  else if m.measures.contains .unit then byUnit a b
  else if m.measures.contains .month then byMonth a b
  else if m.measures.contains .version then byVersion a b
  else compareText a b

/-- The order of two prepared texts. -/
def Manner.compare (m : Manner) (a b : Text) : Ordering :=
  if m.reversed then (m.order a b).swap else m.order a b

/-- A line with the texts of its keys. -/
structure Line where
  text : Text
  keys : List Text
  deriving DecidableEq, Repr, Inhabited

/-- How lines are ordered. -/
structure Rules where
  keys : List Key := []
  separator : Option Char := none
  /-- whether lines that differ in no key are put into the opposite order -/
  reversed : Bool := false
  /-- whether lines that differ in no key stay as they are -/
  stable : Bool := false
  /-- whether of lines that do not differ one is enough -/
  unique : Bool := false
  deriving DecidableEq, Repr, Inhabited

/-- A line with its keys. -/
def Rules.line (r : Rules) (t : Text) : Line where
  text := t
  keys := r.keys.map fun k => k.manner.prepared (k.text r.separator t)

/-- The order of two lines by their keys. -/
def compareKeys : List Key → List Text → List Text → Ordering
  | k :: ks, a :: as, b :: bs => thenBy (k.manner.compare a b) (compareKeys ks as bs)
  | _, _, _ => .eq

/-- The order of two lines. -/
def Rules.compare (r : Rules) (a b : Line) : Ordering :=
  let whole : Ordering :=
    let o := compareText a.text b.text
    if r.reversed then o.swap else o
  if r.keys = [] then whole
  else
    let o := compareKeys r.keys a.keys b.keys
    if o ≠ .eq ∨ r.stable ∨ r.unique then o else whole

/-- Leaves out lines that do not differ from the one in front that stays. -/
def Rules.reduced (r : Rules) (lines : List Line) : List Line :=
  (lines.foldl (fun kept line =>
    match kept with
    | last :: _ => if r.compare last line = .eq then kept else line :: kept
    | [] => [line]) []).reverse

/-- The lines in order. -/
def Rules.sorted (r : Rules) (lines : List Line) : List Line :=
  let sorted := lines.mergeSort fun a b => r.compare a b != .gt
  if r.unique then r.reduced sorted else sorted

/-- Merges lists of lines: always the least of the first lines goes first. -/
def Rules.merged (r : Rules) (lists : List (List Line)) : List Line :=
  let merged := lists.foldl (fun a b => a.merge b fun x y => r.compare x y != .gt) []
  if r.unique then r.reduced merged else merged

/-- The number of the first line that is not in order behind the one in front. -/
def Rules.disorder? (r : Rules) : Nat → List Line → Option (Nat × Line)
  | n, a :: b :: rest =>
    let o := r.compare a b
    if o = .gt ∨ (r.unique ∧ o = .eq) then some (n + 2, b) else r.disorder? (n + 1) (b :: rest)
  | _, _ => none

end TextIntake.Tool.Sorting
