import TextIntake.Tool.Shell.Matching

set_option autoImplicit false

/-!
# Fields

What an expanded word is made of, and how it is split into fields.  Only regions that
come from substitutions are split.  Separators that are blank count together; any other
separator ends a field of its own.  The parameters between double quotes are kept apart
by NULs.
-/

namespace TextIntake.Tool.Shell

/-- A part of an expanded word. -/
inductive Glyph where
  | plain (c : Char)
  /-- a character that neither splits nor matches anything but itself -/
  | guarded (c : Char)
  /-- the start or the end of a quotation -/
  | mark
  deriving DecidableEq, Repr, Inhabited

namespace Glyph

/-- The character of a glyph. -/
def char? : Glyph → Option Char
  | plain c | guarded c => some c
  | mark => none

/-- What glyphs show. -/
def text (gs : List Glyph) : Text := gs.filterMap char?

/-- Glyphs as a pattern.  A plain backslash guards what follows. -/
def pattern : List Glyph → Text
  | [] => []
  | .plain '\\' :: .guarded c :: gs => '\\' :: c :: pattern gs
  | .plain c :: gs => c :: pattern gs
  | .guarded c :: gs => '\\' :: c :: pattern gs
  | .mark :: gs => pattern gs

/-- The character that keeps parameters apart. -/
def gap : Char := Char.ofNat 0

end Glyph

/-- A part of an expanded word that is split. -/
structure Region where
  start : Nat
  stop : Nat
  /-- whether only gaps split it -/
  onlyGaps : Bool := false
  deriving DecidableEq, Repr, Inhabited

/-- An expanded word. -/
structure Expanded where
  glyphs : Array Glyph := #[]
  /-- the regions, the last first -/
  regions : List Region := []
  deriving Inhabited

namespace Expanded

/-- More glyphs. -/
def append (x : Expanded) (gs : List Glyph) : Expanded := { x with glyphs := x.glyphs ++ gs }

/-- One more region, from a place to the end. -/
def region (x : Expanded) (start : Nat) (onlyGaps : Bool) : Expanded :=
  { x with regions := ⟨start, x.glyphs.size, onlyGaps⟩ :: x.regions }

end Expanded

/-- How far the splitting is. -/
structure Splitting where
  /-- the fields that are complete, the last first -/
  fields : List (List Glyph) := []
  /-- the glyphs of the field that is next, the last first -/
  current : List Glyph := []
  /-- how many fields there may be; the last one takes all that is left -/
  most : Option Nat := none
  /-- how much of the last field stays if nothing else follows -/
  kept : Option Nat := none
  /-- whether the last separator was blank -/
  wasBlank : Bool := false
  /-- whether the last region is split by gaps only -/
  onlyGaps : Bool := false
  /-- whether blank separators are being left out behind a field -/
  isSkipping : Bool := false
  deriving Inhabited

namespace Splitting

/-- One more glyph of the field. -/
def keep (s : Splitting) (g : Glyph) : Splitting := { s with current := g :: s.current }

/-- Takes a glyph of the last field that there may be. -/
def takeLast (s : Splitting) (g : Glyph) (separates isBlank : Bool) : Splitting :=
  let place := s.current.length
  let s := s.keep g
  if isBlank then { s with kept := some (s.kept.getD place) }
  else
    { s with
      kept := if separates && s.wasBlank then s.kept else none
      wasBlank := false }

/-- Takes a glyph that separates fields. -/
def takeSeparator (s : Splitting) (g : Glyph) (afterGaps isBlank : Bool) : Splitting :=
  let s := if afterGaps || s.onlyGaps then s else { s with wasBlank := isBlank }
  if s.current.isEmpty && s.wasBlank then s
  else
    match s.most with
    | some 1 => { s.keep g with most := some 0, kept := some s.current.length }
    | most =>
      { s with
        most := most.map (· - 1)
        fields := s.current.reverse :: s.fields
        current := []
        isSkipping := !s.onlyGaps }

/-- Takes a glyph of a region. -/
def take (separators : Text) (afterGaps : Bool) (s : Splitting) (g : Glyph) : Splitting :=
  match g.char? with
  | none => { s.keep g with isSkipping := false }
  | some c =>
    let separates := c == Glyph.gap || (!s.onlyGaps && separators.contains c)
    let isBlank := separates && (c == Glyph.gap || c == ' ' || c == '\t' || c == '\n')
    if s.most = some 0 then s.takeLast g separates isBlank
    else if s.isSkipping && isBlank then s
    else if s.isSkipping && separates && s.wasBlank then { s with wasBlank := false }
    else
      let s := { s with isSkipping := false }
      if separates then s.takeSeparator g afterGaps isBlank else s.keep g

/-- Takes a region, behind glyphs that stand outside of all regions. -/
def takeRegion (separators : Text) (glyphs : Array Glyph) (s : Splitting) (done : Nat)
    (r : Region) : Splitting :=
  let s := (glyphs.extract done r.start).foldl keep { s with isSkipping := false }
  let afterGaps := s.onlyGaps
  let s := { s with onlyGaps := r.onlyGaps, wasBlank := false }
  let s := (glyphs.extract r.start r.stop).foldl (take separators afterGaps) s
  { s with isSkipping := false }

/-- Splits regions one behind the other. -/
def takeRegions (separators : Text) (glyphs : Array Glyph) :
    Splitting → Nat → List Region → Splitting
  | s, done, [] => (glyphs.extract done glyphs.size).foldl keep s
  | s, done, r :: rs =>
    takeRegions separators glyphs (takeRegion separators glyphs s done r) (max done r.stop) rs

/-- The fields of an expanded word, at most so many of them. -/
def split (separators : Text) (most : Option Nat) (x : Expanded) : List (List Glyph) :=
  let s := takeRegions separators x.glyphs { most } 0 x.regions.reverse
  let current := s.current.reverse
  let last := match s.kept with
    | some n => current.take n
    | none => current
  if last.isEmpty && !s.onlyGaps then s.fields.reverse else (last :: s.fields).reverse

end Splitting

end TextIntake.Tool.Shell
