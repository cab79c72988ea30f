import TextIntake.Text.Basic

set_option autoImplicit false

/-!
# Paths

A path is a text in which `/` separates names.  Empty names and the name `.`
do not count.  This module reads off the file name and the extension.
-/

namespace TextIntake

/-- A path as it was written. -/
abbrev Path := Text

namespace Path

/-- The pieces between the occurrences of `separator`; never empty. -/
def splitOn (separator : Char) : Text → List Text
  | [] => [[]]
  | c :: t =>
    if c = separator then [] :: splitOn separator t
    else
      match splitOn separator t with
      | [] => [[c]]
      | piece :: pieces => (c :: piece) :: pieces

/-- The names that a path goes through, `..` included. -/
def names (p : Path) : List Text := (splitOn '/' p).filter fun n => n ≠ [] ∧ n ≠ ['.']

/-- Whether a path starts at the root. -/
def isAbsolute (p : Path) : Bool := p.head? == some '/'

/-- The last name of a path, unless that is `..`. -/
def fileName? (p : Path) : Option Text := do
  let name ← (names p).getLast?
  if name = ['.', '.'] then none else some name

/-- The part of the file name behind its last dot.  A dot at the start of the name
begins no extension. -/
def extension? (p : Path) : Option Text := do
  let name ← fileName? p
  match (splitOn '.' name).reverse with
  | last :: before :: earlier => if before = [] ∧ earlier = [] then none else some last
  | _ => none

end Path

end TextIntake
