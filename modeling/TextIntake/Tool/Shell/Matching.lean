import TextIntake.Tool.Shell.State

set_option autoImplicit false

/-!
# Matching

Patterns are matched against whole texts and against the names in directories.  A
backslash guards the character behind it.  Directories are listed in the order of
their names, and a dot at the start of a name has to be matched by a dot.
-/

namespace TextIntake.Tool.Shell

/-- A character or a range in a set. -/
inductive Member where
  | range (first last : Char)
  | named (characters : Text)
  deriving DecidableEq, Repr, Inhabited

/-- What matches one character, or any text. -/
inductive Item where
  | one (c : Char)
  | any
  | several
  | set (isNegated : Bool) (members : List Member)
  deriving DecidableEq, Repr, Inhabited

namespace Matching

/-- The place of a character in the order of ranges, in which octets from 128 on come
first. -/
def rank (c : Char) : Nat := (c.toNat + 128) % 256

/-- Whether a member covers a character. -/
def covers (c : Char) : Member → Bool
  | .range first last => rank first ≤ rank c && rank c ≤ rank last
  | .named characters => characters.contains c

/-- Reads a class such as `[:alpha:]` behind its first bracket. -/
def class? (t : Text) : Option (Text × Text) :=
  match t with
  | ':' :: t =>
    let name := t.takeWhile (·.isLower)
    match t.drop name.length, Tool.class? name with
    | ':' :: ']' :: rest, some characters => some (characters, rest)
    | _, _ => none
  | _ => none

/-- Drops a backslash in front of a character. -/
def unguarded (t : Text) : Text :=
  match t with
  | '\\' :: c :: t => c :: t
  | t => t

/-- Reads the members of a set up to its closing bracket, which does not count in front of
the first member. -/
def members : Nat → Bool → Text → Option (List Member × Text)
  | 0, _, _ => none
  | fuel + 1, isFirst, t =>
    match t with
    | [] => none
    | c :: rest =>
      if c = ']' ∧ !isFirst then some ([], rest)
      else
        match if c = '[' then class? rest else none with
        | some (characters, rest) =>
          (members fuel false rest).map fun (ms, t) => (.named characters :: ms, t)
        | none =>
          match unguarded (c :: rest) with
          | [] => none
          | c :: rest =>
            match rest with
            | '-' :: x :: more =>
              if x = ']' then single fuel c rest
              else
                match unguarded (x :: more) with
                | [] => none
                | last :: more =>
                  (members fuel false more).map fun (ms, t) => (.range c last :: ms, t)
            | _ => single fuel c rest
where
  /-- A member that is one character. -/
  single (fuel : Nat) (c : Char) (rest : Text) : Option (List Member × Text) :=
    (members fuel false rest).map fun (ms, t) => (.range c c :: ms, t)

/-- Reads a set behind its opening bracket. -/
def set? (t : Text) : Option (Item × Text) :=
  let (isNegated, t) : Bool × Text :=
    match t with
    | '!' :: t => (true, t)
    | t => (false, t)
  (members (t.length + 1) true t).map fun (ms, rest) => (.set isNegated ms, rest)

/-- Reads a pattern. -/
def itemsFrom : Nat → Text → List Item
  | 0, _ => []
  | fuel + 1, t =>
    match t with
    | [] => []
    | '*' :: t => .several :: itemsFrom fuel t
    | '?' :: t => .any :: itemsFrom fuel t
    | '\\' :: c :: t => .one c :: itemsFrom fuel t
    | '[' :: t =>
      match set? t with
      | some (item, rest) => item :: itemsFrom fuel rest
      | none => .one '[' :: itemsFrom fuel t
    | c :: t => .one c :: itemsFrom fuel t

/-- Reads a pattern. -/
def items (pattern : Text) : List Item := itemsFrom (pattern.length + 1) pattern

/-- All ends of a text, the whole text first. -/
def ends : Text → List Text
  | [] => [[]]
  | c :: t => (c :: t) :: ends t

/-- Whether items match a text as a whole. -/
def fits : List Item → Text → Bool
  | [], t => t.isEmpty
  | .several :: items, t => (ends t).any (fits items)
  | .one c :: items, x :: t => x == c && fits items t
  | .any :: items, _ :: t => fits items t
  | .set isNegated ms :: items, x :: t => ms.any (covers x) != isNegated && fits items t
  | _ :: _, [] => false

/-! ## Directories -/

/-- Whether a bracket is closed before the next slash. -/
def isClosed : Nat → Text → Bool
  | 0, _ => false
  | fuel + 1, t =>
    match (match t with | '\\' :: t => t | t => t) with
    | [] => false
    | c :: rest =>
      if c = '/' then false
      else if rest.head? = some ']' then true
      else isClosed fuel rest

/-- Whether a name in a path holds what can match several names. -/
def isPattern : Text → Bool
  | [] => false
  | '*' :: _ | '?' :: _ => true
  | '\\' :: _ :: t => isPattern t
  | '[' :: t =>
    isClosed (t.length + 1) (match t with | '!' :: t => t | t => t) || isPattern t
  | _ :: t => isPattern t

/-- The names that a path goes through, each with the slashes in front of it. -/
def parts (pattern : Text) : List (Text × Text) :=
  let slashed := (Path.splitOn '/' pattern)
  gather [] slashed
where
  /-- Puts slashes in front of the names behind them. -/
  gather (slashes : Text) : List Text → List (Text × Text)
    | [] => []
    | [name] => [(slashes, name)]
    | name :: names =>
      if name = [] then gather ('/' :: slashes) names
      else (slashes, name) :: gather ['/'] names

/-- A name without its backslashes. -/
def plainName : Text → Text
  | [] => []
  | '\\' :: c :: t => c :: plainName t
  | c :: t => c :: plainName t

/-- The names in a directory that a pattern matches. -/
def namesIn (m : Machine) (directory pattern : Text) : List Text :=
  let listed := ['.'] :: ['.', '.'] :: m.list (if directory = [] then ['.'] else directory)
  let isThere : Bool :=
    match m.find (if directory = [] then ['.'] else directory) with
    | .ok (_, .directory) => true
    | _ => false
  let wantsDot := (plainName pattern).head? == some '.'
  let items := items pattern
  if isThere then
    listed.filter fun name => (wantsDot || name.head? != some '.') && fits items name
  else []

/-- The paths that a pattern matches behind a directory.  The last name has to be there. -/
def pathsFrom (m : Machine) : List (Text × Text) → Text → List Text
  | [], directory => if directory = [] then [] else [directory]
  | (slashes, name) :: rest, directory =>
    let before := directory ++ slashes
    if isPattern name then
      (namesIn m before name).flatMap fun found => pathsFrom m rest (before ++ found)
    else
      let path := before ++ plainName name
      if rest.isEmpty then if (m.find path).isOk then [path] else []
      else pathsFrom m rest path

/-- Sorts texts by their octets. -/
def sorted (ts : List Text) : List Text := ts.mergeSort fun a b => compareText a b != .gt

/-- The paths that a pattern matches, in order.  Without anything that can match several
names there are none. -/
def paths (m : Machine) (pattern : Text) : List Text :=
  let ps := parts pattern
  if ps.any fun (_, name) => isPattern name then sorted (pathsFrom m ps []) else []

end Matching

end TextIntake.Tool.Shell
