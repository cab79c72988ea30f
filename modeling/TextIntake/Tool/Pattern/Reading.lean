import TextIntake.Tool.Pattern.Basic

set_option autoImplicit false

/-!
# Written patterns

Patterns are written in dialects.  In the basic one a backslash gives parentheses,
braces and bars their meaning, in the extended one it takes the meaning away.  A
reader always knows the next token; what a token means may depend on where it stands.
-/

namespace TextIntake.Tool.Pattern

/-! ## Dialects -/

/-- A dialect in which patterns are written. -/
structure Dialect where
  /-- groups and alternatives need a backslash -/
  escapedGroups : Bool
  /-- the repetitions `+` and `?` need a backslash -/
  escapedRepeats : Bool
  /-- repetitions can be counted between braces, which need a backslash when groups do -/
  counts : Bool := true
  /-- `^` and `$` are anchors wherever they stand -/
  anchorsAnywhere : Bool
  /-- a repetition with nothing to repeat is a fault -/
  refusesIdleRepeats : Bool
  /-- a star or a count behind a repetition is a fault, and so is a count with nothing to
  repeat -/
  refusesDoubleRepeats : Bool
  /-- brackets may hold named classes -/
  classes : Bool := true
  /-- a point stands for a line feed too -/
  pointHoldsLineFeed : Bool := true
  /-- a bracket of what is excluded also excludes the line feed -/
  exclusionHoldsLineFeed : Bool := true
  /-- the case of letters does not count -/
  foldCase : Bool := false
  /-- nothing but what the standard asks for has a meaning -/
  strict : Bool := false
  deriving DecidableEq, Repr, Inhabited

namespace Dialect

/-- The basic dialect. -/
def basic : Dialect where
  escapedGroups := true
  escapedRepeats := true
  anchorsAnywhere := false
  refusesIdleRepeats := false
  refusesDoubleRepeats := true

/-- The extended dialect. -/
def extended : Dialect where
  escapedGroups := false
  escapedRepeats := false
  anchorsAnywhere := true
  refusesIdleRepeats := true
  refusesDoubleRepeats := false

/-- The dialect of editors, with bare `+` and `?` and neither counts nor classes. -/
def editor : Dialect where
  escapedGroups := true
  escapedRepeats := false
  counts := false
  anchorsAnywhere := false
  refusesIdleRepeats := false
  refusesDoubleRepeats := false
  classes := false
  pointHoldsLineFeed := false

/-- A character as it is compared. -/
def fold (d : Dialect) (c : Char) : Char := if d.foldCase then c.toUpper else c

end Dialect

/-! ## Faults -/

/-- Why a text is no pattern. -/
inductive Fault where
  | badPattern
  | badCollation
  | badClassName
  | trailingBackslash
  | badReference
  | openBracket
  | openGroup
  | openBrace
  | badCount
  | badRange
  | nothingToRepeat
  | tooLarge
  | closedTooOften
  /-- a class name between single brackets -/
  | bareClass
  deriving DecidableEq, Repr, Inhabited

/-- The wording of a fault. -/
def Fault.message : Fault → String
  | badPattern => "Invalid regular expression"
  | badCollation => "Invalid collation character"
  | badClassName => "Invalid character class name"
  | trailingBackslash => "Trailing backslash"
  | badReference => "Invalid back reference"
  | openBracket => "Unmatched [, [^, [:, [., or [="
  | openGroup => "Unmatched ( or \\("
  | openBrace => "Unmatched \\\x7b"
  | badCount => "Invalid content of \\\x7b\\\x7d"
  | badRange => "Invalid range end"
  | nothingToRepeat => "Invalid preceding regular expression"
  | tooLarge => "Regular expression too big"
  | closedTooOften => "Unmatched ) or \\)"
  | bareClass => "character class syntax is [[:space:]], not [:space:]"

/-! ## Tokens -/

/-- A token of a written pattern. -/
inductive Token where
  | char (c : Char)
  | among (s : OctetSet)
  | point
  | bracket
  | anchor (a : Anchor)
  | again (number : Nat)
  | opening
  | closing
  | bar
  /-- a repetition that is written as a character -/
  | repeats (c : Char)
  | openBrace
  | closeBrace
  | backslash
  | done
  deriving Inhabited

/-- The octets of words. -/
def wordSet : OctetSet := .ofPredicate isNamePart

/-- Blank octets. -/
def spaceSet : OctetSet := .ofPredicate isSpace

/-- The token behind a backslash. -/
def escapedToken (d : Dialect) (c : Char) : Token :=
  if c = '|' ∧ d.escapedGroups ∧ !d.strict then .bar
  else if c = '(' ∧ d.escapedGroups then .opening
  else if c = ')' ∧ d.escapedGroups then .closing
  else if (c = '+' ∨ c = '?') ∧ d.escapedRepeats ∧ !d.strict then .repeats c
  else if c = '\x7b' ∧ d.counts ∧ d.escapedGroups then .openBrace
  else if c = '\x7d' ∧ d.counts ∧ d.escapedGroups then .closeBrace
  else if '1' ≤ c ∧ c ≤ '9' then .again (c.toNat - 0x30)
  else if d.strict then .char (d.fold c)
  else if c = '<' then .anchor .wordStart
  else if c = '>' then .anchor .wordEnd
  else if c = 'b' then .anchor .wordEdge
  else if c = 'B' then .anchor .notWordEdge
  else if c = Char.ofNat 0x60 then .anchor .bufferStart
  else if c = '\'' then .anchor .bufferEnd
  else if c = 'w' then .among wordSet
  else if c = 'W' then .among wordSet.complement
  else if c = 's' then .among spaceSet
  else if c = 'S' then .among spaceSet.complement
  else .char (d.fold c)

/-- Whether an end of line can stand in front of a text, as an anchor. -/
def endsLine (d : Dialect) (rest : Text) : Bool :=
  match rest with
  | [] => true
  | '\\' :: c :: _ => d.escapedGroups && (c == '|' || c == ')')
  | c :: _ => !d.escapedGroups && (c == '|' || c == ')')

/-- The first token of a text, and how many characters it takes.  `here` tells whether an
anchor may stand here. -/
def token (d : Dialect) (here : Bool) : Text → Token × Nat
  | [] => (.done, 0)
  | ['\\'] => (.backslash, 1)
  | '\\' :: c :: _ => (escapedToken d c, 2)
  | c :: rest =>
    let t : Token :=
      if c = '*' then .repeats c
      else if (c = '+' ∨ c = '?') ∧ !d.escapedRepeats ∧ !d.strict then .repeats c
      else if c = '\x7b' ∧ d.counts ∧ !d.escapedGroups then .openBrace
      else if c = '\x7d' ∧ d.counts ∧ !d.escapedGroups then .closeBrace
      else if c = '|' ∧ !d.escapedGroups ∧ !d.strict then .bar
      else if c = '(' ∧ !d.escapedGroups then .opening
      else if c = ')' ∧ !d.escapedGroups then .closing
      else if c = '[' then .bracket
      else if c = '.' then .point
      else if c = '^' ∧ (d.anchorsAnywhere ∨ here) then .anchor .lineStart
      else if c = '$' ∧ (d.anchorsAnywhere ∨ endsLine d rest) then .anchor .lineEnd
      else .char (d.fold c)
    (t, 1)

/-! ## Brackets -/

/-- A part of a bracket expression. -/
inductive Member where
  | char (c : Char)
  /-- a character that was written as a symbol -/
  | symbol (name : Text)
  | same (name : Text)
  | named (name : Text)
  deriving DecidableEq, Repr, Inhabited

/-- The longest name inside a bracket. -/
def maxBracketName : Nat := 32

/-- Reads a name up to `delimiter` and a bracket. -/
def bracketName (delimiter : Char) : Nat → Text → Except Fault (Text × Text)
  | 0, _ => .error .openBracket
  | _, [] | _, [_] => .error .openBracket
  | n + 1, c :: e :: t =>
    if c = delimiter ∧ e = ']' then .ok ([], t)
    else (bracketName delimiter n (e :: t)).map fun (name, rest) => (c :: name, rest)

/-- Reads one member.  A hyphen is one where `hyphen` allows it, or where a bracket
follows. -/
def member (d : Dialect) (hyphen : Bool) (t : Text) : Except Fault (Member × Text) :=
  match t with
  | [] => .error .openBracket
  | '[' :: '.' :: t =>
    (bracketName '.' maxBracketName t).map fun (name, rest) => (.symbol name, rest)
  | '[' :: '=' :: t =>
    (bracketName '=' maxBracketName t).map fun (name, rest) => (.same name, rest)
  | '[' :: t =>
    match t with
    | ':' :: inside =>
      if d.classes then
        (bracketName ':' maxBracketName inside).map fun (name, rest) => (.named name, rest)
      else .ok (.char '[', t)
    | _ => .ok (.char '[', t)
  | '-' :: '-' :: '-' :: t => .ok (.char '-', t)
  | '-' :: t =>
    if hyphen ∨ t.head? = some ']' then .ok (.char '-', t) else .error .badRange
  | c :: t => .ok (.char (d.fold c), t)

/-- The character that an end of a range stands for. -/
def rangeEnd : Member → Except Fault Char
  | .char c => .ok c
  | .symbol [c] => .ok c
  | .symbol _ => .error .badCollation
  | _ => .error .badRange

/-- The octets of a member that is no range. -/
def memberOctets (d : Dialect) : Member → Except Fault Text
  | .char c => .ok [c]
  | .symbol [c] | .same [c] => .ok [d.fold c]
  | .symbol _ | .same _ => .error .badCollation
  | .named name =>
    let letters := ["upper".toList, "lower".toList].contains name
    match class? (if d.foldCase && letters then "alpha".toList else name) with
    | some cs => .ok cs
    | none => .error .badClassName

/-- Reads the members of a bracket expression up to its closing bracket: the octets, and
what stands behind. -/
def members (d : Dialect) : Nat → Bool → Text → Except Fault (Text × Text)
  | 0, _, _ => .error .openBracket
  | fuel + 1, first, t => do
    let (start, rest) ←
      match first, t with
      | true, ']' :: rest => pure (.char ']', rest)
      | _, _ => member d first t
    let isSingle := match start with
      | .char _ | .symbol _ => true
      | _ => false
    let (octets, rest) ←
      match rest with
      | '-' :: behind =>
        let isRange := isSingle && behind.head? != some ']' && !(behind.take 2 == ['-', '-'])
        if isSingle ∧ behind = [] then throw .openBracket
        else if isRange then do
          let (stop, rest) ← member d true behind
          let a ← rangeEnd start
          let b ← rangeEnd stop
          if b < a then throw .badRange
          pure (range a b, rest)
        else pure (← memberOctets d start, rest)
      | _ => pure (← memberOctets d start, rest)
    match rest with
    | [] => throw .openBracket
    | ']' :: rest => return (octets, rest)
    | _ =>
      let (more, rest) ← members d fuel false rest
      return (octets ++ more, rest)

/-- Whether the inside of a bracket is a class name between colons. -/
def isBareClass (t : Text) : Bool :=
  let inside := t.takeWhile (· ≠ ']')
  inside.head? == some ':' && inside.getLast? == some ':' && inside.any (· != ':') &&
    !inside.contains '['

/-- Reads a bracket expression behind its bracket. -/
def bracket (d : Dialect) (t : Text) : Except Fault (OctetSet × Text) := do
  let (negated, inside) : Bool × Text :=
    match t with
    | '^' :: inside => (true, inside)
    | inside => (false, inside)
  if inside = [] then throw .badPattern
  let (octets, rest) ← members d (inside.length + 1) true inside
  if d.classes ∧ isBareClass inside then throw .bareClass
  if negated then
    let excluded := if d.exclusionHoldsLineFeed then octets else '\n' :: octets
    return ((OctetSet.ofText excluded).complement, rest)
  else return (.ofText octets, rest)

/-! ## The reader -/

/-- Where the reader of a pattern stands. -/
structure Reader where
  rest : Text
  /-- the token in front of the rest -/
  next : Token := .done
  /-- the text of that token and all that follows -/
  here : Text := []
  groups : Nat := 0
  /-- the groups that are closed, so that they may be asked for again -/
  closed : List Nat := []
  deriving Inhabited

/-- What reads a part of a pattern. -/
abbrev Reading := StateT Reader (Except Fault)

/-- Goes on to the next token. -/
def advance (d : Dialect) (anchors : Bool) : Reading Unit :=
  modify fun r =>
    let (next, length) := token d anchors r.rest
    { r with next, rest := r.rest.drop length, here := r.rest }

/-- The largest number of repetitions. -/
def maxRepeat : Nat := 32767

/-- Reads a number inside braces: the digits up to a comma, a brace or anything else. -/
def countNumber (t : Text) : Option Nat × Text :=
  let digits := t.takeWhile Character.isDecimalDigit
  (number? digits, t.drop digits.length)

/-- Reads the inside of braces: the bounds, and what stands behind the closing brace. -/
def count (d : Dialect) (t : Text) : Except Fault (Nat × Option Nat × Text) :=
  let closing (t : Text) : Option Text :=
    match d.escapedGroups, t with
    | true, '\\' :: '\x7d' :: rest => some rest
    | false, '\x7d' :: rest => some rest
    | _, _ => none
  let refused (t : Text) : Except Fault (Nat × Option Nat × Text) :=
    -- what goes on without a closing brace is open; all else is no count
    let rec isOpen : Text → Bool
      | [] => true
      | c :: t => if (closing (c :: t)).isSome || c == ',' then false else isOpen t
    .error (if isOpen t then .openBrace else .badCount)
  let (least, t) := countNumber t
  match closing t, t with
  | some rest, _ =>
    match least with
    | some n => if maxRepeat < n then .error .tooLarge else .ok (n, some n, rest)
    | none => .error .badCount
  | none, ',' :: t =>
    let (most, t) := countNumber t
    match closing t with
    | none => refused t
    | some rest =>
      let least := least.getD 0
      match most with
      | none => if maxRepeat < least then .error .tooLarge else .ok (least, none, rest)
      | some n =>
        if n < least then .error .badCount
        else if maxRepeat < n then .error .tooLarge
        else .ok (least, some n, rest)
  | none, _ => refused t

/-- Puts two patterns one behind the other. -/
def join : Pattern → Pattern → Pattern
  | empty, q => q
  | p, empty => p
  | p, q => both p q

/-- A repetition; nothing repeated is nothing. -/
def iterated (p : Pattern) (least : Nat) (most : Option Nat) : Pattern :=
  match p, most with
  | _, some 0 => empty
  | empty, _ => empty
  | p, most => repeated p least most

/-- Reads the repetition that comes next, of a pattern. -/
def repetition (d : Dialect) (p : Pattern) : Reading Pattern := do
  match (← get).next with
  | .repeats c =>
    advance d false
    return if c = '*' then iterated p 0 none
      else if c = '+' then iterated p 1 none
      else iterated p 0 (some 1)
  | _ =>
    let (least, most, rest) ← count d (← get).rest
    modify fun r => { r with rest }
    advance d false
    return iterated p least most

/-- Reads all repetitions of a pattern. -/
def repetitions (d : Dialect) : Nat → Pattern → Reading Pattern
  | 0, p => return p
  | fuel + 1, p => do
    match (← get).next with
    | .repeats _ | .openBrace =>
      let p ← repetition d p
      match d.refusesDoubleRepeats, (← get).next with
      | true, .repeats '*' | true, .openBrace => throw .nothingToRepeat
      | _, _ => repetitions d fuel p
    | _ => return p

/-- Whether an expression ends in front of a token, inside so many groups. -/
def endsBranch (depth : Nat) : Token → Bool
  | .bar | .done => true
  | .closing => depth != 0
  | _ => false

/-- The character at which the next token starts, without its backslash. -/
def literal (r : Reader) : Char :=
  match r.here with
  | '\\' :: c :: _ => c
  | c :: _ => c
  | [] => '\\'

mutual

/-- Reads alternatives. -/
def alternatives (d : Dialect) : Nat → Nat → Reading Pattern
  | 0, _ => throw .tooLarge
  | fuel + 1, depth => do
    let closed := (← get).closed
    let first ← branch d fuel depth
    moreAlternatives d fuel depth closed first

/-- Reads the alternatives behind the first.  Each can ask only for groups that were closed
in front of all of them. -/
def moreAlternatives (d : Dialect) : Nat → Nat → List Nat → Pattern → Reading Pattern
  | 0, _, _, _ => throw .tooLarge
  | fuel + 1, depth, closed, first => do
    match (← get).next with
    | .bar =>
      advance d true
      let before := (← get).closed
      if endsBranch depth (← get).next then
        moreAlternatives d fuel depth closed (either first empty)
      else
        modify fun r => { r with closed }
        let second ← branch d fuel depth
        modify fun r => { r with closed := before ++ r.closed }
        moreAlternatives d fuel depth closed (either first second)
    | _ => return first

/-- Reads expressions one behind the other. -/
def branch (d : Dialect) : Nat → Nat → Reading Pattern
  | 0, _ => throw .tooLarge
  | fuel + 1, depth => do
    let first ← expression d fuel depth
    if endsBranch depth (← get).next then return first
    return join first (← branch d fuel depth)

/-- Reads an expression with its repetitions.  An anchor takes none. -/
def expression (d : Dialect) : Nat → Nat → Reading Pattern
  | 0, _ => throw .tooLarge
  | fuel + 1, depth => do
    let plain (p : Pattern) : Reading Pattern := do
      advance d false
      repetitions d fuel p
    let r ← get
    match r.next with
    | .char c => plain (one c)
    | .among s => plain (among s)
    | .point =>
      plain (among (.ofPredicate fun c => d.pointHoldsLineFeed || c != '\n'))
    | .bracket =>
      let (s, rest) ← bracket d r.rest
      modify fun r => { r with rest }
      plain (among s)
    | .anchor a =>
      advance d true
      return anchor a
    | .again n =>
      if !r.closed.contains n then throw .badReference
      plain (again n)
    | .opening =>
      let number := r.groups + 1
      modify fun r => { r with groups := number }
      advance d true
      let inside ←
        match (← get).next with
        | .closing => pure empty
        | _ => alternatives d fuel (depth + 1)
      match (← get).next with
      | .closing =>
        modify fun r => { r with closed := number :: r.closed }
        plain (group number inside)
      | _ => throw .openGroup
    | .openBrace =>
      if d.refusesDoubleRepeats ∨ d.refusesIdleRepeats then throw .nothingToRepeat
      plain (one (literal r))
    | .repeats _ =>
      if d.refusesIdleRepeats then throw .nothingToRepeat
      plain (one (literal r))
    | .closing => if d.strict then plain (one ')') else throw .closedTooOften
    | .closeBrace => plain (one '\x7d')
    | .backslash => throw .trailingBackslash
    | .bar | .done => return empty

end

/-- Reads a pattern: the pattern, and the number of its groups. -/
def read (d : Dialect) (t : Text) : Except Fault (Pattern × Nat) := do
  let whole : Reading Pattern := do
    advance d true
    alternatives d (4 * t.length + 8) 0
  let (p, r) ← whole.run { rest := t }
  return (p, r.groups)

end TextIntake.Tool.Pattern
