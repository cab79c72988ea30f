import TextIntake.Tool.Shell.Tokens

set_option autoImplicit false

/-!
# Reading words

A word is read character by character.  What a character means depends on the manner in
which it is read: plainly, inside quotes, or inside arithmetic.  Substitutions in a word
may change the manner until they end, so frames are kept on a stack.  A here-document is
read as a word that ends in front of its mark.
-/

namespace TextIntake.Tool.Shell

/-- The manners in which characters are read. -/
inductive Manner where
  | plain
  | double
  | single
  | arithmetic
  deriving DecidableEq, Repr, Inhabited

/-- What a character does to the word that is being read. -/
inductive Effect where
  | newline
  | letter
  | backslash
  | openSingle
  | openDouble
  | closeQuote
  | dollar
  | closeBrace
  | openParen
  | closeParen
  | backquote
  /-- ends a word unless a substitution is open -/
  | special
  deriving DecidableEq, Repr, Inhabited

/-- What a character does. -/
def Manner.effect (m : Manner) (c : Char) : Effect :=
  if c = '\n' then .newline
  else
    match m with
    | .single => if c = '\'' then .closeQuote else .letter
    | .plain =>
      match c with
      | '\\' => .backslash
      | '\'' => .openSingle
      | '"' => .openDouble
      | '`' => .backquote
      | '$' => .dollar
      | '\x7d' => .closeBrace
      | '<' | '>' | '(' | ')' | ';' | '&' | '|' | ' ' | '\t' => .special
      | _ => .letter
    | .double =>
      match c with
      | '\\' => .backslash
      | '"' => .closeQuote
      | '`' => .backquote
      | '$' => .dollar
      | '\x7d' => .closeBrace
      | _ => .letter
    | .arithmetic =>
      match c with
      | '\\' => .backslash
      | '`' => .backquote
      | '$' => .dollar
      | '\x7d' => .closeBrace
      | '(' => .openParen
      | ')' => .closeParen
      | _ => .letter

/-- How a part of a word is read. -/
structure Frame where
  manner : Manner := .plain
  /-- whether the part stands between double quotes -/
  isDouble : Bool := false
  /-- how many parameters are open -/
  nest : Nat := 0
  /-- how many of them stand between double quotes -/
  doubleNest : Nat := 0
  /-- whether double quotes were opened inside a parameter -/
  isInner : Bool := false
  /-- whether the frame ends with its parameter -/
  isPushed : Bool := false
  /-- how many parentheses are open -/
  parens : Nat := 0
  deriving DecidableEq, Repr, Inhabited

/-- A substitution that is open, and the pieces in front of it, the last first. -/
inductive Opened where
  | parameter (name : Text) (treatment : Treatment) (orNull : Bool) (before : List Piece)
  | arithmetic (before : List Piece)
  deriving Inhabited

/-- A word as far as it is read. -/
structure Draft where
  frame : Frame := {}
  outer : List Frame := []
  /-- the pieces of the innermost part, the last first -/
  pieces : List Piece := []
  opened : List Opened := []
  isQuoted : Bool := false
  deriving Inhabited

namespace Draft

/-- One more piece. -/
def put (d : Draft) (p : Piece) : Draft := { d with pieces := p :: d.pieces }

/-- A change of the frame. -/
def inFrame (d : Draft) (change : Frame → Frame) : Draft := { d with frame := change d.frame }

/-- A frame on top of the others. -/
def push (d : Draft) (f : Frame) : Draft := { d with frame := f, outer := d.frame :: d.outer }

/-- The draft without its top frame. -/
def pop (d : Draft) : Draft :=
  match d.outer with
  | [] => d
  | f :: outer => { d with frame := f, outer }

/-- Closes the innermost substitution. -/
def close (d : Draft) : Draft :=
  match d.opened with
  | [] => d
  | .parameter name treatment orNull before :: opened =>
    { d with pieces := .parameter name treatment orNull d.pieces.reverse :: before, opened }
  | .arithmetic before :: opened =>
    { d with pieces := .arithmetic d.pieces.reverse :: before, opened }

/-- Opens a substitution. -/
def openUp (d : Draft) (o : List Piece → Opened) : Draft :=
  { d with pieces := [], opened := o d.pieces :: d.opened }

/-- The word as a whole. -/
def word (d : Draft) : Word := d.pieces.reverse

end Draft

/-- What the reading of a word has to know. -/
structure Setting where
  /-- reads the commands of a substitution between backquotes -/
  commands : Read (Option Command)
  /-- reads the commands of a substitution between parentheses, and the closing one -/
  enclosed : Read (Option Command)
  /-- the here-document that is read -/
  here : Option Awaited := none

namespace Setting

/-- Whether quotes leave marks. -/
def marksQuotes (s : Setting) : Bool := s.here.isNone

/-- The next character in a manner. -/
def next (m : Manner) : Read (Option Char) :=
  if m = .single then Read.next else Read.nextJoined

/-! ## The end of a here-document -/

/-- Compares what comes with the rest of a mark.  When it differs, what was read goes back
but for its first character. -/
def matchMark : Text → Option Char → List (Option Char) → Read (Option Char × Bool)
  | [], c, taken => do
    if c = none ∨ c = some '\n' then
      Read.countLine
      return (none, true)
    else restore (c :: taken)
  | m :: mark, c, taken => do
    if c = some m then matchMark mark (← Read.next) (c :: taken) else restore (c :: taken)
where
  /-- Gives back what was read. -/
  restore (taken : List (Option Char)) : Read (Option Char × Bool) := do
    match taken.reverse with
    | [] => return (none, false)
    | first :: rest =>
      Read.insert (rest.filterMap id)
      return (first, false)

/-- Leaves out tabs. -/
def skipTabs : Nat → Option Char → Read (Option Char)
  | 0, c => return c
  | fuel + 1, c => do if c = some '\t' then skipTabs fuel (← Read.next) else return c

/-- At the start of a line: its first character, or none when the here-document ends. -/
def atLineStart (s : Setting) (c : Option Char) : Read (Option Char) := do
  match s.here with
  | none => return c
  | some h =>
    let c ← if h.stripsTabs then skipTabs ((← Read.remaining) + 1) c else pure c
    return (← matchMark h.mark c []).1

/-! ## Substitutions -/

/-- The text of a substitution between backquotes, the last character first. -/
def backquoted (isDouble : Bool) : Nat → Text → Read Text
  | 0, t => return t
  | fuel + 1, t => do
    match ← Read.nextJoined with
    | none => Read.refuse "EOF in backquote substitution".toList
    | some '`' => return t
    | some '\\' =>
      match ← Read.next with
      | none => backquoted isDouble fuel ('\\' :: t)
      | some c =>
        if c = '\\' ∨ c = '`' ∨ c = '$' ∨ (isDouble ∧ c = '"') then
          backquoted isDouble fuel (c :: t)
        else backquoted isDouble fuel (c :: '\\' :: t)
    | some c =>
      if c = '\n' then Read.countLine
      backquoted isDouble fuel (c :: t)

/-- Reads a substitution between backquotes. -/
def readBackquote (s : Setting) (d : Draft) : Read Draft := do
  let t ← backquoted d.frame.isDouble ((← Read.remaining) + 1) []
  let p ← get
  set { p with layers := [{ text := t.reverse }], line := 1, awaited := [] }
  let command ← s.commands
  modify fun q =>
    { q with layers := p.layers, line := p.line, awaited := p.awaited, isPushed := false }
  return d.put (.output command)

/-- Reads a substitution between parentheses. -/
def readOutput (s : Setting) (d : Draft) : Read Draft := do
  let awaited := (← get).awaited
  modify fun p => { p with awaited := [] }
  let command ← s.enclosed
  modify fun p => { p with awaited }
  return d.put (.output command)

/-- A character of a special parameter. -/
def isSpecial (c : Char) : Bool := "!#$*-?@".toList.contains c || Character.isDecimalDigit c

/-- Reads characters of a class behind `t`, which stands in reverse. -/
def collect (isPart : Char → Bool) : Nat → Text → Option Char → Read (Text × Option Char)
  | 0, t, c => return (t, c)
  | fuel + 1, t, c => do
    match c with
    | some x => if isPart x then collect isPart fuel (x :: t) (← Read.nextJoined) else return (t, c)
    | none => return (t, c)

/-- A parameter as far as it is read: its name, whether its length is asked for, and the
character behind it. -/
structure Naming where
  name : Text := []
  isLength : Bool := false
  /-- whether it cannot be read -/
  isBad : Bool := false
  behind : Option Char

/-- Reads the name of a parameter that starts with a letter or a digit. -/
def readName (isBraced isLength : Bool) (c : Char) : Read Naming := do
  let fuel := (← Read.remaining) + 1
  if isNameStart c then
    let (t, behind) ← collect isNamePart fuel [] (some c)
    return { name := t.reverse, isLength, behind }
  else
    let behind ← Read.nextJoined
    if isBraced ∧ !isLength then
      let (t, behind) ← collect Character.isDecimalDigit fuel [c] behind
      return { name := t.reverse, isLength, behind }
    else return { name := [c], isLength, behind }

/-- Reads the name of a parameter. -/
def readNaming (isBraced : Bool) (c : Option Char) : Read Naming := do
  match c with
  | none => do
    let behind ← Read.nextJoined
    return { isBad := true, behind }
  | some c =>
    if isNameStart c ∨ Character.isDecimalDigit c then readName isBraced false c
    else if c = '\x7d' then return { isBad := true, behind := some c }
    else
      let next ← Read.nextJoined
      if isBraced ∧ c = '#' then
        match next with
        | some x =>
          if isNamePart x then readName isBraced true x
          else
            let after ← Read.nextJoined
            if x = '\x7d' ∨ after ≠ some '\x7d' then
              Read.back after
              return { name := [c], behind := next }
            else return { name := [x], isLength := true, isBad := !isSpecial x, behind := after }
        | none => return { name := [c], behind := none }
      else return { name := [c], isBad := !isSpecial c, behind := next }

/-- What stands behind the name of a parameter in braces: its treatment, whether an empty
value counts as missing, and whether a pattern follows. -/
def readTreatment (c : Option Char) : Read (Treatment × Bool × Bool) := do
  let (orNull, c) ← if c = some ':' then pure (true, ← Read.nextJoined) else pure (false, c)
  let cut (treatment : Bool → Treatment) (c : Char) : Read (Treatment × Bool × Bool) := do
    match ← Read.nextJoined with
    | some x =>
      if x = c then return (treatment true, orNull, true)
      else
        Read.back (some x)
        return (treatment false, orNull, true)
    | none => return (treatment false, orNull, true)
  match c with
  | some '\x7d' => return (.plain, orNull, false)
  | some '-' => return (.otherwise, orNull, false)
  | some '+' => return (.instead, orNull, false)
  | some '?' => return (.required, orNull, false)
  | some '=' => return (.assigned, orNull, false)
  | some '%' => if orNull then return (.unknown, true, false) else cut .withoutEnd '%'
  | some '#' => if orNull then return (.unknown, true, false) else cut .withoutStart '#'
  | _ => return (.unknown, orNull, false)

/-- Reads a parameter, from the character behind the dollar sign or the brace on. -/
def readParameter (isBraced : Bool) (d : Draft) (c : Option Char) : Read Draft := do
  let n ← readNaming isBraced c
  let (treatment, orNull, isPattern) ←
    if !isBraced then do
      Read.back n.behind
      pure (Treatment.plain, false, false)
    else if n.isBad then do
      Read.back n.behind
      pure (Treatment.unknown, false, false)
    else if n.isLength then do
      Read.back n.behind
      pure (if n.behind = some '\x7d' then Treatment.length else .unknown, false, false)
    else readTreatment n.behind
  let manner : Manner := if isPattern then .plain else d.frame.manner
  let manner : Manner := if manner = .arithmetic then .double else manner
  if treatment = .plain ∧ !orNull then return d.put (.parameter n.name .plain false [])
  else
    let d :=
      if manner ≠ d.frame.manner ∨ d.frame.isInner then
        d.push { manner, isPushed := true, isDouble := manner ≠ .plain }
      else d
    let d := d.inFrame fun f =>
      { f with nest := f.nest + 1, doubleNest := f.doubleNest + (if f.isDouble then 1 else 0) }
    return d.openUp (.parameter n.name treatment orNull)

/-- Reads what a dollar sign starts. -/
def readDollar (s : Setting) (d : Draft) : Read Draft := do
  let c ← Read.nextJoined
  let isStart (c : Char) : Bool := c == '(' || c == '\x7b' || isNameStart c || isSpecial c
  if (← get).checks.mark ∨ !(c.any isStart) then
    Read.back c
    return d.put (.bare '$')
  else if c = some '(' then
    let c ← Read.nextJoined
    if c = some '(' then
      return (d.push { manner := .arithmetic, isDouble := true }).openUp .arithmetic
    else
      Read.back c
      readOutput s d
  else if c = some '\x7b' then readParameter true d (← Read.nextJoined)
  else readParameter false d c

/-! ## Characters of a word -/

/-- A letter as it stands in a frame. -/
def letter (s : Setting) (d : Draft) (c : Char) : Draft :=
  match d.frame.manner with
  | .double => d.put (.guarded c)
  | .single => d.put (if s.here.isNone || d.frame.isDouble || d.frame.nest ≠ 0 then .guarded c
      else .bare c)
  | _ => d.put (.bare c)

/-- Opens or closes a quotation by a double quote. -/
def toggle (s : Setting) (d : Draft) : Draft :=
  let d := if d.frame.nest ≠ 0 then d.inFrame fun f => { f with isInner := !f.isInner } else d
  if s.marksQuotes then d.put .quote else d

/-- Whether a backslash in front of a character stays. -/
def keepsBackslash (s : Setting) (d : Draft) (c : Char) : Bool :=
  let f := d.frame
  f.isDouble && c != '\\' && c != '`' && c != '$' &&
    (c != '"' || (s.here.isSome && f.nest == 0)) &&
    (c != '\x7d' || f.nest == 0 ||
      (if f.doubleNest ≠ 0 then f.isInner else (d.outer.head?.map Frame.isInner).getD false))

/-- Takes a backslash. -/
def takeBackslash (s : Setting) (d : Draft) : Read Draft := do
  match ← Read.next with
  | none => return d.put (.guarded '\\')
  | some c =>
    let d := if keepsBackslash s d c then d.put (.guarded '\\') else d
    return { d.put (.guarded c) with isQuoted := true }

/-- Takes a closing quote. -/
def takeQuote (s : Setting) (d : Draft) (c : Char) : Draft :=
  if s.here.isSome ∧ d.frame.nest = 0 then d.put (.bare c)
  else
    let d :=
      if d.frame.doubleNest = 0 then
        d.inFrame fun f => { f with manner := .plain, isDouble := false }
      else d
    let d := { d with isQuoted := true }
    if c = '"' then toggle s d else if s.marksQuotes then d.put .quote else d

/-- Takes a closing brace. -/
def takeBrace (d : Draft) : Draft :=
  if !d.frame.isInner ∧ 0 < d.frame.nest then
    let nest := d.frame.nest - 1
    let d := d.inFrame fun f => { f with nest }
    let d :=
      if nest = 0 ∧ d.frame.isPushed then d.pop
      else d.inFrame fun f => { f with doubleNest := f.doubleNest - 1 }
    d.close
  else d.put (if d.frame.manner = .double then .guarded '\x7d' else .bare '\x7d')

/-- Takes a closing parenthesis in arithmetic. -/
def takeParen (d : Draft) : Read Draft := do
  if 0 < d.frame.parens then
    return (d.put (.bare ')')).inFrame fun f => { f with parens := f.parens - 1 }
  else
    let c ← Read.nextJoined
    if c = some ')' then return d.pop.close
    else
      Read.back c
      return d.put (.bare ')')

/-- Takes a character; none when it ends the word. -/
def take (s : Setting) (d : Draft) (c : Char) : Read (Option Draft) := do
  match d.frame.manner.effect c with
  | .newline =>
    if d.frame.manner = .plain ∧ d.frame.nest = 0 then return none
    Read.countLine
    return some (d.put (if d.frame.manner = .double ∨ d.frame.manner = .single then .guarded c
      else .bare c))
  | .letter => return some (letter s d c)
  | .backslash => return some (← takeBackslash s d)
  | .openSingle =>
    let d := d.inFrame fun f => { f with manner := .single }
    return some (if s.marksQuotes then d.put .quote else d)
  | .openDouble =>
    return some (toggle s (d.inFrame fun f => { f with manner := .double, isDouble := true }))
  | .closeQuote => return some (takeQuote s d c)
  | .dollar => return some (← readDollar s d)
  | .closeBrace => return some (takeBrace d)
  | .openParen =>
    return some ((d.put (.bare c)).inFrame fun f => { f with parens := f.parens + 1 })
  | .closeParen => return some (← takeParen d)
  | .backquote =>
    if (← get).checks.mark then return some { d.put (.bare c) with isQuoted := true }
    else return some (← readBackquote s d)
  | .special => return if d.frame.nest = 0 then none else some (d.put (.bare c))

/-- Reads a word on, from the character `c`: the word, and the character behind it. -/
def readOn (s : Setting) : Nat → Draft → Option Char → Read (Draft × Option Char)
  | 0, d, c => return (d, c)
  | fuel + 1, d, c => do
    match c with
    | none => return (d, none)
    | some x =>
      match ← take s d x with
      | none => return (d, c)
      | some d =>
        let c ← next d.frame.manner
        readOn s fuel d (← if x = '\n' then s.atLineStart c else pure c)

/-- Reads a word from the character `c` on. -/
def read (s : Setting) (f : Frame) (c : Option Char) : Read (Draft × Option Char) := do
  let c ← s.atLineStart c
  let (d, c) ← readOn s Machine.fullWork { frame := f } c
  if d.frame.manner = .arithmetic then Read.refuse "Missing '))'".toList
  if d.frame.manner ≠ .plain ∧ s.here.isNone then
    Read.refuse "Unterminated quoted string".toList
  if d.frame.nest ≠ 0 then Read.refuse "Missing '\x7d'".toList
  return (d, c)

end Setting

end TextIntake.Tool.Shell
