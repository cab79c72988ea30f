import TextIntake.Tool.Shell.Arithmetic
import TextIntake.Tool.Shell.Fields

set_option autoImplicit false

/-!
# Expansion

A word is expanded piece by piece: tildes, parameters, the output of commands and
arithmetic give glyphs.  Where fields are wanted the glyphs are split and the fields
matched against names in directories; else their text is taken as it is.
-/

namespace TextIntake.Tool.Shell

/-- How a word is expanded. -/
structure Purpose where
  /-- whether fields are wanted -/
  full : Bool := false
  /-- whether a tilde at the start stands for a directory -/
  tilde : Bool := false
  /-- whether the word is an assignment, in which tildes stand also behind `=` and `:` -/
  assigns : Bool := false
  /-- whether the first `=` was there -/
  isBehindEquals : Bool := false
  /-- whether the word stands in for the value of a parameter -/
  standsIn : Bool := false
  quoted : Bool := false
  /-- whether nothing is expanded -/
  discards : Bool := false
  deriving DecidableEq, Repr, Inhabited

namespace Purpose

/-- A word of a command. -/
def field : Purpose := { full := true, tilde := true }

/-- A word that is one text. -/
def text : Purpose := { tilde := true }

/-- An assignment. -/
def assignment : Purpose := { assigns := true }

/-- A here-document. -/
def document : Purpose := { quoted := true }

end Purpose

/-- A step of an expansion. -/
abbrev Expand := StateT Expanded Sh

/-- Runs a command and gives what it writes. -/
abbrev Substitute := Option Command → Sh Text

namespace Expand

/-- Characters as glyphs. -/
def glyphs (quoted : Bool) (t : Text) : List Glyph :=
  t.map (if quoted then Glyph.guarded else Glyph.plain)

/-- More glyphs. -/
def push (gs : List Glyph) : Expand Unit := modify fun x => x.append gs

/-- How much there is. -/
def size : Expand Nat := do return (← get).glyphs.size

/-- Makes what came since `start` a region. -/
def region (start : Nat) (onlyGaps : Bool) : Expand Unit := modify fun x => x.region start onlyGaps

/-! ## Tildes -/

/-- The directories of users. -/
def homes : List (Text × Text) :=
  [("root", "/root"), ("daemon", "/usr/sbin"), ("bin", "/bin"), ("sys", "/dev"),
    ("sync", "/bin"), ("games", "/usr/games"), ("man", "/var/cache/man"),
    ("lp", "/var/spool/lpd"), ("mail", "/var/mail"), ("news", "/var/spool/news"),
    ("uucp", "/var/spool/uucp"), ("proxy", "/bin"), ("www-data", "/var/www"),
    ("backup", "/var/backups"), ("list", "/var/list"), ("irc", "/run/ircd"),
    ("nobody", "/nonexistent")].map fun (name, home) => (name.toList, home.toList)

/-- The name behind a tilde and the pieces behind it; none where a piece is no bare
character. -/
def tildeName? (assigns : Bool) : List Piece → Option (Text × List Piece)
  | .bare c :: w =>
    if c = '/' ∨ (c = ':' ∧ assigns) then some ([], .bare c :: w)
    else (tildeName? assigns w).map fun (name, rest) => (c :: name, rest)
  | [] => some ([], [])
  | _ => none

/-- Expands a tilde at the start of pieces: the pieces behind it. -/
def tilde (p : Purpose) (w : List Piece) : Expand (List Piece) := do
  match w with
  | .bare '~' :: rest =>
    match tildeName? p.assigns rest with
    | none => return w
    | some (name, rest) =>
      if p.discards then return rest
      let home ← if name = [] then Sh.value? "HOME".toList else pure (lookup? homes name)
      match home with
      | none => return w
      | some home =>
        push (glyphs true home)
        return rest
  | _ => return w

/-! ## Values of parameters -/

/-- The letters of the options in the order in which they are shown. -/
def optionOrder : Text := "ubaCEVvxsnmiIfe".toList

/-- Glyphs with separators between them. -/
def joined (separator : List Glyph) (parts : List (List Glyph)) : List Glyph :=
  (parts.intersperse separator).flatten

/-- The value of a parameter; none when it is missing. -/
def value? (p : Purpose) (name : Text) : Expand (Option (List Glyph)) := do
  let s ← getThe State
  let shown (t : Text) : Option (List Glyph) := some (glyphs p.quoted t)
  let all (separator : List Glyph) : Option (List Glyph) :=
    some (joined separator (s.positional.map (glyphs p.quoted)))
  match name with
  | ['$'] => return shown (decimal s.number)
  | ['?'] => return shown (decimal s.status)
  | ['#'] => return shown (decimal s.positional.length)
  | ['!'] => return s.lastJob.bind fun n => shown (decimal n)
  | ['-'] => return shown (optionOrder.filter s.options.contains)
  | ['@'] | ['*'] =>
    let gap : List Glyph := [.plain Glyph.gap]
    if name = ['@'] ∧ p.quoted ∧ p.full then return all gap
    else if p.full ∧ !p.quoted then
      return all (match lookup? s.vars "IFS".toList with
        | some _ => gap
        | none => [.plain ' '])
    else return all (glyphs p.quoted (s.separators.take 1))
  | c :: _ =>
    if Character.isDecimalDigit c then
      match number? name with
      | some 0 => return shown s.name
      | some n => return (s.positional[n - 1]?).bind shown
      | none => return none
    else return (s.value? name).bind shown
  | [] => return none

/-- Fails because a parameter is missing. -/
def missing {α : Type} (name message : Text) : Expand α :=
  Sh.fail (name ++ ": ".toList ++ message)

/-- Cuts from a value the part at one of its ends that a pattern matches. -/
def cut (treatment : Treatment) (pattern : Text) (value : List Glyph) : List Glyph :=
  let items := Matching.items pattern
  let fits (gs : List Glyph) : Bool :=
    Matching.fits items ((Glyph.text gs).takeWhile (· ≠ Glyph.gap))
  let places := List.range (value.length + 1)
  let fromEnd (places : List Nat) : List Glyph :=
    match places.find? fun n => fits (value.drop n) with
    | some n => value.take n
    | none => value
  let fromStart (places : List Nat) : List Glyph :=
    match places.find? fun n => fits (value.take n) with
    | some n => value.drop n
    | none => value
  match treatment with
  | .withoutEnd true => fromEnd places
  | .withoutEnd false => fromEnd places.reverse
  | .withoutStart true => fromStart places.reverse
  | .withoutStart false => fromStart places
  | _ => value

/-! ## Pieces -/

/-- Expands other pieces in a way of their own: what they give. -/
abbrev Inner := Purpose → List Piece → Expand Unit

/-- What pieces give by themselves. -/
def apart (inner : Inner) (p : Purpose) (w : List Piece) : Expand (List Glyph) := do
  let (_, x) ← (inner p w).run {}
  return x.glyphs.toList

/-- Ends the expansion of a parameter whose value came since `start`. -/
def finish (p : Purpose) (name : Text) (start : Nat) : Expand Unit := do
  if !p.quoted then region start false
  else if name = ['@'] ∧ (← getThe State).positional ≠ [] then region start true

/-- Expands a parameter. -/
def parameter (inner : Inner) (p : Purpose) (name : Text) (treatment : Treatment)
    (orNull : Bool) (word : List Piece) : Expand Unit := do
  if p.discards then return
  if treatment = .unknown then Sh.fail "Bad substitution".toList
  let start ← size
  let found ← value? p name
  let value := found.getD []
  let isMissing := found.isNone || (orNull && value.isEmpty)
  let checkSet : Expand Unit := do
    if isMissing ∧ (← Sh.isOn 'u') then missing name "parameter not set".toList
  let standIn := inner { p with tilde := true, standsIn := true } word
  match treatment with
  | .instead => if isMissing then finish p name start else standIn
  | .otherwise =>
    if isMissing then standIn
    else
      push value
      finish p name start
  | .required =>
    if isMissing then
      let message := Glyph.text (← apart inner Purpose.text word)
      missing name (if word.isEmpty then
        "parameter not set".toList ++ (if orNull then " or null".toList else []) else message)
    else
      push value
      finish p name start
  | .assigned =>
    if isMissing then
      let t := Glyph.text (← apart inner Purpose.text word)
      Sh.assignNamed name (some t) false
      push ((← value? p name).getD [])
    else push value
    finish p name start
  | .length =>
    checkSet
    push (glyphs p.quoted (decimal (found.getD []).length))
    finish p name start
  | .plain =>
    checkSet
    if !isMissing then
      push value
      finish p name start
  | _ =>
    checkSet
    if !isMissing then
      let gs ← apart inner Purpose.text word
      push (cut treatment (Glyph.pattern gs) value)
      finish p name start

/-- Expands the output of a command. -/
def output (substitute : Substitute) (p : Purpose) (command : Option Command) :
    Expand Unit := do
  if p.discards then return
  let start ← size
  let t ← substitute command
  let kept := (t.filter (· ≠ Glyph.gap)).reverse.dropWhile (· = '\n')
  push (glyphs p.quoted kept.reverse)
  if !p.quoted then region start false

/-- Expands an arithmetic expression. -/
def arithmetic (inner : Inner) (p : Purpose) (word : List Piece) : Expand Unit := do
  if p.discards then return
  let start ← size
  let t := Glyph.text (← apart inner {} word)
  let n ← Arithmetic.evaluate t
  push (glyphs p.quoted (Arithmetic.text n))
  if !p.quoted then region start false

/-- Expands pieces.  Inside quotes `p.quoted` holds already for what is substituted; `inQuotes`
tells whether quotes are open here.  `run` is where the run of bare characters started that
is split. -/
def pieces (substitute : Substitute) (inner : Inner) (p : Purpose) :
    Nat → Bool → Bool → Option Nat → List Piece → Expand Unit
  | 0, _, _, _, _ => return
  | fuel + 1, inQuotes, isBehindEquals, run, w => do
    let splits := p.standsIn && !p.quoted
    let endRun : Expand Unit := do
      match run with
      | some start => region start false
      | none => return
    let q := { p with quoted := p.quoted || inQuotes, tilde := false, isBehindEquals }
    let goOn := pieces substitute inner p fuel
    match w with
    | [] => endRun
    | .bare c :: rest =>
      let place ← size
      let run := if splits && !inQuotes then some (run.getD place) else none
      push [.plain c]
      if p.assigns ∧ !inQuotes ∧ ((c = '=' ∧ !isBehindEquals) ∨ c = ':') then
        goOn inQuotes true run (← tilde p rest)
      else goOn inQuotes isBehindEquals run rest
    | .guarded c :: rest =>
      endRun
      push [.guarded c]
      goOn inQuotes isBehindEquals none rest
    | .quote :: .parameter ['@'] .plain false [] :: .quote :: rest =>
      endRun
      if inQuotes then
        push [.mark]
        parameter inner { p with tilde := false } ['@'] .plain false []
        push [.mark]
      else parameter inner { p with quoted := true, tilde := false } ['@'] .plain false []
      goOn inQuotes isBehindEquals none rest
    | .quote :: rest =>
      endRun
      push [.mark]
      goOn (!inQuotes) isBehindEquals none rest
    | .parameter name .plain true word :: _ =>
      endRun
      parameter inner q name .plain true []
      goOn inQuotes isBehindEquals none word
    | .parameter name treatment orNull word :: rest =>
      endRun
      parameter inner q name treatment orNull word
      goOn inQuotes isBehindEquals none rest
    | .output command :: rest =>
      endRun
      output substitute q command
      goOn inQuotes isBehindEquals none rest
    | .arithmetic word :: rest =>
      endRun
      arithmetic inner q word
      goOn inQuotes isBehindEquals none rest

/-- Expands pieces that nest at most so deep. -/
def expander (substitute : Substitute) : Nat → Inner
  | 0 => fun _ _ => return
  | depth + 1 => fun p w => do
    if p.discards then return
    let w ← if p.tilde then tilde p w else pure w
    pieces substitute (expander substitute depth) p Machine.fullWork false p.isBehindEquals none w

end Expand

namespace Sh

/-- Expands a word into glyphs. -/
def expanded (substitute : Substitute) (p : Purpose) (w : Word) : Sh Expanded := do
  return (← (Expand.expander substitute maxNesting p w).run {}).2

/-- Expands a word into fields. -/
def expandFields (substitute : Substitute) (w : Word) : Sh (List Text) := do
  let x ← expanded substitute Purpose.field w
  let s ← get
  let fields := Splitting.split s.separators none x
  let m ← machine
  return fields.flatMap fun gs =>
    let found := if s.options.contains 'f' then [] else Matching.paths m (Glyph.pattern gs)
    if found.isEmpty then [Glyph.text gs] else found

/-- Expands a word into one text. -/
def expandText (substitute : Substitute) (p : Purpose) (w : Word) : Sh Text := do
  return Glyph.text (← expanded substitute p w).glyphs.toList

/-- Expands a word into a pattern. -/
def expandPattern (substitute : Substitute) (w : Word) : Sh Text := do
  return Glyph.pattern (← expanded substitute Purpose.text w).glyphs.toList

/-- Whether one of the words is a pattern that matches a text. -/
def matchesAny (substitute : Substitute) (t : Text) : List Word → Sh Bool
  | [] => return false
  | w :: ws => do
    let pattern ← expandPattern substitute w
    if Matching.fits (Matching.items pattern) t then return true
    else matchesAny substitute t ws

end Sh

end TextIntake.Tool.Shell
