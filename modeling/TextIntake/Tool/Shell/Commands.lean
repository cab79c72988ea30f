import TextIntake.Tool.Shell.Words

set_option autoImplicit false

/-!
# Reading commands

Commands are read line by line: one line, or as many as the commands on it need.  What
a token means depends on where it stands, so reserved words and aliases are looked for
only where a command may start.  The here-documents of a line stand behind it.
-/

namespace TextIntake.Tool.Shell

/-- What is read. -/
inductive Portion where
  /-- a line of commands -/
  | line
  /-- commands, at least one -/
  | several
  /-- commands, perhaps none -/
  | optional
  /-- one command -/
  | one
  deriving DecidableEq, Repr, Inhabited

/-- How portions inside of what is read are read. -/
abbrev Inside := Portion → Read (Option Command)

/-- A command that does nothing. -/
def idle : Command := .simple 0 [] [] []

namespace Inside

/-- Pushes the last token back. -/
def pushBack : Read Unit := modify fun p => { p with isPushed := true }

/-- What the next token is looked at for. -/
def look (checks : Checks) : Read Unit := modify fun p => { p with checks }

/-! ## Here-documents -/

/-- Reads the here-documents that are asked for. -/
def readDocuments (s : Setting) : Read Unit := do
  let awaited := (← get).awaited
  modify fun p => { p with awaited := [] }
  awaited.forM fun a => do
    let c ← if a.expands then Read.nextJoined else Read.next
    let f : Frame :=
      if a.expands then { manner := .double, isDouble := true } else { manner := .single }
    let (d, _) ← { s with here := some a }.read f c
    let document : Document := ⟨a.expands, d.word⟩
    modify fun p => { p with documents := (a.number, document) :: p.documents }

/-! ## Tokens -/

/-- Sets the last token. -/
def found (token : Token) : Read Token :=
  modifyGet fun p => (token, { p with token })

/-- Reads the rest of a redirection operator behind its first character. -/
def readOperator (descriptor : Option Nat) (c : Char) : Read Token := do
  let n := descriptor.getD (if c = '>' then 1 else 0)
  let next ← Read.nextJoined
  let file (use : FileUse) : Redirection := .file n use []
  let set (r : Redirection) : Read Unit := modify fun p => { p with redirection := r, here := none }
  if c = '>' then
    match next with
    | some '>' => set (file .appending)
    | some '|' => set (file .overwriting)
    | some '&' => set (.named n [])
    | _ =>
      Read.back next
      set (file .writing)
  else
    match next with
    | some '<' =>
      let after ← Read.nextJoined
      if after ≠ some '-' then Read.back after
      modify fun p =>
        let number := p.nextDocument
        let here : Awaited := { number, mark := [], expands := true, stripsTabs := after = some '-' }
        { p with
          nextDocument := number + 1, redirection := .here n number, here := some here }
    | some '&' => set (.named n [])
    | some '>' => set (file .updating)
    | _ =>
      Read.back next
      set (file .reading)
  found .redirection

/-- Reads a word or a redirection operator, from the character `c` on. -/
def readWord (s : Setting) (c : Option Char) : Read Token := do
  let (d, c) ← s.read {} c
  let start : Option (Option Nat) :=
    match d.pieces with
    | [] => some none
    | [.bare x] => if Character.isDecimalDigit x then some (some (x.toNat - 0x30)) else none
    | _ => none
  match c, start with
  | some x, some descriptor =>
    if (x = '<' ∨ x = '>') ∧ !d.isQuoted then return ← readOperator descriptor x
  | _, _ => pure ()
  Read.back c
  modify fun p => { p with word := d.word, isQuoted := d.isQuoted }
  found .word

/-- Leaves out the rest of a line. -/
def skipComment : Nat → Read Unit
  | 0 => return
  | fuel + 1 => do
    match ← Read.next with
    | none => return
    | some '\n' => Read.back (some '\n')
    | some _ => skipComment fuel

/-- Reads a token. -/
def readToken (s : Setting) : Nat → Read Token
  | 0 => found .ending
  | fuel + 1 => do
    if (← get).isPushed then
      modify fun p => { p with isPushed := false }
      return (← get).token
    let c ← Read.nextJoined
    let twice (c : Char) (one two : Token) : Read Token := do
      let next ← Read.nextJoined
      if next = some c then found two
      else
        Read.back next
        found one
    match c with
    | none => found .ending
    | some ' ' | some '\t' => readToken s fuel
    | some '#' =>
      skipComment ((← Read.remaining) + 1)
      readToken s fuel
    | some '\n' =>
      Read.countLine
      found .newline
    | some '&' => twice '&' .ampersand .both
    | some '|' => twice '|' .pipe .either
    | some ';' => twice ';' .semicolon .endOfCase
    | some '(' => found .openParen
    | some ')' => found .closeParen
    | some c => readWord s (some c)

/-- Reads on until something is no end of a line. -/
def skipNewlines (s : Setting) : Nat → Token → Read Token
  | 0, t => return t
  | fuel + 1, t => do
    if t = .newline then
      readDocuments s
      look {}
      skipNewlines s fuel (← readToken s Machine.fullWork)
    else return t

/-- The value of an alias that is not being read. -/
def alias? (p : Progress) (name : Text) : Option Text :=
  let isInUse := p.layers.any fun l => (l.alias?.map Prod.fst) == some name
  if isInUse then none else (p.aliases.find? fun (n, _) => n == name).map Prod.snd

/-- Reads a token, looking for what is asked for. -/
def tokenFrom (s : Setting) : Nat → Checks → Read Token
  | 0, _ => found .ending
  | fuel + 1, checks => do
    let t ← readToken s Machine.fullWork
    let t ← if checks.newlines then skipNewlines s Machine.fullWork t else pure t
    let p ← get
    let checks := checks.union p.checks
    look {}
    if t ≠ .word ∨ p.isQuoted then return t
    let text := Word.bare? p.word
    match if checks.keywords then text.bind Keyword.read? else none with
    | some k => found (.keyword k)
    | none =>
      match if checks.aliases then text.bind (alias? p) else none with
      | none => return t
      | some value =>
        if value ≠ [] then
          let isOpen := value.getLast? == some ' ' || value.getLast? == some '\t'
          let layer : Layer := { text := value, alias? := some (text.getD [], isOpen) }
          modify fun p => { p with layers := layer :: p.layers }
        tokenFrom s fuel checks

/-- Reads a token. -/
def token (s : Setting) : Read Token := do tokenFrom s Machine.fullWork (← get).checks

/-! ## Redirections -/

/-- Reads the word of the redirection whose operator was read last. -/
def readTarget (s : Setting) : Read Redirection := do
  let p ← get
  if p.here.isSome then look { mark := true }
  let t ← token s
  if t ≠ .word then Read.unexpected none
  let q ← get
  match p.redirection, p.here with
  | .here n number, some here =>
    let here := { here with mark := Word.characters q.word, expands := !q.isQuoted }
    set { q with awaited := q.awaited ++ [here] }
    return .here n number
  | .file n use _, _ => return .file n use q.word
  | .named n _, _ =>
    match Word.bare? q.word with
    | some ['-'] => return .same n none
    | some [c] =>
      if Character.isDecimalDigit c then return .same n (some (c.toNat - 0x30))
      else return .named n q.word
    | _ => return .named n q.word
  | r, _ => return r

/-- Reads redirections behind a command. -/
def readRedirections (s : Setting) : Nat → Read (List Redirection)
  | 0 => return []
  | fuel + 1 => do
    if (← token s) = .redirection then
      let r ← readTarget s
      return r :: (← readRedirections s fuel)
    else
      pushBack
      return []

/-! ## Commands -/

/-- The parts of a simple command as far as they are read, the last first. -/
structure Simple where
  assignments : List Word := []
  words : List Word := []
  redirections : List Redirection := []
  deriving Inhabited

/-- The name of a function, where a word is one. -/
def functionName? (w : Word) : Option Text := do
  let name ← Word.bare? w
  if isName name ∧ !specialNames.contains name then some name else none

/-- Reads a simple command or the definition of a function. -/
def readSimple (inside : Inside) (s : Setting) (line : Nat) :
    Nat → Simple → Read Command
  | 0, _ => return idle
  | fuel + 1, x => do
    let isStart := x.words.isEmpty
    look { aliases := isStart }
    let finish : Read Command := do
      pushBack
      return .simple line x.assignments.reverse x.words.reverse x.redirections.reverse
    match ← token s with
    | .word =>
      let w := (← get).word
      if isStart && Word.isAssignment w then
        readSimple inside s line fuel { x with assignments := w :: x.assignments }
      else readSimple inside s line fuel { x with words := w :: x.words }
    | .redirection =>
      let r ← readTarget s
      readSimple inside s line fuel { x with redirections := r :: x.redirections }
    | .openParen =>
      match x.words with
      | [w] =>
        if x.assignments.isEmpty && x.redirections.isEmpty then
          if (← token s) ≠ .closeParen then Read.unexpected (some .closeParen)
          match functionName? w with
          | none => Read.refuse "Bad function name".toList
          | some name =>
            let line := (← get).line
            look Checks.continued
            return .definition line name ((← inside .one).getD idle)
        else finish
      | _ => finish
    | _ => finish

/-- Takes a token that has to stand here. -/
def expect (s : Setting) (wanted : Token) : Read Unit := do
  if (← token s) ≠ wanted then Read.unexpected (some wanted)

/-- Reads commands, at least one. -/
def readSeveral (inside : Inside) : Read Command := do return (← inside .several).getD idle

/-- Reads the rest of a choice behind its first condition word. -/
def readChoice (inside : Inside) (s : Setting) : Nat → Read Command
  | 0 => return idle
  | fuel + 1 => do
    let condition ← readSeveral inside
    expect s (.keyword .thenWord)
    let yes ← readSeveral inside
    match ← token s with
    | .keyword .elif => return .choice condition yes (some (← readChoice inside s fuel))
    | .keyword .elseWord => return .choice condition yes (some (← readSeveral inside))
    | _ =>
      pushBack
      return .choice condition yes none

/-- Reads words as long as there are any. -/
def readWords (s : Setting) : Nat → Read (List Word)
  | 0 => return []
  | fuel + 1 => do
    if (← token s) = .word then
      let w := (← get).word
      return w :: (← readWords s fuel)
    else return []

/-- The word for all positional parameters. -/
def allParameters : Word := [.quote, .parameter ['@'] .plain false [], .quote]

/-- Reads the head of a loop over words: its variable and the words. -/
def readEach (s : Setting) : Read (Text × List Word) := do
  let t ← token s
  let p ← get
  match if t = .word ∧ !p.isQuoted then Word.bare? p.word else none with
  | none => Read.refuse "Bad for loop variable".toList
  | some name =>
    if !isName name then Read.refuse "Bad for loop variable".toList
    look Checks.continued
    match ← token s with
    | .keyword .inWord =>
      let words ← readWords s Machine.fullWork
      let last := (← get).token
      if last ≠ .newline ∧ last ≠ .semicolon then Read.unexpected none
      look Checks.continued
      return (name, words)
    | t =>
      if t ≠ .semicolon then pushBack
      look Checks.continued
      return (name, [allParameters])

/-- Reads the patterns of a branch, from the last word on. -/
def readPatterns (s : Setting) : Nat → Read (List Word)
  | 0 => return []
  | fuel + 1 => do
    let w := (← get).word
    if (← token s) = .pipe then
      let _ ← token s
      return w :: (← readPatterns s fuel)
    else return [w]

/-- Reads the branches of a selection. -/
def readBranches (inside : Inside) (s : Setting) :
    Nat → Read (List (List Word × Option Command))
  | 0 => return []
  | fuel + 1 => do
    look { newlines := true, keywords := true }
    let t ← token s
    if t = .keyword .esac then return []
    if t = .openParen then let _ ← token s
    let patterns ← readPatterns s Machine.fullWork
    if (← get).token ≠ .closeParen then Read.unexpected (some .closeParen)
    let body ← inside .optional
    look { newlines := true, keywords := true }
    match ← token s with
    | .keyword .esac => return [(patterns, body)]
    | .endOfCase => return (patterns, body) :: (← readBranches inside s fuel)
    | _ => Read.unexpected (some .endOfCase)

/-- Reads a selection behind its first word. -/
def readSelect (inside : Inside) (s : Setting) (line : Nat) : Read Command := do
  expect s .word
  let word := (← get).word
  look Checks.continued
  expect s (.keyword .inWord)
  return .select line word (← readBranches inside s Machine.fullWork)

/-- Reads redirections behind a command that is made of others. -/
def withRedirections (s : Setting) (line : Nat) (c : Command) : Read Command := do
  look Checks.command
  match ← readRedirections s Machine.fullWork, c with
  | [], c => return c
  | rs, .subshell line body _ => return .subshell line body rs
  | rs, c => return .redirected line c rs

/-- Reads a command. -/
def readCommand (inside : Inside) (s : Setting) : Read Command := do
  let line := (← get).line
  let closing (last : Token) (c : Command) : Read Command := do
    expect s last
    withRedirections s line c
  match ← token s with
  | .keyword .ifWord => closing (.keyword .fi) (← readChoice inside s Machine.fullWork)
  | .keyword .whileWord => readLoop closing false
  | .keyword .untilWord => readLoop closing true
  | .keyword .forWord => do
    let (name, words) ← readEach s
    expect s (.keyword .doWord)
    closing (.keyword .done) (.each line name words (← readSeveral inside))
  | .keyword .caseWord => withRedirections s line (← readSelect inside s line)
  | .openParen => closing .closeParen (.subshell line (← readSeveral inside) [])
  | .keyword .openBrace => closing (.keyword .closeBrace) (← readSeveral inside)
  | .word | .redirection => do
    pushBack
    readSimple inside s line Machine.fullWork {}
  | _ => Read.unexpected none
where
  /-- Reads a loop behind its first word. -/
  readLoop (closing : Token → Command → Read Command) (untilTrue : Bool) : Read Command := do
    let condition ← readSeveral inside
    expect s (.keyword .doWord)
    closing (.keyword .done) (.loop condition (← readSeveral inside) untilTrue)

/-- Reads what is piped into the next commands. -/
def readPiped (inside : Inside) (s : Setting) : Nat → Read (List Command)
  | 0 => return []
  | fuel + 1 => do
    look Checks.continued
    let c ← readCommand inside s
    if (← token s) = .pipe then return c :: (← readPiped inside s fuel)
    else
      pushBack
      return [c]

/-- Reads a pipeline. -/
def readPipeline (inside : Inside) (s : Setting) : Read Command := do
  let isNegated := (← token s) = .keyword .bang
  if isNegated then look Checks.command else pushBack
  let first ← readCommand inside s
  let c ←
    if (← token s) = .pipe then
      pure (Command.pipeline (first :: (← readPiped inside s Machine.fullWork)) false)
    else
      pushBack
      pure first
  return if isNegated then .not c else c

/-- Reads pipelines that depend on each other. -/
def readConditional (inside : Inside) (s : Setting) : Nat → Command → Read Command
  | 0, c => return c
  | fuel + 1, c => do
    let t ← token s
    if t = .both ∨ t = .either then
      look Checks.continued
      let next ← readPipeline inside s
      readConditional inside s fuel (if t = .both then .both c next else .either c next)
    else
      pushBack
      return c

/-- A command in the background. -/
def inBackground : Command → Command
  | .pipeline commands _ => .pipeline commands true
  | .redirected _ body redirections => .background body redirections
  | c => .background c []

/-- Reads a list of commands behind those that were read before. -/
def readList (inside : Inside) (s : Setting) (isLine : Bool) :
    Nat → Bool → Option Command → Read (Option Command)
  | 0, _, before => return before
  | fuel + 1, mayEnd, before => do
    look (if isLine then Checks.command else Checks.continued)
    let t ← token s
    if t = .newline then
      readDocuments s
      return before
    pushBack
    if t = .ending ∨ (mayEnd ∧ !isLine ∧ t.endsList) then return before
    let c ← readConditional inside s Machine.fullWork (← readPipeline inside s)
    let t ← token s
    let c := if t = .ampersand then inBackground c else c
    let all := match before with
      | none => c
      | some b => .sequence b c
    match t with
    | .newline | .ending =>
      pushBack
      readList inside s isLine fuel true (some all)
    | .ampersand | .semicolon => readList inside s isLine fuel true (some all)
    | _ =>
      if isLine then Read.unexpected none
      pushBack
      return some all

/-- Reads a portion. -/
def readPortion (inside : Inside) : Inside := fun portion => do
  let rec enclosed (s : Setting) : Read (Option Command) := do
    let c ← inside .optional
    expect s .closeParen
    let layers := (← get).layers
    modify fun p => { p with layers := [] }
    readDocuments s
    modify fun p => { p with layers }
    return c
  let bare : Setting := { commands := inside .optional, enclosed := inside .optional }
  let s : Setting := { bare with enclosed := enclosed bare }
  match portion with
  | .line => readList inside s true Machine.fullWork false none
  | .several => readList inside s false Machine.fullWork false none
  | .optional => readList inside s false Machine.fullWork true none
  | .one => return some (← readCommand inside s)

/-- The reader whose portions nest at most so deep. -/
def reader : Nat → Inside
  | 0 => fun _ => Read.refuse "nested too deeply".toList
  | depth + 1 => fun portion => readPortion (reader depth) portion

end Inside

/-- A line of commands that was read, and what comes behind it. -/
structure Line where
  /-- none for an empty line -/
  command : Option Command
  /-- whether the text ended with the line -/
  isLast : Bool
  /-- whether there was no line any more -/
  isOver : Bool
  progress : Progress
  deriving Inhabited

/-- How deep commands can nest. -/
def maxNesting : Nat := 2000

/-- Reads the next line of commands. -/
def readLine (p : Progress) : Except SyntaxFault Line := do
  let (command, progress) ← (Inside.reader maxNesting .line).run { p with isPushed := false }
  let isLast := progress.isPushed && progress.token == .ending
  return { command, isLast, isOver := isLast && command.isNone, progress }

end TextIntake.Tool.Shell
