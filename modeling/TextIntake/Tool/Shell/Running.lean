import TextIntake.Tool.Shell.Builtin.Input
import TextIntake.Tool.Shell.Builtin.Output
import TextIntake.Tool.Shell.Builtin.Test
import TextIntake.Tool.Shell.Builtin.Variables
import TextIntake.Tool.Shell.Engine

set_option autoImplicit false

/-!
# Running commands

How each kind of command is run.  A simple command is expanded, its redirections are
carried out, and then its name is a builtin, a function or a program.  Names of special
builtins come first, then functions, then other builtins.
-/

namespace TextIntake.Tool.Shell.Engine

/-! ## Builtins -/

/-- The builtins that need nothing of the rest of the shell. -/
def plainBuiltins : List (String × Builtin) := [
  (":", Builtin.constantly 0), ("[", Builtin.bracket), ("alias", Builtin.setAliases),
  ("bg", Builtin.resume), ("break", Builtin.leaveLoops .loops), ("cd", Builtin.cd),
  ("chdir", Builtin.cd), ("continue", Builtin.leaveLoops .rounds), ("echo", Builtin.echo),
  ("exit", Builtin.exit), ("export", Builtin.export_), ("false", Builtin.constantly 1),
  ("fg", Builtin.resume), ("getopts", Builtin.getopts), ("hash", Builtin.hash),
  ("jobs", Builtin.constantly 0), ("kill", Builtin.kill), ("local", Builtin.local_),
  ("printf", Builtin.printf), ("pwd", Builtin.pwd), ("read", Builtin.read),
  ("readonly", Builtin.readonly), ("return", Builtin.return_), ("set", Builtin.set_),
  ("shift", Builtin.shift), ("test", Builtin.test), ("times", Builtin.times),
  ("trap", Builtin.trap), ("true", Builtin.constantly 0), ("ulimit", Builtin.ulimit),
  ("umask", Builtin.umask), ("unalias", Builtin.unalias), ("unset", Builtin.unset),
  ("wait", Builtin.wait)]

/-- The names of the other builtins. -/
def ownNames : List String := [".", "command", "eval", "exec", "type"]

/-- Whether a name is that of a builtin. -/
def isBuiltin (name : Text) : Bool :=
  (plainBuiltins.map Prod.fst ++ ownNames).any fun n => n.toList == name

/-- Whether a name is that of a special builtin. -/
def isSpecial (name : Text) : Bool := specialNames.contains name

/-- Whether words that look like assignments are expanded as such behind a name. -/
def takesAssignments (name : Text) : Bool :=
  ["alias", "export", "local", "readonly"].any fun n => n.toList == name

/-- What a name stands for. -/
inductive Meaning where
  | builtin
  | function (f : Function)
  | program
  deriving Inhabited

/-- What a name stands for, functions left out or not. -/
def meaning (s : State) (noFunctions : Bool) (name : Text) : Meaning :=
  let function? := if noFunctions then none else lookup? s.functions name
  if isSpecial name then .builtin
  else
    match function? with
    | some f => .function f
    | none => if isBuiltin name then .builtin else .program

/-! ## Programs -/

/-- The search path of a command. -/
def pathFor (s : State) (usual : Bool) : Text := if usual then Program.usualPath else s.path

/-- Runs a tool as the process that runs. -/
def runTool (tool : Tool) (environment : List (Text × Text)) (fields : List Text) :
    Act ExitStatus := do
  modify fun m => { m with process := { m.process with environment } }
  tool (fields.headD []) (fields.drop 1)

/-- Complains that a program cannot be run: the status. -/
def refuse (name : Text) (cause : IoFailure) : Sh Nat := do
  Sh.warn (name ++ ": ".toList ++ Program.reason cause)
  return if cause = .notFound ∨ cause = .notADirectory ∨ cause = .nameTooLong then 127 else 126

/-- Puts a program in the place of the shell. -/
def replace (x : Engine) (usual : Bool) (fields : List Text) : Sh Nat := do
  let s ← get
  let name := fields.headD []
  match Program.search x.tools (← Sh.machine) (pathFor s usual) name with
  | .tool _ tool => throw (.gone (← Sh.act (runTool tool s.environment fields)))
  | .file _ => ended (← refuse name .permissionDenied)
  | .missing cause => ended (← refuse name cause)
where
  /-- Ends the shell with a status. -/
  ended (status : Nat) : Sh Nat := do
    modify fun s => { s with status }
    throw .ending

/-- Whether an action is set for a signal or the end. -/
def hasActions (s : State) : Bool := s.traps.any fun (_, action) => action != []

/-- Runs a program: the status, and whether there is one. -/
def runProgram (x : Engine) (p : Place) (usual : Bool) (fields : List Text) :
    Sh (Nat × Bool) := do
  let s ← get
  let name := fields.headD []
  let replaces := p.isLast && !hasActions s
  let rememberFound : Sh Unit :=
    if replaces ∨ name.contains '/' ∨ s.found.contains name then return
    else modify fun s => { s with found := name :: s.found }
  match Program.search x.tools (← Sh.machine) (pathFor s usual) name with
  | .missing cause =>
    if name.contains '/' then
      if replaces then return (← replace x usual fields, true)
      else return (← refuse name cause, true)
    else
      Sh.warn (name ++ ": ".toList ++ Program.reason cause)
      return (127, false)
  | .file _ =>
    if replaces then return (← replace x usual fields, true)
    else
      rememberFound
      return (← refuse name .permissionDenied, true)
  | .tool _ tool =>
    Jobs.settleNow
    if replaces then return (← replace x usual fields, true)
    else
      rememberFound
      let status ← await (runTool tool s.environment fields)
      return (← report status, true)

/-! ## Builtins that run something -/

/-- Joins texts with spaces. -/
def joined (ts : List Text) : Text := (ts.intersperse [' ']).flatten

/-- Runs its arguments as a text of commands. -/
def eval (x : Engine) (p : Place) : Builtin := fun arguments =>
  let arguments := if arguments.head? = some ['-', '-'] then arguments.drop 1 else arguments
  x.runText { p with isLast := false } (joined arguments)

/-- The file that is meant by the operand of `.`. -/
def sourceFile (name : Text) : Sh Text := do
  if name.contains '/' then return name
  let m ← Sh.machine
  let candidates := (Path.splitOn ':' (← get).path).map fun d =>
    if d = [] then name else d ++ '/' :: name
  let isFile (path : Text) : Bool :=
    match m.find path with
    | .ok (_, .file _) => true
    | _ => false
  match candidates.find? isFile with
  | some path => return path
  | none => Sh.fail (name ++ ": not found".toList)

/-- Reads all of a file of commands. -/
def readSource (path : Text) : Sh Text := do
  match ← Sh.act (Machine.openPath .input path) with
  | .error cause =>
    Sh.fail ("cannot open ".toList ++ path ++ ": ".toList ++ Streams.reason false cause)
  | .ok description =>
    match ← Sh.act (Machine.readAllThrough description) with
    | .ok t => return t
    | .error _ => return []

/-- Runs the commands in a file. -/
def source (x : Engine) : Builtin := fun arguments => do
  match ← Builtin.operands arguments with
  | [] => return 0
  | name :: _ =>
    let path ← sourceFile name
    let t ← readSource path
    modify fun s => { s with builtin := some path }
    let status ← x.runText {} t
    modify fun s =>
      { s with skip := if s.skip = .function ∨ s.skip = .keeping then .nothing else s.skip }
    return status

/-- Puts a program in the place of the shell, if there is one among the arguments. -/
def exec (x : Engine) : Builtin := fun arguments => do
  match ← Builtin.operands arguments with
  | [] => return 0
  | fields => replace x false fields

/-- Tells what a name stands for. -/
def describe (x : Engine) (usual verbose : Bool) (name : Text) : Sh Nat := do
  let s ← get
  let say (words : String) (brief : Text) : Sh Nat := do
    Builtin.putLine (if verbose then name ++ ' ' :: words.toList else brief)
    return 0
  if (Keyword.read? name).isSome then say "is a shell keyword" name
  else
    match lookup? s.aliases name with
    | some value =>
      if verbose then
        Builtin.putLine (name ++ " is an alias for ".toList ++ value)
      else
        Sh.put "alias ".toList
        Builtin.showAlias name value
      return 0
    | none =>
      match meaning s false name with
      | .builtin => say (if isSpecial name then "is a special shell builtin"
          else "is a shell builtin") name
      | .function _ => say "is a shell function" name
      | .program =>
        let tracked := !usual && s.found.contains name
        match Program.search x.tools (← Sh.machine) (pathFor s usual) name with
        | .tool path _ | .file path => do
          let words := if tracked then " is a tracked alias for " else " is "
          Builtin.putLine (if verbose then name ++ words.toList ++ path else path)
          if !name.contains '/' ∧ !usual then
            modify fun s => { s with found := name :: s.found }
          return 0
        | .missing _ => do
          if verbose then Sh.put (name ++ ": not found\n".toList)
          return 127

/-- Tells what names stand for. -/
def type (x : Engine) : Builtin := fun arguments => do
  arguments.foldlM (fun status name => do
    let n ← describe x false true name
    return if n = 0 then status else n) 0

/-- Tells what a name stands for, where it is asked to. -/
def commandOptions (x : Engine) : Builtin := fun arguments => do
  let (options, rest) ← Builtin.options [('p', false), ('v', false), ('V', false)] arguments
  let has (c : Char) : Bool := options.any fun (l, _) => l == c
  match rest.head? with
  | some name => if has 'v' ∨ has 'V' then describe x (has 'p') (has 'V') name else return 0
  | none => return 0

/-- The builtin with a name. -/
def builtin (x : Engine) (p : Place) (name : Text) : Builtin :=
  match String.ofList name with
  | "." => source x
  | "command" => commandOptions x
  | "eval" => eval x p
  | "exec" => exec x
  | "type" => type x
  | n => ((plainBuiltins.find? fun (m, _) => m == n).map Prod.snd).getD (Builtin.constantly 0)

/-- Runs a builtin: its status.  A failure of one that is not special is no more than that. -/
def runBuiltin (x : Engine) (p : Place) (special : Bool) (fields : List Text) : Sh Nat := do
  let before ← get
  let name := fields.headD []
  let descriptors := (← Sh.machine).process.descriptors
  modify fun s => { s with builtin := some name }
  let step : Sh Nat := do
    let status ← builtin x p name (fields.drop 1)
    if ← Sh.flush then return status
    Sh.warn (name ++ ": I/O error".toList)
    return if status % 2 = 0 then status + 1 else status
  let r ← Sh.tried step
  modify fun s => { s with builtin := before.builtin, written := [] }
  match r with
  | .ok status => return status
  | .error .failure =>
    if special then throw .failure
    Sh.act (modify fun m => { m with process := { m.process with descriptors } })
    Sh.popLocals before.locals.length
    modify fun s => { s with loops := before.loops }
    return (← get).status
  | .error stop => throw stop

/-! ## Functions -/

/-- How many functions can run inside each other. -/
def maxDepth : Nat := 1000

/-- Runs a function. -/
def runFunction (x : Engine) (p : Place) (f : Function) (parameters : List Text) : Sh Nat := do
  let before ← get
  if maxDepth ≤ before.depth then
    Sh.fail ("Maximum function recursion depth (".toList ++ decimal maxDepth ++ ") reached".toList)
  set { before with
    positional := parameters
    optionIndex := 1
    optionOffset := none
    loops := 0
    depth := before.depth + 1
    functionLine := f.line }
  let r ← Sh.tried (x.run f.body { isTested := p.isTested })
  modify fun s =>
    { s with
      positional := before.positional
      optionIndex := before.optionIndex
      optionOffset := before.optionOffset
      loops := before.loops
      depth := before.depth
      functionLine := before.functionLine
      skip := if s.skip = .function ∨ s.skip = .keeping then .nothing else s.skip }
  match r with
  | .ok status => return status
  | .error stop => throw stop

/-! ## Simple commands -/

/-- A simple command whose words are expanded. -/
structure Call where
  /-- all fields, and those from the name on that is run -/
  shown : List Text := []
  fields : List Text := []
  /-- whether the first name was that of a special builtin; none where it was no builtin -/
  special : Option Bool := none
  noFunctions : Bool := false
  /-- whether the usual search path is used -/
  usual : Bool := false
  deriving DecidableEq, Repr, Inhabited

/-- Expands words until there is a field: the fields, and the words that are left. -/
def firstFields (x : Engine) : List Word → Sh (List Text × List Word)
  | [] => return ([], [])
  | w :: rest => do
    match ← Sh.expandFields x.substitute w with
    | [] => firstFields x rest
    | fields => return (fields, rest)

/-- Expands the words behind a name. -/
def otherFields (x : Engine) (assigns : Bool) : List Word → Sh (List Text)
  | [] => return []
  | w :: rest => do
    let fields ←
      if assigns ∧ Word.isAssignment w then
        pure [← Sh.expandText x.substitute Purpose.assignment w]
      else Sh.expandFields x.substitute w
    return fields ++ (← otherFields x assigns rest)

/-- The fields behind `command` and its options, where there is a name among them: whether
the usual search path is asked for, the fields that belong to `command`, the others, and the
words that are left. -/
def behindCommand (x : Engine) : Nat → Bool → List Text → List Text → List Word →
    Sh (Option (Bool × List Text × List Text × List Word) × List Text × List Word)
  | 0, _, before, fields, words => return (none, before ++ fields, words)
  | fuel + 1, usual, before, fields, words => do
    match fields with
    | [] =>
      match words with
      | [] => return (none, before, [])
      | _ =>
        let (fields, words) ← firstFields x words
        if fields.isEmpty then return (none, before, words)
        behindCommand x fuel usual before fields words
    | ['-', '-'] :: rest =>
      let before := before ++ [['-', '-']]
      let (rest, words) ← if rest.isEmpty then firstFields x words else pure (rest, words)
      if rest.isEmpty then return (none, before, words)
      return (some (usual, before, rest, words), [], [])
    | ('-' :: c :: letters) :: rest =>
      if (c :: letters).all (· == 'p') then
        behindCommand x fuel true (before ++ [('-' :: c :: letters)]) rest words
      else return (none, before ++ fields, words)
    | fields => return (some (usual, before, fields, words), [], [])

/-- Expands the words of a simple command, looking through `command`. -/
def callFrom (x : Engine) : Nat → Call → List Word → Sh Call
  | 0, c, _ => return c
  | fuel + 1, c, words => do
    let name := c.fields.headD []
    let complete (c : Call) (words : List Word) : Sh Call := do
      let more ← otherFields x (takesAssignments (c.fields.headD [])) words
      return { c with shown := c.shown ++ more, fields := c.fields ++ more }
    match meaning (← get) c.noFunctions name with
    | .builtin =>
      let c := { c with special := some (c.special.getD (isSpecial name)) }
      if name ≠ "command".toList then complete c words
      else
        match ← behindCommand x Machine.fullWork c.usual [name] (c.fields.drop 1) words with
        | (some (usual, before, fields, words), _) =>
          let outer := c.shown.take (c.shown.length - c.fields.length)
          callFrom x fuel { c with
            shown := outer ++ before ++ fields, fields, usual, noFunctions := true } words
        | (none, fields, words) =>
          let outer := c.shown.take (c.shown.length - c.fields.length)
          complete { c with shown := outer ++ fields, fields } words
    | _ => complete c words

/-- Expands the words of a simple command. -/
def call (x : Engine) (words : List Word) : Sh Call := do
  match ← firstFields x words with
  | ([], _) => return {}
  | (fields, rest) => callFrom x Machine.fullWork { shown := fields, fields } rest

/-- Writes what is run, if that is to be traced. -/
def trace (x : Engine) (description : Option Nat) (assignments shown : List Text) : Sh Unit := do
  let s ← get
  if s.options.contains 'x' ∧ !s.isTracing then
    set { s with isTracing := true }
    let sign := (s.value? "PS4".toList).getD []
    let start ←
      match readPrompt sign with
      | some w => Sh.expandText x.substitute Purpose.document w
      | none => pure sign
    modify fun s => { s with isTracing := false, status := s.status }
    match description with
    | some d =>
      let _ ← Sh.act (Machine.writeThrough d (start ++ joined (assignments ++ shown) ++ ['\n']))
    | none => return
where
  /-- A prompt as a word. -/
  readPrompt (t : Text) : Option Word :=
    let s : Setting := {
      commands := Inside.reader maxNesting .optional
      enclosed := Inside.reader maxNesting .optional
      here := some { number := 0, mark := "\n\n".toList, expands := true, stripsTabs := false } }
    let reading : Read (Draft × Option Char) := do
      s.read { manner := .double, isDouble := true } (← Read.nextJoined)
    match reading.run { layers := [{ text := t }] } with
    | .ok ((d, _), _) => some d.word
    | .error _ => none

/-- Carries out the assignments of a simple command: their texts. -/
def assignAll (x : Engine) (isLocal exported : Bool) : List Word → Sh (List Text)
  | [] => return []
  | w :: rest => do
    let t ← Sh.expandText x.substitute Purpose.assignment w
    if isLocal then Sh.makeLocal t true else Sh.assignText t exported
    return t :: (← assignAll x isLocal exported rest)

/-- Runs a simple command whose words are expanded. -/
def runCall (x : Engine) (p : Place) (c : Call) : Sh Nat := do
  match c.fields with
  | [] => return (← get).outputStatus
  | name :: arguments =>
    match meaning (← get) c.noFunctions name with
    | .builtin => runBuiltin x p (c.special.getD false) c.fields
    | .function f => runFunction x p f arguments
    | .program =>
      let (status, isThere) ← runProgram x p c.usual c.fields
      if !isThere then modify fun s => { s with status }
      return status

/-- Runs a simple command. -/
def runSimple (x : Engine) (p : Place) (line : Nat) (assignments words : List Word)
    (redirections : List Redirection) : Sh Nat := do
  Sh.atLine line
  modify fun s => { s with outputStatus := 0 }
  let c ← call x words
  let name := c.fields.headD []
  let isLocal := !c.fields.isEmpty && c.special != some true
  let frames := (← get).locals.length
  if isLocal then Sh.pushLocals
  let errors := (← Sh.machine).description? 2
  let directions ← redirections.mapM (Streams.direction x.substitute)
  let standing := Streams.standing (← Sh.machine) directions
  let keeps := name = "exec".toList && c.special.isSome
  let leave : Sh Unit := do
    if !keeps then Streams.restore standing
    Sh.popLocals frames
  if !(← Streams.carryOutAll x.substitute directions) then
    modify fun s => { s with status := 2 }
    if c.special = some true then throw .failure
    Streams.restore standing
    Sh.popLocals frames
    return 2
  let exported := keeps && 1 < c.fields.length
  let texts ← assignAll x isLocal exported assignments
  trace x errors texts c.shown
  let status ← runCall x p c
  leave
  return status

/-! ## Other commands -/

/-- What is left to be left out behind a loop's round: whether the loop ends. -/
def leaveRound : Sh Bool := do
  match (← get).skip with
  | .nothing => return false
  | .loops n =>
    modify fun s => { s with skip := if n ≤ 1 then .nothing else .loops (n - 1) }
    return true
  | .rounds n =>
    modify fun s => { s with skip := if n ≤ 1 then .nothing else .rounds (n - 1) }
    return 1 < n
  | _ => return true

/-- Runs the rounds of a loop. -/
def runLoop (x : Engine) (p : Place) (condition body : Command) (untilTrue : Bool) :
    Nat → Nat → Sh Nat
  | 0, status => return status
  | fuel + 1, status => do
    Sh.spend 5
    let n ← x.run condition { isTested := true }
    let skip := (← get).skip
    let ends ← leaveRound
    if skip ≠ .nothing then
      let status := if skip = .function ∨ skip = .keeping then n else status
      if ends then return status else runLoop x p condition body untilTrue fuel status
    else if (n = 0) = untilTrue then return status
    else
      let status ← x.run body p
      if ← leaveRound then return status
      runLoop x p condition body untilTrue fuel status

/-- Runs a body once for each text. -/
def runEach (x : Engine) (p : Place) (name : Text) (body : Command) : Nat → List Text → Sh Nat
  | status, [] => return status
  | _, t :: rest => do
    Sh.spend 5
    Sh.assign name (some t) false
    let status ← x.run body p
    if ← leaveRound then return status
    runEach x p name body status rest

/-- Runs a step that counts as a loop. -/
def asLoop (step : Sh Nat) : Sh Nat := do
  modify fun s => { s with loops := s.loops + 1 }
  let status ← step
  modify fun s => { s with loops := s.loops - 1 }
  return status

/-- Runs the first branch that a text fits. -/
def runBranches (x : Engine) (p : Place) (t : Text) :
    List (List Word × Option Command) → Sh Nat
  | [] => return 0
  | (patterns, body) :: rest => do
    if ← Sh.matchesAny x.substitute t patterns then
      match body with
      | some c => x.run c p
      | none => return 0
    else runBranches x p t rest

/-- Runs a command behind redirections. -/
def runRedirected (x : Engine) (line : Nat) (redirections : List Redirection) (step : Sh Nat) :
    Sh Nat := do
  Sh.atLine line
  let directions ← redirections.mapM (Streams.direction x.substitute)
  let standing := Streams.standing (← Sh.machine) directions
  let status ←
    if ← Streams.carryOutAll x.substitute directions then step else pure 2
  Streams.restore standing
  return status

/-- Runs a command in a subshell, with redirections of its own. -/
def inSubshell (x : Engine) (p : Place) (body : Command) (directions : List Direction) : Sh Nat := do
  directions.forM (Streams.carryOut x.substitute)
  x.run body { p with isLast := true }

/-- A place for standard input where there is nothing to read. -/
def nowhere : Act Unit := do
  Machine.attach 0 (← Machine.addOpening { target := .device .null, reads := true })

/-- Runs a command, without what comes before and behind every command. -/
def perform (x : Engine) (p : Place) : Command → Sh Nat
  | .simple line assignments words redirections =>
    runSimple x p line assignments words redirections
  | .pipeline commands background => do
    let s := inherited (← get)
    if background then
      let step : Sh Nat := do
        let (status, stop) ← Sh.act (pipe x s p none commands)
        arrive stop
        return Signal.status status
      start x nowhere step
      return 0
    else
      let (status, stop) ← Sh.act (pipe x s p none commands)
      arrive stop
      report status
  | .redirected line body redirections =>
    runRedirected x line redirections (x.run body { isTested := p.isTested })
  | .background body redirections => do
    let directions ← redirections.mapM (Streams.direction x.substitute)
    start x nowhere (inSubshell x {} body directions)
    return 0
  | .subshell line body redirections => do
    Sh.atLine line
    let directions ← redirections.mapM (Streams.direction x.substitute)
    if p.isLast && !hasActions (← get) then
      modify fun s => { inherited s with written := s.written }
      inSubshell x p body directions
    else report (← inProcess x (return) (inSubshell x p body directions))
  | .both first second => do
    let status ← x.run first { isTested := true }
    if status ≠ 0 ∨ (← get).skip ≠ .nothing then return status else x.run second p
  | .either first second => do
    let status ← x.run first { isTested := true }
    if status = 0 ∨ (← get).skip ≠ .nothing then return status else x.run second p
  | .sequence first second => do
    let status ← x.run first { isTested := p.isTested }
    if (← get).skip ≠ .nothing then return status else x.run second p
  | .not body => do
    let status ← x.run body { isTested := true }
    return if status = 0 then 1 else 0
  | .choice condition yes no => do
    let status ← x.run condition { isTested := true }
    if (← get).skip ≠ .nothing then return status
    else if status = 0 then x.run yes p
    else
      match no with
      | some c => x.run c p
      | none => return 0
  | .loop condition body untilTrue =>
    asLoop (runLoop x { isTested := p.isTested } condition body untilTrue Machine.fullWork 0)
  | .each line name words body => do
    Sh.atLine line
    let texts ← words.mapM (Sh.expandFields x.substitute)
    asLoop (runEach x { isTested := p.isTested } name body 0 texts.flatten)
  | .select line word branches => do
    Sh.atLine line
    let t ← Sh.expandText x.substitute Purpose.text word
    runBranches x p t branches
  | .definition line name body => do
    modify fun s => { s with functions := enter s.functions name ⟨line, body⟩ }
    return 0

/-- Whether a failure of a command itself, and not of a part of it, can end the shell. -/
def endsOnFailure : Command → Bool
  | .simple .. | .pipeline .. | .background .. | .subshell .. => true
  | _ => false

/-- Whether the status of a command is set already by a part of it that was left early. -/
def keepsStatus (c : Command) (status : Nat) (skips : Bool) : Bool :=
  match c with
  | .both .. => status ≠ 0 || skips
  | .either .. => status = 0 || skips
  | .sequence .. | .choice .. => skips
  | _ => false

/-- Runs a command.  Actions of signals are run before it and behind it, and its failure may
end the shell. -/
def step (x : Engine) (c : Command) (p : Place) : Sh Nat := do
  if (← get).options.contains 'n' then
    if p.isLast then throw .ending
    return 0
  Sh.spend 20
  runActions x
  let status ← perform x p c
  let s ← get
  if !keepsStatus c status (s.skip ≠ .nothing) then set { s with status }
  runActions x
  if status ≠ 0 ∧ !p.isTested ∧ endsOnFailure c ∧ (← Sh.isOn 'e') then throw .ending
  if p.isLast then throw .ending
  return status

/-- A shell whose commands nest at most so deep when they run. -/
def runTo (tools : Tools) : Nat → Command → Place → Sh Nat
  | 0, _, _ => Sh.stuck
  | depth + 1, c, p => step { tools, run := runTo tools depth } c p

/-- How deep commands can nest when they run. -/
def maxRunning : Nat := 100000

/-- A shell with the tools of a host. -/
def ofTools (tools : Tools) : Engine := { tools, run := runTo tools maxRunning }

end TextIntake.Tool.Shell.Engine
