import TextIntake.Source.Basic
import TextIntake.Source.Stage

set_option autoImplicit false

/-!
# Runs

A run reads a source anew.  It finds the content and its encoding, sends it
through the preprocessor and decodes it into the display view.  The comparison
view comes from the line matcher, or is a copy of the display view when something
is to be ignored; it gets at least as many lines as the display view.
-/

namespace TextIntake

/-- What comes of an attempt to fetch a remote source: what was written, and why the
attempt failed, if it did. -/
structure Delivery where
  content : Bytes := []
  failure : Option IoFailure := none
  deriving DecidableEq, Repr, Inhabited

/-- What fetches remote sources. -/
structure Fetcher where
  fetch : Url → Delivery

/-- The fetcher that refuses every scheme. -/
def Fetcher.localOnly : Fetcher where
  fetch url := { failure := some (.noAccess url.scheme) }

/-- What a run relies on. -/
structure Surroundings where
  host : Host
  fetcher : Fetcher := .localOnly
  workbench : Workbench := {}

namespace Source

/-! ## Finding the content -/

/-- An input that was looked up. -/
structure Resolved where
  input : Input
  /-- where the content is; none when no input is set -/
  origin : Except SourceFailure (Option Origin)
  /-- the URLs that were asked for -/
  fetched : List Url := []
  deriving Inhabited

/-- Looks up an input.  A remote source is fetched unless there is a copy; of a failed
attempt nothing is kept.  Not modelled: a failure to make the scratch file for a copy, which would
end the run as a failed attempt does. -/
def resolve (fetcher : Fetcher) (tree : FileTree) (input : Input) : Resolved :=
  match input with
  | .memory t => { input, origin := .ok (some (.scratch (Utf8.encode t))) }
  | .fetched _ content => { input, origin := .ok (some (.scratch content)) }
  | .located .none => { input, origin := .ok none }
  | .located (.file path) =>
    { input
      origin :=
        if (Location.file path).isReadable tree then .ok (some (.file path))
        else .error (.notRegularFile path) }
  | .located (.remote url) =>
    match fetcher.fetch url with
    | ⟨_, some cause⟩ => { input, origin := .error (.readFailed url.text cause), fetched := [url] }
    | ⟨content, none⟩ =>
      { input := .fetched url content, origin := .ok (some (.scratch content)), fetched := [url] }

/-- The encoding to read with.  A text given directly is UTF-8; what is detected comes
before what was chosen, where that is allowed. -/
def workingEncoding (choice : EncodingChoice) (isMemory : Bool) (content : Option Bytes) :
    Encoding :=
  if isMemory then .utf8
  else if choice.autoDetect then
    ((content.bind detectFromHead?).map Detected.encoding).getD choice.encoding
  else choice.encoding

/-! ## Building the views -/

/-- What a run has made so far. -/
structure Draft where
  display : View := {}
  comparison : View := {}
  report : Report := {}
  tree : FileTree
  deriving Inhabited

namespace Draft

/-- Ends a run with a failure. -/
def fail (d : Draft) (failure : SourceFailure) : Draft :=
  { d with report := { d.report with failures := d.report.failures ++ [failure] } }

/-- Notes that the preprocessor failed. -/
def warnPreprocessor (d : Draft) (command : Text) (reason : CommandFailure) : Draft :=
  { d with
    report :=
      { failures := d.report.failures ++ [.preprocessorFailed command reason]
        update := { d.report.update with disablePreprocessor := true } } }

/-- Notes that the line matcher failed. -/
def warnLineMatcher (d : Draft) (command : Text) (reason : CommandFailure) : Draft :=
  { d with
    report :=
      { failures := d.report.failures ++ [.lineMatcherFailed command reason]
        update := { d.report.update with disableLineMatcher := true } } }

end Draft

/-- The commands as the options set them. -/
def tooling (w : Surroundings) (o : Options) : Tooling where
  host := w.host
  workbench := w.workbench
  timeout := o.timeout
  encoding := o.toolEncoding

/-- The material of the comparison view: what the line matcher makes of the display
material, or a copy of it when something is to be ignored. -/
def comparisonMaterial (w : Surroundings) (o : Options) (m : Material) (d : Draft) :
    Except SourceFailure (Option Material) × Draft :=
  if o.lineMatcher = [] then (.ok (if o.wantsComparisonCopy then some m else none), d)
  else
    let staged := (tooling w o).stage o.lineMatcher m d.tree
    let d := { d with tree := staged.tree }
    let d :=
      match staged.failure with
      | some reason => d.warnLineMatcher o.lineMatcher reason
      | none => d
    (staged.material.map some, d)

/-- Builds the comparison view. -/
def buildComparison (w : Surroundings) (o : Options) (scanner : Comment.Scanner) (name : Text)
    (m : Material) (d : Draft) : Draft :=
  match comparisonMaterial w o m d with
  | (.error failure, d) => d.fail failure
  | (.ok none, d) => d
  | (.ok (some m), d) =>
    let raw := View.ofBytes m.content
    match raw.decode? m.encoding o.limits o.lineFilter scanner with
    | none => { d with comparison := raw }.fail (.tooLarge name)
    | some comparison =>
      if !comparison.isText then d.warnLineMatcher o.lineMatcher .notText
      else
        let comparison := comparison.padTo d.display.page.lineCount
        let display :=
          if o.ignoreComments then d.display.adoptCommentFlags comparison else d.display
        { d with display, comparison }

/-- Builds both views from the content of a source. -/
def buildViews (w : Surroundings) (o : Options) (scanner : Comment.Scanner) (m : Material)
    (tree : FileTree) : Draft :=
  let staged := (tooling w o).stage o.preprocessor m tree
  let d : Draft := { tree := staged.tree }
  let d :=
    match staged.failure with
    | some reason => d.warnPreprocessor o.preprocessor reason
    | none => d
  match staged.material with
  | .error failure => d.fail failure
  | .ok output =>
    let raw := View.ofBytes output.content
    match raw.decode? output.encoding o.limits {} scanner with
    | none => { d with display := raw }.fail (.tooLarge m.origin.name)
    | some display =>
      let d := { d with display }
      if !display.isText then d else buildComparison w o scanner m.origin.name output d

/-! ## Runs -/

/-- What comes of a run. -/
structure Outcome where
  source : Source
  report : Report := {}
  tree : FileTree
  /-- the URLs that were asked for -/
  fetched : List Url := []
  deriving Inhabited

/-- Reads a source anew. -/
def run (w : Surroundings) (choice : EncodingChoice) (o : Options) (s : Source)
    (tree : FileTree) : Outcome :=
  let resolved := resolve w.fetcher tree s.input
  let fetched := resolved.fetched
  let s : Source :=
    { input := resolved.input, alias? := s.alias?, encoding := some choice.encoding }
  match resolved.origin with
  | .error failure => { source := s, report := { failures := [failure] }, tree, fetched }
  | .ok none => { source := s, tree, fetched }
  | .ok (some origin) =>
    let content := origin.read tree
    let encoding := workingEncoding choice s.input.isMemory content.toOption
    let s := { s with encoding := some encoding }
    match content with
    | .error _ => { source := s, tree, fetched }
    | .ok content =>
      let scanner := Comment.Scanner.start o.commentSyntax s.input.location.nameHint?
      let d := buildViews w o scanner ⟨origin, content, encoding⟩ tree
      { source := { s with display := d.display, comparison := d.comparison }
        report := d.report, tree := d.tree, fetched }

end Source

end TextIntake
