import TextIntake.Proofs.Source.NotText

set_option autoImplicit false

/-!
# Reports of runs

A report lists at most one warning for each command and at most one failure that ends the
run, in this order, and asks to disable just the commands that it warns of.  A line matcher
has failed when its run fails or its output is no text.  What is decoded in its place is the
content that is shown already: that is text under every filter, and never warned of again.

The commands are supposed to leave the file of the source alone.  `Material.InPlace` says so
of the content that a stage is given, and `Source.Viewing` and `Source.Matching` list what
building the views of such content leads to.

Main statements: `viewing_buildViews`, `matching_buildComparison`, `report_run` and
`report_wellFormed`.
-/

namespace TextIntake

/-! ## Content that stays in place -/

/-- No program that is started for its output changes what stands at an origin. -/
def Host.KeepsContent (h : Host) (origin : Origin) : Prop :=
  ∀ (l : Launch) (t : FileTree) (x : Execution), l.output = none → h.start l t = .ok x →
    origin.read x.tree = origin.read t

theorem Host.keepsContent_scratch (h : Host) (content : Bytes) :
    h.KeepsContent (.scratch content) := fun _ _ _ _ _ => rfl

/-- Material whose content stands at its origin, and stays there whatever is started. -/
structure Material.InPlace (m : Material) (h : Host) (tree : FileTree) : Prop where
  keeps : h.KeepsContent m.origin
  reads : m.origin.read tree = .ok m.content

namespace Tooling

variable {tooling : Tooling} {command : Text} {m : Material} {tree : FileTree}
  {reason : CommandFailure}

theorem read_run {origin : Origin} (hkeep : tooling.host.KeepsContent origin) (command : Text)
    (m : Material) (tree : FileTree) :
    origin.read (tooling.run command m tree).2 = origin.read tree := by
  rcases tree_run tooling command m tree with hsame | ⟨l, x, houtput, hstart, hleft⟩
  · rw [hsame]
  · rw [hleft]
    exact hkeep l tree x houtput hstart

/-- Why a command fails on some material, if it does. -/
def failure? (tooling : Tooling) (command : Text) (m : Material) (tree : FileTree) :
    Option CommandFailure :=
  if command = [] then none
  else
    match (tooling.run command m tree).1 with
    | .error reason => some reason
    | .ok _ => none

theorem failure_stage (tooling : Tooling) (command : Text) (m : Material) (tree : FileTree) :
    (tooling.stage command m tree).failure = tooling.failure? command m tree := by
  unfold stage failure?
  split
  · rfl
  · cases tooling.run command m tree with
    | mk result t =>
      cases result with
      | error reason =>
        dsimp only
        split <;> rfl
      | ok output => rfl

theorem command_ne_nil_of_failure? (h : tooling.failure? command m tree = some reason) :
    command ≠ [] := by
  rintro rfl
  cases h

/-- A stage leads on with content in place: that of the command, or its own. -/
theorem stage_inPlace (tooling : Tooling) (command : Text) (hm : m.InPlace tooling.host tree) :
    ∃ output, (tooling.stage command m tree).material = .ok output ∧
      output.InPlace tooling.host (tooling.stage command m tree).tree ∧
      (tooling.failure? command m tree ≠ none → output = m) := by
  have hagain := (read_run hm.keeps command m tree).trans hm.reads
  rw [← failure_stage]
  have hstaging := staging_stage tooling command m tree
  generalize tooling.stage command m tree = staged at hstaging ⊢
  cases hstaging with
  | skipped => exact ⟨m, rfl, hm, fun _ => rfl⟩
  | filtered run =>
    refine ⟨_, rfl, ⟨?_, rfl⟩, fun hfail => absurd rfl hfail⟩
    exact tooling.host.keepsContent_scratch _
  | restored run read =>
    -- what is read again is what was read before
    rw [run, read] at hagain
    obtain rfl := Except.ok.inj hagain
    exact ⟨m, rfl, ⟨hm.keeps, read⟩, fun _ => rfl⟩
  | lost run read =>
    rw [run, read] at hagain
    cases hagain

end Tooling

/-! ## The shape of a report -/

namespace SourceFailure

/-- When a failure is reported: in the preprocessor, in the line matcher, or as the end. -/
def phase : SourceFailure → Nat
  | preprocessorFailed _ _ => 0
  | lineMatcherFailed _ _ => 1
  | _ => 2

theorem phase_of_isFatal {failure : SourceFailure} (h : failure.isFatal = true) :
    failure.phase = 2 := by
  cases failure with
  | preprocessorFailed command reason => cases h
  | lineMatcherFailed command reason => cases h
  | _ => rfl

end SourceFailure

namespace Report

/-- What every report of a run under the given options fulfils. -/
structure WellFormed (o : Options) (r : Report) : Prop where
  /-- What ends the run is reported last. -/
  fatalLast : ∀ failure ∈ r.failures.dropLast, failure.isFatal = false
  /-- Nothing is reported twice, and the stages are reported in their order. -/
  ascending : r.failures.Pairwise fun earlier later => earlier.phase < later.phase
  preprocessorDisabled : r.update.disablePreprocessor = true ↔
    ∃ command reason, .preprocessorFailed command reason ∈ r.failures
  lineMatcherDisabled : r.update.disableLineMatcher = true ↔
    ∃ command reason, .lineMatcherFailed command reason ∈ r.failures
  preprocessorNamed : ∀ command reason, .preprocessorFailed command reason ∈ r.failures →
    command = o.preprocessor ∧ command ≠ []
  lineMatcherNamed : ∀ command reason, .lineMatcherFailed command reason ∈ r.failures →
    command = o.lineMatcher ∧ command ≠ []

/-- The report of what happened to the preprocessor, to the line matcher and to the run. -/
def of (o : Options) (preprocessor lineMatcher : Option CommandFailure)
    (fatal : Option SourceFailure) : Report where
  failures := (preprocessor.map (.preprocessorFailed o.preprocessor)).toList ++
    (lineMatcher.map (.lineMatcherFailed o.lineMatcher)).toList ++ fatal.toList
  update :=
    { disablePreprocessor := preprocessor.isSome, disableLineMatcher := lineMatcher.isSome }

section

variable {o : Options} {p q : Option CommandFailure} {fatal : Option SourceFailure}
  {command : Text} {reason : CommandFailure}

theorem mem_failures_of {failure : SourceFailure} :
    failure ∈ (of o p q fatal).failures ↔
      (∃ reason, p = some reason ∧ .preprocessorFailed o.preprocessor reason = failure) ∨
      (∃ reason, q = some reason ∧ .lineMatcherFailed o.lineMatcher reason = failure) ∨
      fatal = some failure := by
  simp only [of, List.mem_append, Option.mem_toList, Option.map_eq_some_iff, or_assoc]

theorem preprocessorFailed_mem_of (hfatal : ∀ failure ∈ fatal, failure.isFatal = true) :
    .preprocessorFailed command reason ∈ (of o p q fatal).failures ↔
      command = o.preprocessor ∧ p = some reason := by
  rw [mem_failures_of]
  constructor
  · rintro (⟨reason', hp, heq⟩ | ⟨reason', -, heq⟩ | hend)
    · cases heq
      exact ⟨rfl, hp⟩
    · cases heq
    · cases hfatal _ hend
  · rintro ⟨rfl, hp⟩
    exact .inl ⟨reason, hp, rfl⟩

theorem lineMatcherFailed_mem_of (hfatal : ∀ failure ∈ fatal, failure.isFatal = true) :
    .lineMatcherFailed command reason ∈ (of o p q fatal).failures ↔
      command = o.lineMatcher ∧ q = some reason := by
  rw [mem_failures_of]
  constructor
  · rintro (⟨reason', -, heq⟩ | ⟨reason', hq, heq⟩ | hend)
    · cases heq
    · cases heq
      exact ⟨rfl, hq⟩
    · cases hfatal _ hend
  · rintro ⟨rfl, hq⟩
    exact .inr (.inl ⟨reason, hq, rfl⟩)

theorem wellFormed_of (hp : p ≠ none → o.preprocessor ≠ []) (hq : q ≠ none → o.lineMatcher ≠ [])
    (hfatal : ∀ failure ∈ fatal, failure.isFatal = true) : (of o p q fatal).WellFormed o where
  fatalLast := by
    cases p <;> cases q <;> cases fatal <;> simp [of, SourceFailure.isFatal]
  ascending := by
    have hlast : ∀ failure ∈ fatal, failure.phase = 2 := fun failure hmem =>
      SourceFailure.phase_of_isFatal (hfatal failure hmem)
    cases p <;> cases q <;> cases fatal <;> simp_all [of, SourceFailure.phase]
  preprocessorDisabled := by
    simp only [preprocessorFailed_mem_of hfatal]
    show p.isSome = true ↔ _
    rw [Option.isSome_iff_exists]
    constructor
    · rintro ⟨reason, hreason⟩
      exact ⟨o.preprocessor, reason, rfl, hreason⟩
    · rintro ⟨_, reason, -, hreason⟩
      exact ⟨reason, hreason⟩
  lineMatcherDisabled := by
    simp only [lineMatcherFailed_mem_of hfatal]
    show q.isSome = true ↔ _
    rw [Option.isSome_iff_exists]
    constructor
    · rintro ⟨reason, hreason⟩
      exact ⟨o.lineMatcher, reason, rfl, hreason⟩
    · rintro ⟨_, reason, -, hreason⟩
      exact ⟨reason, hreason⟩
  preprocessorNamed := by
    intro command reason hmem
    obtain ⟨rfl, hreason⟩ := (preprocessorFailed_mem_of hfatal).1 hmem
    exact ⟨rfl, hp (by rw [hreason]; exact Option.some_ne_none reason)⟩
  lineMatcherNamed := by
    intro command reason hmem
    obtain ⟨rfl, hreason⟩ := (lineMatcherFailed_mem_of hfatal).1 hmem
    exact ⟨rfl, hq (by rw [hreason]; exact Option.some_ne_none reason)⟩

end

end Report

namespace Source

section

variable {w : Surroundings} {o : Options} {scanner : Comment.Scanner} {name : Text} {m : Material}
  {d d' : Draft} {tree : FileTree}

/-! ## The comparison view -/

/-- What building the comparison view of content in place leads to. -/
inductive Matching (w : Surroundings) (o : Options) (scanner : Comment.Scanner) (name : Text)
    (m : Material) (d : Draft) : Draft → Prop
  /-- There is no line matcher, and at most a copy. -/
  | absent {own : Page} (empty : o.lineMatcher = []) :
      Matching w o scanner name m d { d with comparison := copied o m.content own }
  /-- The line matcher fails, and a copy takes the place of its output. -/
  | failed {reason : CommandFailure} {t : FileTree} {own : Page} (command : o.lineMatcher ≠ [])
      (run : (tooling w o).run o.lineMatcher m d.tree = (.error reason, t)) :
      Matching w o scanner name m d
        { ({ d with tree := t } : Draft).warnLineMatcher o.lineMatcher reason with
          comparison := .ofPage m.content own }
  /-- The output is no text. -/
  | binary {answer : Material} {t : FileTree} (command : o.lineMatcher ≠ [])
      (run : (tooling w o).run o.lineMatcher m d.tree = (.ok answer, t))
      (decodes : Page.ofBytes answer.encoding o.limits o.lineFilter scanner answer.content =
        .error .binary) :
      Matching w o scanner name m d
        { d.warnLineMatcher o.lineMatcher .notText with tree := t }
  /-- The output is more than may be split. -/
  | tooLarge {answer : Material} {t : FileTree} (command : o.lineMatcher ≠ [])
      (run : (tooling w o).run o.lineMatcher m d.tree = (.ok answer, t))
      (decodes : Page.ofBytes answer.encoding o.limits o.lineFilter scanner answer.content =
        .error .tooLarge) :
      Matching w o scanner name m d
        (({ d with tree := t, comparison := .ofBytes answer.content } : Draft).fail
          (.tooLarge name))
  /-- The output is split and compared. -/
  | text {answer : Material} {t : FileTree} {own : Page} {scanner' : Comment.Scanner}
      (command : o.lineMatcher ≠ [])
      (run : (tooling w o).run o.lineMatcher m d.tree = (.ok answer, t))
      (decodes : Page.ofBytes answer.encoding o.limits o.lineFilter scanner answer.content =
        .ok (own, scanner')) :
      Matching w o scanner name m d
        (let comparison := (View.ofPage answer.content own).padTo d.display.page.lineCount
        { d with
          tree := t
          display :=
            if o.ignoreComments then d.display.adoptCommentFlags comparison else d.display
          comparison })

theorem matching_buildComparison {page : Page} {scanner' : Comment.Scanner} (name : Text)
    (hm : m.InPlace w.host d.tree)
    (hpage : Page.ofBytes m.encoding o.limits {} scanner m.content = .ok (page, scanner'))
    (hdisplay : d.display = .ofPage m.content page) (hcomparison : d.comparison = {}) :
    Matching w o scanner name m d (buildComparison w o scanner name m d) := by
  by_cases hcommand : o.lineMatcher = []
  · obtain ⟨own, -, -, hcopied⟩ :=
      buildComparison_without_lineMatcher w name hcommand hpage hdisplay hcomparison
    rw [hcopied]
    exact .absent hcommand
  cases hrun : (tooling w o).run o.lineMatcher m d.tree with
  | mk result t =>
    cases result with
    | error reason =>
      have hagain : m.origin.read ((tooling w o).run o.lineMatcher m d.tree).2 = _ :=
        (Tooling.read_run hm.keeps o.lineMatcher m d.tree).trans hm.reads
      rw [hrun] at hagain
      have hmaterial := comparisonMaterial_of_failed_lineMatcher hcommand hrun hagain
      -- the copy is text since what is shown is, whatever the filter
      obtain ⟨own, -, -, hcopied⟩ := buildComparison_of_copy name hmaterial hpage hdisplay
      rw [hcopied]
      exact .failed hcommand hrun
    | ok answer =>
      have hmaterial : comparisonMaterial w o m d =
          (.ok (some answer), { d with tree := t }) := by
        rw [comparisonMaterial, if_neg hcommand, Tooling.stage, if_neg hcommand, hrun]
        rfl
      cases hdecode : Page.ofBytes answer.encoding o.limits o.lineFilter scanner
          answer.content with
      | ok split =>
        obtain ⟨own, scanner''⟩ := split
        rw [buildComparison_of_decoded hmaterial hdecode]
        exact .text hcommand hrun hdecode
      | error refusal =>
        cases refusal with
        | binary =>
          rw [buildComparison_of_binary_match name hcommand hrun hdecode]
          exact .binary hcommand hrun hdecode
        | tooLarge =>
          rw [buildComparison_of_tooLarge hmaterial hdecode]
          exact .tooLarge hcommand hrun hdecode

/-- Why the line matcher fails on some material, if it does: its run fails, or its output is
no text. -/
def matchingFailure? (w : Surroundings) (o : Options) (scanner : Comment.Scanner) (m : Material)
    (tree : FileTree) : Option CommandFailure :=
  if o.lineMatcher = [] then none
  else
    match ((tooling w o).run o.lineMatcher m tree).1 with
    | .error reason => some reason
    | .ok answer =>
      match Page.ofBytes answer.encoding o.limits o.lineFilter scanner answer.content with
      | .error .binary => some .notText
      | _ => none

theorem lineMatcher_ne_nil_of_matchingFailure? {reason : CommandFailure}
    (h : matchingFailure? w o scanner m tree = some reason) : o.lineMatcher ≠ [] := by
  intro hempty
  rw [matchingFailure?, if_pos hempty] at h
  cases h

/-- Behind a report of the preprocessor stands that of the line matcher, and a failure that
ends the run. -/
theorem report_of_matching {p : Option CommandFailure} (h : Matching w o scanner name m d d')
    (hreport : d.report = .of o p none none) :
    ∃ fatal, d'.report = .of o p (matchingFailure? w o scanner m d.tree) fatal ∧
      ∀ failure ∈ fatal, failure.isFatal = true := by
  cases h with
  | absent empty =>
    refine ⟨none, ?_, by simp⟩
    rw [matchingFailure?, if_pos empty]
    exact hreport
  | failed command run =>
    refine ⟨none, ?_, by simp⟩
    simp only [matchingFailure?, if_neg command, run, Draft.warnLineMatcher, hreport, Report.of]
    simp
  | binary command run decodes =>
    refine ⟨none, ?_, by simp⟩
    simp only [matchingFailure?, if_neg command, run, decodes, Draft.warnLineMatcher, hreport,
      Report.of]
    simp
  | tooLarge command run decodes =>
    refine ⟨some (.tooLarge name), ?_, by simp [SourceFailure.isFatal]⟩
    simp only [matchingFailure?, if_neg command, run, decodes, Draft.fail, hreport, Report.of]
    simp
  | text command run decodes =>
    refine ⟨none, ?_, by simp⟩
    simp only [matchingFailure?, if_neg command, run, decodes, hreport]

/-! ## Both views -/

/-- What building both views of content in place leads to. -/
inductive Viewing (w : Surroundings) (o : Options) (scanner : Comment.Scanner) (m : Material)
    (tree : FileTree) : Draft → Prop
  /-- The content is more than may be split. -/
  | tooLarge {output : Material}
      (material : ((tooling w o).stage o.preprocessor m tree).material = .ok output)
      (decodes : (View.ofBytes output.content).decode? output.encoding o.limits {} scanner = none) :
      Viewing w o scanner m tree
        ({ preprocessed o ((tooling w o).stage o.preprocessor m tree) with
          display := .ofBytes output.content }.fail (.tooLarge m.origin.name))
  /-- The content is no text. -/
  | binary {output : Material}
      (material : ((tooling w o).stage o.preprocessor m tree).material = .ok output)
      (decodes : (View.ofBytes output.content).decode? output.encoding o.limits {} scanner =
        some (.ofBytes output.content))
      (nonempty : output.content ≠ []) :
      Viewing w o scanner m tree
        { preprocessed o ((tooling w o).stage o.preprocessor m tree) with
          display := .ofBytes output.content }
  /-- The content is shown, and a comparison view was looked for. -/
  | text {output : Material} {page : Page} {scanner' : Comment.Scanner} {d : Draft}
      (material : ((tooling w o).stage o.preprocessor m tree).material = .ok output)
      (decodes : Page.ofBytes output.encoding o.limits {} scanner output.content =
        .ok (page, scanner'))
      (matching : Matching w o scanner m.origin.name output
        { preprocessed o ((tooling w o).stage o.preprocessor m tree) with
          display := .ofPage output.content page } d) :
      Viewing w o scanner m tree d

theorem viewing_buildViews (o : Options) (scanner : Comment.Scanner) (hm : m.InPlace w.host tree) :
    Viewing w o scanner m tree (buildViews w o scanner m tree) := by
  obtain ⟨output, hmaterial, houtput, -⟩ := Tooling.stage_inPlace (tooling w o) o.preprocessor hm
  cases hdecode : (View.ofBytes output.content).decode? output.encoding o.limits {} scanner with
  | none =>
    rw [buildViews_of_tooLarge hmaterial hdecode]
    exact .tooLarge hmaterial hdecode
  | some view =>
    rcases View.decode?_eq_some_cases hdecode with ⟨page, scanner', hpage, rfl⟩ | ⟨hne, rfl⟩
    · have hd : output.InPlace w.host (preprocessed o
          ((tooling w o).stage o.preprocessor m tree)).tree := by
        rw [tree_preprocessed]
        exact houtput
      rw [buildViews_of_decoded hmaterial hpage]
      exact .text hmaterial hpage (matching_buildComparison m.origin.name hd hpage rfl
        (comparison_preprocessed _ _))
    · rw [buildViews_of_binary hmaterial hdecode hne]
      exact .binary hmaterial hdecode hne

theorem report_preprocessed (w : Surroundings) (o : Options) (m : Material) (tree : FileTree) :
    (preprocessed o ((tooling w o).stage o.preprocessor m tree)).report =
      .of o ((tooling w o).failure? o.preprocessor m tree) none none := by
  rw [← Tooling.failure_stage, preprocessed]
  cases ((tooling w o).stage o.preprocessor m tree).failure with
  | none => rfl
  | some reason => rfl

end

/-! ## Runs -/

section

variable {w : Surroundings} {choice : EncodingChoice} {o : Options} {s : Source}
  {tree : FileTree} {m : Material}

/-- Why the preprocessor of a run fails, if it does. -/
def preprocessorFailure? (w : Surroundings) (choice : EncodingChoice) (o : Options) (s : Source)
    (tree : FileTree) : Option CommandFailure :=
  (opened? w choice s tree).bind fun m => (tooling w o).failure? o.preprocessor m tree

/-- Why the line matcher of a run fails, if it does. -/
def lineMatcherFailure? (w : Surroundings) (choice : EncodingChoice) (o : Options) (s : Source)
    (tree : FileTree) : Option CommandFailure := do
  let input ← opened? w choice s tree
  let m ← prepared? w choice o s tree
  matchingFailure? w o (s.scanner o) m
    ((tooling w o).stage o.preprocessor input tree).tree

/-- The content that a run finds is in place, where the commands leave the file of the source
alone. -/
theorem inPlace_of_opened?
    (hkeep : ∀ path, s.input = .located (.file path) → w.host.KeepsContent (.file path))
    (hopened : opened? w choice s tree = some m) : m.InPlace w.host tree := by
  refine ⟨?_, read_of_opened? hopened⟩
  have hspec := resolve_spec w.fetcher tree s.input
  unfold opened? at hopened
  split at hopened
  · rename_i origin horigin
    rw [horigin] at hspec
    split at hopened
    · cases hopened
      cases origin with
      | file path => exact hkeep path hspec
      | scratch content => exact w.host.keepsContent_scratch content
    · cases hopened
  · cases hopened

theorem prepared?_of_opened? {output : Material} (hopened : opened? w choice s tree = some m)
    (hmaterial : ((tooling w o).stage o.preprocessor m tree).material = .ok output) :
    prepared? w choice o s tree =
      ((View.ofBytes output.content).decode? output.encoding o.limits {} (s.scanner o)).bind
        fun display => if display.isText then some output else none := by
  rw [prepared?, hopened]
  simp only [Option.bind_eq_bind, Option.bind_some, hmaterial]
  rfl

theorem preprocessorFailure?_of_opened? (hopened : opened? w choice s tree = some m) :
    preprocessorFailure? w choice o s tree = (tooling w o).failure? o.preprocessor m tree := by
  rw [preprocessorFailure?, hopened, Option.bind_some]

/-- The line matcher of a run fails on the text behind the preprocessor. -/
theorem lineMatcherFailure?_of_opened? {output : Material}
    (hopened : opened? w choice s tree = some m)
    (hmaterial : ((tooling w o).stage o.preprocessor m tree).material = .ok output) :
    lineMatcherFailure? w choice o s tree =
      ((View.ofBytes output.content).decode? output.encoding o.limits {} (s.scanner o)).bind
        fun display =>
          if display.isText then
            matchingFailure? w o (s.scanner o) output
              ((tooling w o).stage o.preprocessor m tree).tree
          else none := by
  rw [lineMatcherFailure?, hopened]
  simp only [Option.bind_eq_bind, Option.bind_some, prepared?_of_opened? hopened hmaterial,
    Option.bind_assoc]
  congr 1
  funext display
  split <;> rfl

/-- The report of a run says what happened to each command, and nothing else but what ended
the run. -/
theorem report_run
    (hkeep : ∀ path, s.input = .located (.file path) → w.host.KeepsContent (.file path))
    (choice : EncodingChoice) (o : Options) (tree : FileTree) :
    ∃ fatal, (run w choice o s tree).report =
        .of o (preprocessorFailure? w choice o s tree) (lineMatcherFailure? w choice o s tree)
          fatal ∧
      ∀ failure ∈ fatal, failure.isFatal = true := by
  cases hopened : opened? w choice s tree with
  | none =>
    obtain ⟨fatal, e, hfatal, hrun⟩ := run_of_opened?_none hopened
    refine ⟨fatal, ?_, hfatal⟩
    rw [preprocessorFailure?, lineMatcherFailure?, hopened]
    exact congrArg Outcome.report (hrun w.host o)
  | some m =>
    have hviewing := viewing_buildViews o (s.scanner o) (inPlace_of_opened? hkeep hopened)
    have hreport := report_preprocessed w o m tree
    have htree := tree_preprocessed o ((tooling w o).stage o.preprocessor m tree)
    rw [run_of_opened? hopened, preprocessorFailure?_of_opened? hopened]
    dsimp only
    generalize buildViews w o (s.scanner o) m tree = d at hviewing ⊢
    cases hviewing with
    | tooLarge material decodes =>
      refine ⟨some (.tooLarge m.origin.name), ?_, by simp [SourceFailure.isFatal]⟩
      rw [lineMatcherFailure?_of_opened? hopened material, decodes]
      simp only [Draft.fail, hreport, Report.of]
      simp
    | binary material decodes nonempty =>
      refine ⟨none, ?_, by simp⟩
      rw [lineMatcherFailure?_of_opened? hopened material, decodes, Option.bind_some,
        View.isText_ofBytes nonempty]
      exact hreport
    | text material decodes matching =>
      have hmatching := report_of_matching matching hreport
      rw [lineMatcherFailure?_of_opened? hopened material, View.decode?_of_ofBytes decodes,
        Option.bind_some, View.isText_ofPage, if_pos rfl, ← htree]
      exact hmatching

theorem preprocessor_ne_nil_of_failure? (h : preprocessorFailure? w choice o s tree ≠ none) :
    o.preprocessor ≠ [] := by
  obtain ⟨reason, hreason⟩ := Option.ne_none_iff_exists'.1 h
  obtain ⟨m, -, hfail⟩ := Option.bind_eq_some_iff.1 hreason
  exact Tooling.command_ne_nil_of_failure? hfail

theorem lineMatcher_ne_nil_of_failure? (h : lineMatcherFailure? w choice o s tree ≠ none) :
    o.lineMatcher ≠ [] := by
  obtain ⟨reason, hreason⟩ := Option.ne_none_iff_exists'.1 h
  simp only [lineMatcherFailure?, Option.bind_eq_bind, Option.bind_eq_some_iff] at hreason
  obtain ⟨input, -, m, -, hfail⟩ := hreason
  exact lineMatcher_ne_nil_of_matchingFailure? hfail

/-! ## Main statement -/

/-- **Reports are well formed.**  Where the commands leave the file of the source alone, the
report of a run is well formed: at most one failure ends the run and stands last, each command
is warned of at most once and in the order of the stages, just the commands that are warned of
are disabled, and the warnings name the commands that the options set.  A warning of a command
says why that command failed, and there is none of a command that did not fail; so what is
decoded in the place of an output is never warned of. -/
theorem report_wellFormed
    (hkeep : ∀ path, s.input = .located (.file path) → w.host.KeepsContent (.file path))
    (choice : EncodingChoice) (o : Options) (tree : FileTree) :
    let report := (run w choice o s tree).report
    report.WellFormed o ∧
      (∀ command reason, .preprocessorFailed command reason ∈ report.failures ↔
        command = o.preprocessor ∧ preprocessorFailure? w choice o s tree = some reason) ∧
      (∀ command reason, .lineMatcherFailed command reason ∈ report.failures ↔
        command = o.lineMatcher ∧ lineMatcherFailure? w choice o s tree = some reason) := by
  intro report
  obtain ⟨fatal, hreport, hfatal⟩ := report_run hkeep choice o tree
  rw [show report = _ from hreport]
  refine ⟨?_, ?_, ?_⟩
  · exact Report.wellFormed_of preprocessor_ne_nil_of_failure? lineMatcher_ne_nil_of_failure? hfatal
  · exact fun _ _ => Report.preprocessorFailed_mem_of hfatal
  · exact fun _ _ => Report.lineMatcherFailed_mem_of hfatal

/-- The preprocessor of a file fails, and the line matcher answers NUL to its text: two
warnings, in order. -/
theorem report_wellFormed_of_two_warnings :
    let w : Surroundings :=
      { host := ⟨fun l tree =>
          .ok ⟨[0xEF, 0xBB, 0xBF, 0x00], .exited (if l.command.program = ['p'] then 1 else 0), ⟨1⟩,
            tree⟩⟩ }
    let o : Options := { preprocessor := ['p'], lineMatcher := ['m'] }
    let s : Source := { input := .located (.file ['a']) }
    let tree : FileTree :=
      { nodes := [(["work".toList], .directory),
          (["work".toList, ['a']], .file [0xEF, 0xBB, 0xBF, 0x61])] }
    let report := (run w {} o s tree).report
    report.WellFormed o ∧
      .preprocessorFailed ['p'] (.exitStatus (.exited 1)) ∈ report.failures ∧
      .lineMatcherFailed ['m'] .notText ∈ report.failures ∧
      report.update.disablePreprocessor = true ∧ report.update.disableLineMatcher = true := by
  intro w o s tree report
  have hkeep : ∀ path, s.input = .located (.file path) → w.host.KeepsContent (.file path) := by
    intro path _ l t x _ hstart
    cases hstart
    rfl
  obtain ⟨hwellFormed, hpreprocessor, hlineMatcher⟩ := report_wellFormed hkeep {} o tree
  have hfirst : .preprocessorFailed ['p'] (.exitStatus (.exited 1)) ∈ report.failures :=
    (hpreprocessor _ _).2 ⟨rfl, rfl⟩
  have hsecond : .lineMatcherFailed ['m'] .notText ∈ report.failures :=
    (hlineMatcher _ _).2 ⟨rfl, rfl⟩
  refine ⟨hwellFormed, hfirst, hsecond, ?_, ?_⟩
  · exact hwellFormed.preprocessorDisabled.2 ⟨_, _, hfirst⟩
  · exact hwellFormed.lineMatcherDisabled.2 ⟨_, _, hsecond⟩

end

end Source

end TextIntake
