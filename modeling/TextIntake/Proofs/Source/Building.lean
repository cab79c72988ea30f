import TextIntake.Proofs.View
import TextIntake.Source.Run

set_option autoImplicit false

/-!
# What building the views leads to

`Tooling.Staging` lists what can come of a stage, `Source.Comparing` what can come of
building the comparison view, and `Source.Building` what can come of building both.
What is proved of every run is proved by these cases.

Main statements: `staging_stage`, `comparing_buildComparison`, `building_buildViews`,
`run_of_opened?` and `run_of_opened?_none`.
-/

namespace TextIntake

/-! ## Stages -/

namespace Tooling

variable {tooling : Tooling} {command : Text} {m output : Material} {tree : FileTree}
  {failure : SourceFailure}

/-- What can come of a stage. -/
inductive Staging (tooling : Tooling) (command : Text) (m : Material) (tree : FileTree) :
    Staged → Prop
  /-- There is no command. -/
  | skipped (empty : command = []) : Staging tooling command m tree ⟨.ok m, none, tree⟩
  /-- The command has an output, in its own encoding. -/
  | filtered {content : Bytes} {t : FileTree}
      (run : tooling.run command m tree =
        (.ok ⟨.scratch content, content, tooling.encoding.getD m.encoding⟩, t)) :
      Staging tooling command m tree
        ⟨.ok ⟨.scratch content, content, tooling.encoding.getD m.encoding⟩, none, t⟩
  /-- The command has failed, and the content was taken again. -/
  | restored {reason : CommandFailure} {t : FileTree} {content : Bytes}
      (run : tooling.run command m tree = (.error reason, t))
      (read : m.origin.read t = .ok content) :
      Staging tooling command m tree ⟨.ok { m with content }, some reason, t⟩
  /-- The command has failed, and the content is gone. -/
  | lost {reason : CommandFailure} {t : FileTree} {cause : IoFailure}
      (run : tooling.run command m tree = (.error reason, t))
      (read : m.origin.read t = .error cause) :
      Staging tooling command m tree
        ⟨.error (.readFailed m.origin.name cause), some reason, t⟩

/-- What a command makes of some material stands at no path and is in its own encoding: it is
the output of the filter, once all is prepared. -/
theorem exists_content_of_run {t : FileTree} (h : tooling.run command m tree = (.ok output, t)) :
    let attempt := tooling.workbench.attempt command m.content
    ∃ content, output = ⟨.scratch content, content, tooling.encoding.getD m.encoding⟩ ∧
      (tooling.preparations m).forM attempt = .ok () ∧
      tooling.host.filter attempt tooling.timeout command (tooling.handed m) tree =
        (.ok content, t) := by
  unfold run at h
  dsimp only at h
  split at h
  · cases h
  · rename_i hprepared
    split at h
    · cases h
    · rename_i content _ hresult
      split at h
      · cases h
      · cases h
        exact ⟨content, rfl, hprepared, hresult⟩

theorem staging_stage (tooling : Tooling) (command : Text) (m : Material) (tree : FileTree) :
    Staging tooling command m tree (tooling.stage command m tree) := by
  unfold stage
  split
  · rename_i hempty
    exact .skipped hempty
  · split
    · rename_i hrun
      obtain ⟨content, rfl, -⟩ := exists_content_of_run hrun
      exact .filtered hrun
    · rename_i hrun
      split
      · rename_i hread
        exact .restored hrun hread
      · rename_i hread
        exact .lost hrun hread

/-- What a stage leads on with is in the encoding of its material or of the commands. -/
theorem encoding_of_stage (h : (tooling.stage command m tree).material = .ok output) :
    output.encoding = m.encoding ∨ tooling.encoding = some output.encoding := by
  have hstaging := staging_stage tooling command m tree
  generalize tooling.stage command m tree = staged at h hstaging
  cases hstaging with
  | skipped =>
    cases h
    exact .inl rfl
  | filtered run =>
    cases h
    dsimp only
    cases tooling.encoding with
    | none => exact .inl rfl
    | some e => exact .inr rfl
  | restored run read =>
    cases h
    exact .inl rfl
  | lost run read => cases h

/-- Only content that cannot be taken again stops a stage, and that ends the run. -/
theorem isFatal_of_stage (h : (tooling.stage command m tree).material = .error failure) :
    failure.isFatal = true := by
  have hstaging := staging_stage tooling command m tree
  generalize tooling.stage command m tree = staged at h hstaging
  cases hstaging with
  | skipped => cases h
  | filtered run => cases h
  | restored run read => cases h
  | lost run read =>
    cases h
    rfl

end Tooling

/-- A report of a failure that ends the run is a report of one. -/
theorem Report.fatal?_ne_none {report : Report} {failure : SourceFailure}
    (hreported : failure ∈ report.failures) (hfatal : failure.isFatal = true) :
    report.fatal? ≠ none := by
  intro hnone
  exact List.find?_eq_none.1 hnone failure hreported hfatal

namespace Source

/-! ## The comparison view -/

/-- The lines to compare are those that are shown when there is no comparison view. -/
theorem comparisonLines?_of_unbuilt {s : Source} (h : s.comparison = {}) :
    s.comparisonLines? = s.display.lines? := by
  rw [comparisonLines?, h]
  rfl

section

variable {w : Surroundings} {o : Options} {scanner : Comment.Scanner} {name : Text}
  {m : Material} {d : Draft}

/-- What can come of building the comparison view on a draft. -/
inductive Comparing (o : Options) (scanner : Comment.Scanner) (m : Material) (d : Draft) :
    Draft → Prop
  /-- The run has ended. -/
  | ended {d' : Draft} {failure : SourceFailure} (reported : failure ∈ d'.report.failures)
      (fatal : failure.isFatal = true) : Comparing o scanner m d d'
  /-- There is no comparison view. -/
  | unbuilt {d' : Draft} (display : d'.display = d.display)
      (comparison : d'.comparison = d.comparison) : Comparing o scanner m d d'
  /-- Content was decoded, and padded to the lines of the display view. -/
  | built {d' : Draft} {input : Material} {own : Page} {scanner' : Comment.Scanner}
      (reads : input.encoding = m.encoding ∨ o.toolEncoding = some input.encoding)
      (copies : o.lineMatcher = [] → input = m)
      (decodes : Page.ofBytes input.encoding o.limits o.lineFilter scanner input.content =
        .ok (own, scanner'))
      (comparison : d'.comparison =
        (View.ofPage input.content own).padTo d.display.page.lineCount)
      (display : d'.display =
        if o.ignoreComments then d.display.adoptCommentFlags d'.comparison else d.display) :
      Comparing o scanner m d d'

/-- The material of the comparison view, and what looking for it leaves of a draft. -/
theorem comparisonMaterial_spec (w : Surroundings) (o : Options) (m : Material) (d : Draft) :
    (comparisonMaterial w o m d).2.display = d.display ∧
      (comparisonMaterial w o m d).2.comparison = d.comparison ∧
      match (comparisonMaterial w o m d).1 with
      | .error failure => failure.isFatal = true
      | .ok none => True
      | .ok (some input) =>
        (input.encoding = m.encoding ∨ o.toolEncoding = some input.encoding) ∧
          (o.lineMatcher = [] → input = m) := by
  unfold comparisonMaterial
  split
  · refine ⟨rfl, rfl, ?_⟩
    cases o.wantsComparisonCopy with
    | false => trivial
    | true => exact ⟨.inl rfl, fun _ => rfl⟩
  · rename_i hcommand
    dsimp only
    refine ⟨?_, ?_, ?_⟩
    · split <;> rfl
    · split <;> rfl
    · cases hmaterial : ((tooling w o).stage o.lineMatcher m d.tree).material with
      | error failure => exact Tooling.isFatal_of_stage hmaterial
      | ok input =>
        exact ⟨Tooling.encoding_of_stage hmaterial, fun hnone => absurd hnone hcommand⟩

/-- The comparison view is built from what its material decodes to. -/
theorem buildComparison_of_decoded {input : Material} {own : Page} {scanner' : Comment.Scanner}
    {d₁ : Draft} (hmaterial : comparisonMaterial w o m d = (.ok (some input), d₁))
    (hown : Page.ofBytes input.encoding o.limits o.lineFilter scanner input.content =
      .ok (own, scanner')) :
    buildComparison w o scanner name m d =
      let comparison := (View.ofPage input.content own).padTo d₁.display.page.lineCount
      { d₁ with
        display :=
          if o.ignoreComments then d₁.display.adoptCommentFlags comparison else d₁.display
        comparison } := by
  simp only [buildComparison, hmaterial, View.decode?_of_ofBytes hown, View.isText_ofPage,
    Bool.not_true, Bool.false_eq_true, if_false]

/-- Material that is no text is dropped with a warning. -/
theorem buildComparison_of_binary {input : Material} {d₁ : Draft}
    (hmaterial : comparisonMaterial w o m d = (.ok (some input), d₁))
    (hbinary : Page.ofBytes input.encoding o.limits o.lineFilter scanner input.content =
      .error .binary) :
    buildComparison w o scanner name m d = d₁.warnLineMatcher o.lineMatcher .notText := by
  have htext : (View.ofBytes input.content).isText = false :=
    View.isText_ofBytes (Page.ne_nil_of_refused hbinary)
  simp only [buildComparison, hmaterial, View.decode?_of_binary hbinary, htext, Bool.not_false,
    if_true]

/-- Material that is too large ends the run, and stays where it was to be decoded. -/
theorem buildComparison_of_tooLarge {input : Material} {d₁ : Draft}
    (hmaterial : comparisonMaterial w o m d = (.ok (some input), d₁))
    (hlarge : Page.ofBytes input.encoding o.limits o.lineFilter scanner input.content =
      .error .tooLarge) :
    buildComparison w o scanner name m d =
      ({ d₁ with comparison := .ofBytes input.content } : Draft).fail (.tooLarge name) := by
  simp only [buildComparison, hmaterial, View.decode?_of_tooLarge hlarge]

theorem comparing_buildComparison (w : Surroundings) (o : Options) (scanner : Comment.Scanner)
    (name : Text) (m : Material) (d : Draft) :
    Comparing o scanner m d (buildComparison w o scanner name m d) := by
  obtain ⟨hdisplay, hcomparison, hinput⟩ := comparisonMaterial_spec w o m d
  cases hmaterial : comparisonMaterial w o m d with
  | mk material d₁ =>
    rw [hmaterial] at hdisplay hcomparison hinput
    dsimp only at hdisplay hcomparison hinput
    cases material with
    | error failure =>
      refine .ended ?_ hinput
      simp [buildComparison, hmaterial, Draft.fail]
    | ok input? =>
      cases input? with
      | none =>
        refine .unbuilt ?_ ?_
        · simpa [buildComparison, hmaterial] using hdisplay
        · simpa [buildComparison, hmaterial] using hcomparison
      | some input =>
        cases hdecode : (View.ofBytes input.content).decode? input.encoding o.limits
            o.lineFilter scanner with
        | none =>
          have hreported : .tooLarge name ∈
              (buildComparison w o scanner name m d).report.failures := by
            simp [buildComparison, hmaterial, hdecode, Draft.fail]
          exact .ended hreported rfl
        | some view =>
          rcases View.decode?_eq_some_cases hdecode with ⟨own, scanner', hown, rfl⟩ | ⟨hne, rfl⟩
          · rw [buildComparison_of_decoded hmaterial hown, hdisplay]
            exact .built hinput.1 hinput.2 hown rfl rfl
          · -- what is no text is dropped with a warning
            have hdrop : buildComparison w o scanner name m d =
                d₁.warnLineMatcher o.lineMatcher .notText := by
              simp [buildComparison, hmaterial, hdecode, View.isText_ofBytes hne]
            rw [hdrop]
            exact .unbuilt hdisplay hcomparison

end

/-! ## Both views -/

section

variable {o : Options} {scanner : Comment.Scanner} {m : Material}

/-- What can come of building both views. -/
inductive Building (o : Options) (scanner : Comment.Scanner) (m : Material) : Draft → Prop
  /-- The run has ended. -/
  | ended {d : Draft} {failure : SourceFailure} (reported : failure ∈ d.report.failures)
      (fatal : failure.isFatal = true) : Building o scanner m d
  /-- The content is no text. -/
  | binary {d : Draft} {content : Bytes} (nonempty : content ≠ [])
      (display : d.display = .ofBytes content) (comparison : d.comparison = {}) :
      Building o scanner m d
  /-- The content is text, and a comparison view was looked for. -/
  | text {d d' : Draft} {output : Material} {page : Page} {scanner' : Comment.Scanner}
      (reads : output.encoding = m.encoding ∨ o.toolEncoding = some output.encoding)
      (decodes : Page.ofBytes output.encoding o.limits {} scanner output.content =
        .ok (page, scanner'))
      (display : d.display = .ofPage output.content page) (comparison : d.comparison = {})
      (compares : Comparing o scanner output d d') : Building o scanner m d'

/-- The draft behind the preprocessor. -/
def preprocessed (o : Options) (staged : Staged) : Draft :=
  match staged.failure with
  | some reason => Draft.warnPreprocessor { tree := staged.tree } o.preprocessor reason
  | none => { tree := staged.tree }

theorem tree_preprocessed (o : Options) (staged : Staged) :
    (preprocessed o staged).tree = staged.tree := by
  unfold preprocessed
  split <;> rfl

theorem comparison_preprocessed (o : Options) (staged : Staged) :
    (preprocessed o staged).comparison = {} := by
  unfold preprocessed
  split <;> rfl

/-- Text behind the preprocessor becomes the display view. -/
theorem buildViews_of_decoded {w : Surroundings} {tree : FileTree} {output : Material} {page : Page}
    {scanner' : Comment.Scanner}
    (hmaterial : ((tooling w o).stage o.preprocessor m tree).material = .ok output)
    (hpage : Page.ofBytes output.encoding o.limits {} scanner output.content =
      .ok (page, scanner')) :
    buildViews w o scanner m tree =
      buildComparison w o scanner m.origin.name output
        { preprocessed o ((tooling w o).stage o.preprocessor m tree) with
          display := .ofPage output.content page } := by
  simp only [buildViews, hmaterial, View.decode?_of_ofBytes hpage, View.isText_ofPage,
    Bool.not_true, Bool.false_eq_true, if_false]
  rfl

/-- Without content behind the preprocessor the run ends. -/
theorem buildViews_of_lost {w : Surroundings} {tree : FileTree} {failure : SourceFailure}
    (hlost : ((tooling w o).stage o.preprocessor m tree).material = .error failure) :
    buildViews w o scanner m tree =
      (preprocessed o ((tooling w o).stage o.preprocessor m tree)).fail failure := by
  simp only [buildViews, hlost]
  rfl

/-- Content behind the preprocessor that is too large ends the run, and stays where it was to be
decoded. -/
theorem buildViews_of_tooLarge {w : Surroundings} {tree : FileTree} {output : Material}
    (hmaterial : ((tooling w o).stage o.preprocessor m tree).material = .ok output)
    (hlarge : (View.ofBytes output.content).decode? output.encoding o.limits {} scanner = none) :
    buildViews w o scanner m tree =
      { preprocessed o ((tooling w o).stage o.preprocessor m tree) with
        display := .ofBytes output.content }.fail (.tooLarge m.origin.name) := by
  simp only [buildViews, hmaterial, hlarge]
  rfl

/-- Content behind the preprocessor that is no text is kept as it is. -/
theorem buildViews_of_binary {w : Surroundings} {tree : FileTree} {output : Material}
    (hmaterial : ((tooling w o).stage o.preprocessor m tree).material = .ok output)
    (hbinary : (View.ofBytes output.content).decode? output.encoding o.limits {} scanner =
      some (.ofBytes output.content)) (hnonempty : output.content ≠ []) :
    buildViews w o scanner m tree =
      { preprocessed o ((tooling w o).stage o.preprocessor m tree) with
        display := .ofBytes output.content } := by
  simp only [buildViews, hmaterial, hbinary, View.isText_ofBytes hnonempty, Bool.not_false,
    if_true]
  rfl

theorem building_buildViews (w : Surroundings) (o : Options) (scanner : Comment.Scanner)
    (m : Material) (tree : FileTree) :
    Building o scanner m (buildViews w o scanner m tree) := by
  have hcomparison := comparison_preprocessed o ((tooling w o).stage o.preprocessor m tree)
  cases hmaterial : ((tooling w o).stage o.preprocessor m tree).material with
  | error failure =>
    refine .ended ?_ (Tooling.isFatal_of_stage hmaterial)
    rw [buildViews_of_lost hmaterial]
    exact List.mem_append_right _ List.mem_cons_self
  | ok output =>
    cases hdecode : (View.ofBytes output.content).decode? output.encoding o.limits {} scanner with
    | none =>
      have hreported : .tooLarge m.origin.name ∈
          (buildViews w o scanner m tree).report.failures := by
        rw [buildViews_of_tooLarge hmaterial hdecode]
        exact List.mem_append_right _ List.mem_cons_self
      exact .ended hreported rfl
    | some view =>
      rcases View.decode?_eq_some_cases hdecode with ⟨page, scanner', hpage, rfl⟩ | ⟨hne, rfl⟩
      · have hcompares := comparing_buildComparison w o scanner m.origin.name output
          { preprocessed o ((tooling w o).stage o.preprocessor m tree) with
            display := .ofPage output.content page }
        rw [buildViews_of_decoded hmaterial hpage]
        refine .text (Tooling.encoding_of_stage hmaterial) hpage ?_ ?_ hcompares
        · rfl
        · exact hcomparison
      · rw [buildViews_of_binary hmaterial hdecode hne]
        exact .binary hne rfl hcomparison

end

/-! ## Runs -/

section

variable {w : Surroundings} {choice : EncodingChoice} {o : Options} {s : Source}
  {tree : FileTree}

/-- The content that a run finds, in its working encoding; none where there is nothing to
read. -/
def opened? (w : Surroundings) (choice : EncodingChoice) (s : Source) (tree : FileTree) :
    Option Material :=
  match (resolve w.fetcher tree s.input).origin with
  | .ok (some origin) =>
    match origin.read tree with
    | .ok content => some ⟨origin, content, workingEncoding choice s.input.isMemory (some content)⟩
    | .error _ => none
  | _ => none

/-- Looking up an input keeps what a remote location and its copy have in common. -/
theorem apply_resolve {α : Type} (f : Input → α)
    (hf : ∀ url content, f (.fetched url content) = f (.located (.remote url)))
    (fetcher : Fetcher) (tree : FileTree) (input : Input) :
    f (resolve fetcher tree input).input = f input := by
  cases input with
  | located location =>
    cases location with
    | none => rfl
    | file path => rfl
    | remote url =>
      simp only [resolve]
      split
      · rfl
      · exact hf url _
  | fetched url content => rfl
  | memory text => rfl

theorem isMemory_resolve (fetcher : Fetcher) (tree : FileTree) (input : Input) :
    (resolve fetcher tree input).input.isMemory = input.isMemory :=
  apply_resolve Input.isMemory (fun _ _ => rfl) fetcher tree input

theorem location_resolve (fetcher : Fetcher) (tree : FileTree) (input : Input) :
    (resolve fetcher tree input).input.location = input.location :=
  apply_resolve Input.location (fun _ _ => rfl) fetcher tree input

/-- The scanner that the lines of a source are read with. -/
def scanner (s : Source) (o : Options) : Comment.Scanner :=
  .start o.commentSyntax s.input.location.nameHint?

/-- A run that finds content builds the views from it. -/
theorem run_of_opened? {m : Material} (h : opened? w choice s tree = some m) :
    run w choice o s tree =
      let resolved := resolve w.fetcher tree s.input
      let d := buildViews w o (s.scanner o) m tree
      { source :=
          { input := resolved.input
            alias? := s.alias?
            encoding := some m.encoding
            display := d.display
            comparison := d.comparison }
        report := d.report
        tree := d.tree
        fetched := resolved.fetched } := by
  unfold opened? at h
  split at h
  · rename_i origin horigin
    split at h
    · rename_i content hcontent
      obtain rfl := Option.some.inj h
      simp only [run, horigin, hcontent, isMemory_resolve, location_resolve, scanner]
      rfl
    · cases h
  · cases h

/-- Looking up an input finds a failure that ends the run, nothing, the file that it names, or
content that stands at no path. -/
theorem resolve_spec (fetcher : Fetcher) (tree : FileTree) (input : Input) :
    match (resolve fetcher tree input).origin with
    | .error failure => failure.isFatal = true
    | .ok (some (.file path)) => input = .located (.file path)
    | _ => True := by
  cases input with
  | located location =>
    cases location with
    | none => trivial
    | file path =>
      simp only [resolve]
      cases (Location.file path).isReadable tree with
      | true => rfl
      | false => rfl
    | remote url =>
      simp only [resolve]
      cases fetcher.fetch url with
      | mk content failure =>
        cases failure with
        | none => trivial
        | some cause => rfl
  | fetched url content => trivial
  | memory text => trivial

/-- A run that finds no content ends there, whatever the commands are. -/
theorem run_of_opened?_none (h : opened? w choice s tree = none) :
    ∃ (fatal : Option SourceFailure) (e : Encoding),
      (∀ failure ∈ fatal, failure.isFatal = true) ∧
        ∀ (host : Host) (o : Options), run { w with host } choice o s tree =
          let resolved := resolve w.fetcher tree s.input
          { source := { input := resolved.input, alias? := s.alias?, encoding := some e }
            report := { failures := fatal.toList }
            tree
            fetched := resolved.fetched } := by
  have hspec := resolve_spec w.fetcher tree s.input
  unfold opened? at h
  cases horigin : (resolve w.fetcher tree s.input).origin with
  | error failure =>
    rw [horigin] at hspec
    refine ⟨some failure, choice.encoding, ?_, fun host o => ?_⟩
    · intro failure' hmem
      cases hmem
      exact hspec
    · simp only [run, horigin, Option.toList_some]
  | ok origin? =>
    cases origin? with
    | none =>
      refine ⟨none, choice.encoding, by simp, fun host o => ?_⟩
      simp only [run, horigin, Option.toList_none]
    | some origin =>
      rw [horigin] at h
      dsimp only at h
      cases hread : origin.read tree with
      | error cause =>
        refine ⟨none, workingEncoding choice (resolve w.fetcher tree s.input).input.isMemory none,
          by simp, fun host o => ?_⟩
        simp only [run, horigin, hread, Option.toList_none]
        rfl
      | ok content =>
        rw [hread] at h
        cases h

/-- A run that finds no content leaves both views empty. -/
theorem views_of_opened?_none (h : opened? w choice s tree = none) :
    (run w choice o s tree).source.display = {} ∧
      (run w choice o s tree).source.comparison = {} := by
  obtain ⟨fatal, e, -, hrun⟩ := run_of_opened?_none h
  have hagain : run w choice o s tree = _ := hrun w.host o
  rw [hagain]
  exact ⟨rfl, rfl⟩

end

end Source

end TextIntake
