import TextIntake.Proofs.Source.Fallback

set_option autoImplicit false

/-!
# Runs that a failure has ended

A failure ends a run where the content cannot be found or taken again, or is too large to be
split.  Up to the point at which the comparison view is decoded there is none, so that the
lines to compare are those that are shown.  At that point the view holds the bytes that it is
to be decoded from: when they are too large they stay there without lines, and there is
nothing to compare although there are lines to show.

Main statements: `ending_buildComparison` and `comparison_of_ended_run`.
-/

namespace TextIntake.Source

/-! ## What a report says of the end -/

namespace Draft

variable {d : Draft} {command : Text} {reason : CommandFailure} {failure : SourceFailure}

theorem fatal?_fail (hnone : d.report.fatal? = none) (hfatal : failure.isFatal = true) :
    (d.fail failure).report.fatal? = some failure := by
  have hbefore : d.report.failures.find? SourceFailure.isFatal = none := hnone
  show (d.report.failures ++ [failure]).find? SourceFailure.isFatal = some failure
  rw [List.find?_append, hbefore, Option.none_or, List.find?_cons_of_pos hfatal]

theorem fatal?_warnLineMatcher (hnone : d.report.fatal? = none) :
    (d.warnLineMatcher command reason).report.fatal? = none := by
  have hbefore : d.report.failures.find? SourceFailure.isFatal = none := hnone
  show (d.report.failures ++ [SourceFailure.lineMatcherFailed command reason]).find?
    SourceFailure.isFatal = none
  rw [List.find?_append, hbefore]
  rfl

end Draft

section

variable {w : Surroundings} {o : Options} {scanner : Comment.Scanner} {name : Text} {m : Material}
  {d : Draft}

/-- No failure of the preprocessor ends a run. -/
theorem fatal?_preprocessed (o : Options) (staged : Staged) :
    (preprocessed o staged).report.fatal? = none := by
  unfold preprocessed
  split <;> rfl

/-! ## The comparison view -/

/-- Looking for material warns at most. -/
theorem fatal?_comparisonMaterial (w : Surroundings) (o : Options) (m : Material)
    (hnone : d.report.fatal? = none) :
    (comparisonMaterial w o m d).2.report.fatal? = none := by
  unfold comparisonMaterial
  split
  · exact hnone
  · dsimp only
    split
    · exact Draft.fatal?_warnLineMatcher hnone
    · exact hnone

/-- The material of the comparison view does not depend on what was built so far. -/
theorem comparisonMaterial_of_tree {d' : Draft} (w : Surroundings) (o : Options) (m : Material)
    (htree : d.tree = d'.tree) :
    (comparisonMaterial w o m d).1 = (comparisonMaterial w o m d').1 := by
  unfold comparisonMaterial
  split
  · rfl
  · dsimp only
    rw [htree]

/-- What building the comparison view from some material leaves of a draft without one. -/
inductive Ending (o : Options) (scanner : Comment.Scanner) (name : Text) (d : Draft) :
    Except SourceFailure (Option Material) → Draft → Prop
  /-- The run goes on to its end. -/
  | going {material : Except SourceFailure (Option Material)} {d' : Draft}
      (goes : d'.report.fatal? = none) : Ending o scanner name d material d'
  /-- The material is gone. -/
  | lost {failure : SourceFailure} {d' : Draft} (comparison : d'.comparison = {}) :
      Ending o scanner name d (.error failure) d'
  /-- The material is too large. -/
  | oversized {input : Material} {d' : Draft}
      (decodes : Page.ofBytes input.encoding o.limits o.lineFilter scanner input.content =
        .error .tooLarge)
      (display : d'.display = d.display) (comparison : d'.comparison = .ofBytes input.content)
      (reported : d'.report.fatal? = some (.tooLarge name)) :
      Ending o scanner name d (.ok (some input)) d'

theorem ending_buildComparison (w : Surroundings) (o : Options) (scanner : Comment.Scanner)
    (name : Text) (m : Material) (hnone : d.report.fatal? = none)
    (hcomparison : d.comparison = {}) :
    Ending o scanner name d (comparisonMaterial w o m d).1
      (buildComparison w o scanner name m d) := by
  obtain ⟨hdisplay, hkept, -⟩ := comparisonMaterial_spec w o m d
  have hgoes := fatal?_comparisonMaterial w o m hnone
  cases hmaterial : comparisonMaterial w o m d with
  | mk material d₁ =>
    rw [hmaterial] at hdisplay hkept hgoes
    dsimp only at hdisplay hkept hgoes ⊢
    cases material with
    | error failure =>
      have hended : buildComparison w o scanner name m d = d₁.fail failure := by
        rw [buildComparison, hmaterial]
      rw [hended]
      exact .lost (hkept.trans hcomparison)
    | ok input? =>
      cases input? with
      | none =>
        have hunbuilt : buildComparison w o scanner name m d = d₁ := by
          rw [buildComparison, hmaterial]
        rw [hunbuilt]
        exact .going hgoes
      | some input =>
        cases hdecode : Page.ofBytes input.encoding o.limits o.lineFilter scanner
            input.content with
        | ok split =>
          obtain ⟨own, scanner'⟩ := split
          rw [buildComparison_of_decoded hmaterial hdecode]
          exact .going hgoes
        | error refusal =>
          cases refusal with
          | binary =>
            rw [buildComparison_of_binary hmaterial hdecode]
            exact .going (Draft.fatal?_warnLineMatcher hgoes)
          | tooLarge =>
            rw [buildComparison_of_tooLarge hmaterial hdecode]
            exact .oversized hdecode hdisplay rfl (Draft.fatal?_fail hgoes rfl)

end

/-! ## Runs -/

section

variable {w : Surroundings} {choice : EncodingChoice} {o : Options} {s : Source}
  {tree : FileTree} {d : Draft} {failure : SourceFailure}

/-- Content of which nothing is prepared for the line matcher ends the run or is no text, and
there is no comparison view. -/
theorem buildViews_of_prepared?_none {input : Material}
    (hopened : opened? w choice s tree = some input) (h : prepared? w choice o s tree = none) :
    let d := buildViews w o (s.scanner o) input tree
    d.comparison = {} ∧ (d.report.fatal? ≠ none ∨ d.display.isText = false) := by
  have hnone := fatal?_preprocessed o ((tooling w o).stage o.preprocessor input tree)
  have hunbuilt := comparison_preprocessed o ((tooling w o).stage o.preprocessor input tree)
  cases hmaterial : ((tooling w o).stage o.preprocessor input tree).material with
  | error failure =>
    rw [buildViews_of_lost hmaterial]
    refine ⟨hunbuilt, .inl ?_⟩
    rw [Draft.fatal?_fail hnone (Tooling.isFatal_of_stage hmaterial)]
    exact Option.some_ne_none failure
  | ok output =>
    simp only [prepared?, hopened, hmaterial, Option.bind_eq_bind, Option.bind_some,
      Except.toOption] at h
    cases hdecode : (View.ofBytes output.content).decode? output.encoding o.limits {}
        (s.scanner o) with
    | none =>
      have hfatal : ({ preprocessed o ((tooling w o).stage o.preprocessor input tree) with
          display := .ofBytes output.content }.fail
            (.tooLarge input.origin.name)).report.fatal? = some (.tooLarge input.origin.name) :=
        Draft.fatal?_fail hnone rfl
      rw [buildViews_of_tooLarge hmaterial hdecode]
      refine ⟨hunbuilt, .inl ?_⟩
      rw [hfatal]
      exact Option.some_ne_none _
    | some display =>
      rw [hdecode, Option.bind_some] at h
      rcases View.decode?_eq_some_cases hdecode with ⟨page, scanner', -, rfl⟩ | ⟨hne, rfl⟩
      · rw [View.isText_ofPage, if_pos rfl] at h
        cases h
      · rw [buildViews_of_binary hmaterial hdecode hne]
        exact ⟨hunbuilt, .inr (View.isText_ofBytes hne)⟩

/-- A run that prepares nothing for the line matcher builds no comparison view. -/
theorem comparison_of_prepared?_none (h : prepared? w choice o s tree = none) :
    (run w choice o s tree).source.comparison = {} := by
  cases hopened : opened? w choice s tree with
  | none => exact (views_of_opened?_none hopened).2
  | some input =>
    rw [run_of_opened? hopened]
    exact (buildViews_of_prepared?_none hopened h).1

/-- The material that a run decodes into the comparison view; none where it has none, or does
not come to look for it. -/
def compared? (w : Surroundings) (choice : EncodingChoice) (o : Options) (s : Source)
    (tree : FileTree) : Option Material := do
  let input ← opened? w choice s tree
  let m ← prepared? w choice o s tree
  let d : Draft := { tree := ((tooling w o).stage o.preprocessor input tree).tree }
  match (comparisonMaterial w o m d).1 with
  | .ok material => material
  | .error _ => none

theorem compared?_of_prepared? {input output : Material}
    (hopened : opened? w choice s tree = some input)
    (hprepared : prepared? w choice o s tree = some output)
    (hd : d.tree = ((tooling w o).stage o.preprocessor input tree).tree) :
    compared? w choice o s tree =
      match (comparisonMaterial w o output d).1 with
      | .ok material => material
      | .error _ => none := by
  have hsame : (comparisonMaterial w o output d).1 = (comparisonMaterial w o output
      { tree := ((tooling w o).stage o.preprocessor input tree).tree }).1 :=
    comparisonMaterial_of_tree w o output hd
  rw [hsame]
  simp only [compared?, hopened, hprepared, Option.bind_eq_bind, Option.bind_some]

/-- The material of the comparison view is more than may be split. -/
def Oversized (w : Surroundings) (choice : EncodingChoice) (o : Options) (s : Source)
    (tree : FileTree) : Prop :=
  ∃ m, compared? w choice o s tree = some m ∧
    Page.ofBytes m.encoding o.limits o.lineFilter (s.scanner o) m.content = .error .tooLarge

theorem not_oversized_of_compared?_none (h : compared? w choice o s tree = none) :
    ¬ Oversized w choice o s tree := by
  rintro ⟨m, hm, -⟩
  rw [h] at hm
  cases hm

/-- Material that is too large comes out of a line matcher: a copy of what is shown has its
size. -/
theorem lineMatcher_ne_nil_of_tooLarge {w : Surroundings} {scanner scanner' : Comment.Scanner}
    {output input : Material} {page : Page}
    (hpage : Page.ofBytes output.encoding o.limits {} scanner output.content =
      .ok (page, scanner'))
    (hmaterial : (comparisonMaterial w o output d).1 = .ok (some input))
    (hlarge : Page.ofBytes input.encoding o.limits o.lineFilter scanner input.content =
      .error .tooLarge) : o.lineMatcher ≠ [] := by
  intro hnone
  obtain ⟨-, -, hinput⟩ := comparisonMaterial_spec w o output d
  rw [hmaterial] at hinput
  obtain rfl := hinput.2 hnone
  obtain ⟨own, hown, -⟩ := Page.ofBytes_filtered hpage o.lineFilter
  rw [hown] at hlarge
  cases hlarge

/-- What a run that a failure has ended leaves: no comparison view, or one whose bytes are too
large, beside a display view of text. -/
inductive Left (w : Surroundings) (choice : EncodingChoice) (o : Options) (s : Source)
    (tree : FileTree) (failure : SourceFailure) (ended : Source) : Prop
  | unbuilt (fits : ¬ Oversized w choice o s tree) (comparison : ended.comparison = {})
  | oversized {name : Text} {content : Bytes} {page : Page} {input : Material}
      (compared : compared? w choice o s tree = some input)
      (decodes : Page.ofBytes input.encoding o.limits o.lineFilter (s.scanner o) input.content =
        .error .tooLarge)
      (command : o.lineMatcher ≠ []) (display : ended.display = .ofPage content page)
      (shown : page.WellFormed) (comparison : ended.comparison = .ofBytes input.content)
      (reported : failure = .tooLarge name)

theorem left_of_ended_run (h : (run w choice o s tree).report.fatal? = some failure) :
    Left w choice o s tree failure (run w choice o s tree).source := by
  cases hprepared : prepared? w choice o s tree with
  | none =>
    refine .unbuilt (not_oversized_of_compared?_none ?_) (comparison_of_prepared?_none hprepared)
    cases hopened : opened? w choice s tree with
    | none => simp only [compared?, hopened, Option.bind_eq_bind, Option.bind_none]
    | some input =>
      simp only [compared?, hopened, hprepared, Option.bind_eq_bind, Option.bind_some,
        Option.bind_none]
  | some output =>
    obtain ⟨input, page, scanner', hopened, hmaterial, hpage⟩ := prepared?_eq_some hprepared
    have hnone := fatal?_preprocessed o ((tooling w o).stage o.preprocessor input tree)
    have hunbuilt := comparison_preprocessed o ((tooling w o).stage o.preprocessor input tree)
    have htree := tree_preprocessed o ((tooling w o).stage o.preprocessor input tree)
    rw [run_of_opened? hopened, buildViews_of_decoded hmaterial hpage] at h ⊢
    dsimp only at h
    generalize preprocessed o ((tooling w o).stage o.preprocessor input tree) = d at *
    have hending := ending_buildComparison w o (s.scanner o) input.origin.name output
      (d := { d with display := .ofPage output.content page }) hnone hunbuilt
    have hcompared := compared?_of_prepared?
      (d := { d with display := .ofPage output.content page }) hopened hprepared htree
    generalize hlooked : (comparisonMaterial w o output
      { d with display := .ofPage output.content page }).1 = material at hending hcompared
    cases hending with
    | going goes =>
      rw [goes] at h
      cases h
    | lost comparison => exact .unbuilt (not_oversized_of_compared?_none hcompared) comparison
    | oversized decodes display comparison reported =>
      rw [reported] at h
      exact .oversized hcompared decodes (lineMatcher_ne_nil_of_tooLarge hpage hlooked decodes)
        display (Page.wellFormed_of_ofBytes hpage) comparison (Option.some.inj h).symm

/-- **What a failure leaves to compare.**  A run that a failure has ended has a comparison view
just when the material of that view was too large, which takes a line matcher.  Without a
comparison view the lines to compare are those that are shown.  With one there are lines to show
and none to compare: the view holds the bytes that were too large. -/
theorem comparison_of_ended_run (h : (run w choice o s tree).report.fatal? = some failure) :
    let ended := (run w choice o s tree).source
    (ended.comparison.hasData = false ↔ ¬ Oversized w choice o s tree) ∧
      (¬ Oversized w choice o s tree → ended.comparisonLines? = ended.display.lines?) ∧
      (Oversized w choice o s tree → o.lineMatcher ≠ [] ∧ (∃ name, failure = .tooLarge name) ∧
        ended.display.lines? ≠ none ∧ ended.comparisonLines? = none) := by
  intro ended
  have hleft : Left w choice o s tree failure ended := left_of_ended_run h
  clear_value ended
  cases hleft with
  | unbuilt fits comparison =>
    refine ⟨?_, fun _ => comparisonLines?_of_unbuilt comparison, fun large => absurd large fits⟩
    rw [comparison]
    exact ⟨fun _ => fits, fun _ => rfl⟩
  | oversized compared decodes command display shown comparison reported =>
    have hlarge : Oversized w choice o s tree := ⟨_, compared, decodes⟩
    refine ⟨?_, fun fits => absurd hlarge fits, fun _ => ⟨command, ⟨_, reported⟩, ?_, ?_⟩⟩
    · rw [comparison]
      exact ⟨fun hdata => absurd hdata (by simp [View.hasData, View.ofBytes]),
        fun fits => absurd hlarge fits⟩
    · rw [display, View.lines?_of_wellFormed shown]
      exact Option.some_ne_none _
    · rw [comparisonLines?, comparison]
      rfl

/-- Content of one line where none is allowed ends the run before there is a comparison view. -/
theorem comparison_of_ended_run_without_lines :
    let w : Surroundings := { host := ⟨fun _ _ => .error .notFound⟩ }
    let o : Options := { lineMatcher := ['m'], ignoreCase := true, limits := ⟨0, 100⟩ }
    let s : Source := { input := .memory ['\uFEFF', 'A'] }
    let ended := (run w {} o s {}).source
    (run w {} o s {}).report.fatal? = some (.tooLarge "<scratch>".toList) ∧
      ended.hasData = true ∧ ended.comparison.hasData = false ∧
      ended.comparisonLines? = ended.display.lines? := by
  intro w o s ended
  have hended : (run w {} o s {}).report.fatal? = some (.tooLarge "<scratch>".toList) := rfl
  have hfits : ¬ Oversized w {} o s {} := not_oversized_of_compared?_none rfl
  obtain ⟨hdata, hlines, -⟩ := comparison_of_ended_run hended
  exact ⟨hended, rfl, hdata.2 hfits, hlines hfits⟩

/-- A line matcher that answers two lines where one is allowed ends the run and leaves nothing to
compare with the line that is shown. -/
theorem comparison_of_oversized_match :
    let w : Surroundings :=
      { host :=
          ⟨fun _ tree => .ok ⟨[0xEF, 0xBB, 0xBF, 0x61, 0x0A, 0x62], .exited 0, ⟨1⟩, tree⟩⟩ }
    let o : Options := { lineMatcher := ['m'], limits := ⟨1, 100⟩ }
    let s : Source := { input := .memory ['\uFEFF', 'A'] }
    let ended := (run w {} o s {}).source
    (run w {} o s {}).report.fatal? = some (.tooLarge "<scratch>".toList) ∧
      ended.comparison.hasData = true ∧ ended.comparisonLines? = none ∧
      ended.display.lines?.map View.Lines.toList = some [['A']] :=
  ⟨rfl, rfl, rfl, rfl⟩

end

end TextIntake.Source
