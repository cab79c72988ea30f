import TextIntake.Proofs.Source.Copy

set_option autoImplicit false

/-!
# Falling back from a failed command

A run whose command fails goes on as if there were no such command.  All that is left
of the failure is a warning in the report, and the request to disable the command.  A
command fails also when a chore around it does.

Main statement: `run_of_failed_command`.
-/

namespace TextIntake

/-! ## Commands that leave the files alone -/

/-- Whatever a host starts leaves the files as they are. -/
def Host.KeepsFiles (h : Host) : Prop :=
  ∀ (l : Launch) (t : FileTree) (x : Execution), h.start l t = .ok x → x.tree = t

/-- A filter fails without having started anything, or collects the output of a program that
was started when both ends were open. -/
theorem Host.filter_cases (h : Host) (attempt : Chore → Except CommandFailure Unit)
    (limit : Option Duration) (line : Text) (input : Origin) (t : FileTree) :
    (∃ reason, h.filter attempt limit line input t = (.error reason, t)) ∨
      ∃ l x, l.output = none ∧ openBoth attempt t input = .ok () ∧ h.start l t = .ok x ∧
        h.filter attempt limit line input t = (x.collect attempt limit, x.tree) := by
  unfold filter
  split
  · exact .inl ⟨_, rfl⟩
  · split
    · exact .inl ⟨_, rfl⟩
    · rename_i hopen
      split
      · exact .inl ⟨_, rfl⟩
      · rename_i command _ _ _ _ x hlaunch
        unfold launch at hlaunch
        dsimp only at hlaunch
        split at hlaunch
        · cases hlaunch
        · split at hlaunch
          · cases hlaunch
          · rename_i hstart
            cases hlaunch
            exact .inr ⟨{ command, input, limit }, x, rfl, hopen, hstart, rfl⟩

/-- Behind a filter the files are as they were, or as a program has left them. -/
theorem Host.tree_filter (h : Host) (attempt : Chore → Except CommandFailure Unit)
    (limit : Option Duration) (line : Text) (input : Origin) (t : FileTree) :
    (h.filter attempt limit line input t).2 = t ∨ ∃ l x, l.output = none ∧ h.start l t = .ok x ∧
      (h.filter attempt limit line input t).2 = x.tree := by
  rcases h.filter_cases attempt limit line input t with
    ⟨reason, hfailed⟩ | ⟨l, x, houtput, -, hstart, hcollected⟩
  · exact .inl (congrArg Prod.snd hfailed)
  · exact .inr ⟨l, x, houtput, hstart, congrArg Prod.snd hcollected⟩

namespace Tooling

variable {tooling : Tooling} {command : Text} {m output : Material} {tree : FileTree}
  {reason : CommandFailure}

/-- Behind a command the files are as they were, or as a program has left them. -/
theorem tree_run (tooling : Tooling) (command : Text) (m : Material) (tree : FileTree) :
    (tooling.run command m tree).2 = tree ∨ ∃ l x, l.output = none ∧
      tooling.host.start l tree = .ok x ∧ (tooling.run command m tree).2 = x.tree := by
  have hfilter := Host.tree_filter tooling.host (tooling.workbench.attempt command m.content)
    tooling.timeout command (tooling.handed m) tree
  unfold run
  dsimp only
  split
  · exact .inl rfl
  · split
    · rename_i hresult
      rw [hresult] at hfilter
      exact hfilter
    · rename_i hresult
      rw [hresult] at hfilter
      split
      · exact hfilter
      · exact hfilter

/-- Behind a stage the files are as they were, or as a program has left them. -/
theorem tree_stage (tooling : Tooling) (command : Text) (m : Material) (tree : FileTree) :
    (tooling.stage command m tree).tree = tree ∨ ∃ l x, l.output = none ∧
      tooling.host.start l tree = .ok x ∧ (tooling.stage command m tree).tree = x.tree := by
  have hrun := tree_run tooling command m tree
  have hstaging := staging_stage tooling command m tree
  generalize tooling.stage command m tree = staged at hstaging
  cases hstaging with
  | skipped => exact .inl rfl
  | filtered run =>
    rw [run] at hrun
    exact hrun
  | restored run read =>
    rw [run] at hrun
    exact hrun
  | lost run read =>
    rw [run] at hrun
    exact hrun

theorem tree_of_stage (hkeep : tooling.host.KeepsFiles) (command : Text) (m : Material)
    (tree : FileTree) : (tooling.stage command m tree).tree = tree := by
  rcases tree_stage tooling command m tree with hsame | ⟨l, x, -, hstart, hleft⟩
  · exact hsame
  · exact hleft.trans (hkeep l tree x hstart)

theorem tree_of_run (hkeep : tooling.host.KeepsFiles) (command : Text) (m : Material)
    (tree : FileTree) : (tooling.run command m tree).2 = tree := by
  rcases tree_run tooling command m tree with hsame | ⟨l, x, -, hstart, hleft⟩
  · exact hsame
  · exact hleft.trans (hkeep l tree x hstart)

/-- What a stage leads on with stands where it can be taken from again. -/
theorem read_of_stage (hread : m.origin.read tree = .ok m.content)
    (h : (tooling.stage command m tree).material = .ok output) :
    output.origin.read (tooling.stage command m tree).tree = .ok output.content := by
  have hstaging := staging_stage tooling command m tree
  generalize tooling.stage command m tree = staged at h hstaging ⊢
  cases hstaging with
  | skipped =>
    cases h
    exact hread
  | filtered run =>
    cases h
    rfl
  | restored run read =>
    cases h
    exact read
  | lost run read => cases h

/-- Where the files are left alone, a command that fails leaves them as they were. -/
theorem run_of_error (hkeep : tooling.host.KeepsFiles)
    (hfail : (tooling.run command m tree).1 = .error reason) :
    tooling.run command m tree = (.error reason, tree) :=
  Prod.ext hfail (tree_of_run hkeep command m tree)

/-- A stage whose command fails leads on with what went into it, where that is still there. -/
theorem stage_of_run_error {t : FileTree} (hcommand : command ≠ [])
    (hrun : tooling.run command m tree = (.error reason, t))
    (hread : m.origin.read t = .ok m.content) :
    tooling.stage command m tree = { material := .ok m, failure := some reason, tree := t } := by
  rw [stage, if_neg hcommand, hrun]
  dsimp only
  rw [hread]

end Tooling

/-! ## Chores that fail -/

/-- Where one step behind another leads to something, the first has led to what the second goes
on with. -/
theorem exists_of_bind_eq_ok {ε α β : Type} {x : Except ε α} {f : α → Except ε β} {b : β}
    (h : (x >>= f) = .ok b) : ∃ a, x = .ok a ∧ f a = .ok b := by
  cases x with
  | error e => cases h
  | ok a => exact ⟨a, rfl, h⟩

section

variable {attempt : Chore → Except CommandFailure Unit}

theorem attempted_of_forM {chores : List Chore} (h : chores.forM attempt = .ok ()) :
    ∀ chore ∈ chores, attempt chore = .ok () := by
  induction chores with
  | nil => exact fun chore hnone => nomatch hnone
  | cons first rest ih =>
    obtain ⟨_, hfirst, hrest⟩ := exists_of_bind_eq_ok h
    rintro chore (- | ⟨_, hlater⟩)
    · exact hfirst
    · exact ih hrest chore hlater

/-- The chores of every filter. -/
def Host.chores : List Chore := [.openInput, .openOutput, .awaitEnd, .readOutput]

/-- Behind a filter that has an output all of its chores are done. -/
theorem Host.attempted_of_filter {h : Host} {limit : Option Duration} {line : Text}
    {input : Origin} {t : FileTree} {output : Bytes}
    (hfilter : (h.filter attempt limit line input t).1 = .ok output) :
    ∀ chore ∈ chores, attempt chore = .ok () := by
  rcases h.filter_cases attempt limit line input t with
    ⟨reason, hfailed⟩ | ⟨l, x, -, hopen, -, hcollected⟩
  · rw [hfailed] at hfilter
    cases hfilter
  · rw [hcollected] at hfilter
    obtain ⟨_, -, hopen⟩ := exists_of_bind_eq_ok hopen
    obtain ⟨_, hinput, houtput⟩ := exists_of_bind_eq_ok hopen
    obtain ⟨_, hend, hverdict⟩ := exists_of_bind_eq_ok hfilter
    obtain ⟨_, -, hcollect⟩ := exists_of_bind_eq_ok hverdict
    obtain ⟨_, hread, -⟩ := exists_of_bind_eq_ok hcollect
    simp only [chores, List.forall_mem_cons]
    exact ⟨hinput, houtput, hend, hread, fun chore hnone => nomatch hnone⟩

end

namespace Tooling

variable {tooling : Tooling} {command : Text} {m output : Material} {tree : FileTree}

/-- All that is done around a command on some material. -/
def chores (tooling : Tooling) (m : Material) : List Chore := tooling.preparations m ++ Host.chores

/-- Behind a command that has an output all chores are done. -/
theorem attempted_of_run (h : (tooling.run command m tree).1 = .ok output) :
    ∀ chore ∈ tooling.chores m, tooling.workbench.attempt command m.content chore = .ok () := by
  obtain ⟨content, -, hprepared, hfilter⟩ := exists_content_of_run (Prod.ext h rfl)
  intro chore hchore
  rcases List.mem_append.1 hchore with hbefore | hthen
  · exact attempted_of_forM hprepared chore hbefore
  · exact Host.attempted_of_filter (congrArg Prod.fst hfilter) chore hthen

/-- A command fails when there is an obstacle to any of its chores. -/
theorem exists_reason_of_obstacle {chore : Chore} {cause : IoFailure}
    (hchore : chore ∈ tooling.chores m)
    (hobstacle : tooling.workbench.obstacle command m.content chore = some cause)
    (tree : FileTree) : ∃ reason, (tooling.run command m tree).1 = .error reason := by
  cases hrun : (tooling.run command m tree).1 with
  | error reason => exact ⟨reason, rfl⟩
  | ok output =>
    have hdone := attempted_of_run hrun chore hchore
    rw [Workbench.attempt, hobstacle] at hdone
    cases hdone

end Tooling

/-! ## Reports in front -/

/-- Two reports, one after the other. -/
def Report.append (earlier later : Report) : Report where
  failures := earlier.failures ++ later.failures
  update :=
    { disablePreprocessor :=
        earlier.update.disablePreprocessor || later.update.disablePreprocessor
      disableLineMatcher := earlier.update.disableLineMatcher || later.update.disableLineMatcher }

namespace Source

/-- A draft with a report put in front of its own. -/
def Draft.after (d : Draft) (earlier : Report) : Draft :=
  { d with report := earlier.append d.report }

section

variable {w : Surroundings} {o : Options} {scanner : Comment.Scanner} {m : Material}
  {tree : FileTree} {reason : CommandFailure} {d : Draft} {earlier : Report}

theorem fail_after (d : Draft) (earlier : Report) (failure : SourceFailure) :
    (d.after earlier).fail failure = (d.fail failure).after earlier := by
  simp only [Draft.after, Draft.fail, Report.append, List.append_assoc]

theorem warnLineMatcher_after (d : Draft) (earlier : Report) (command : Text)
    (reason : CommandFailure) :
    (d.after earlier).warnLineMatcher command reason =
      (d.warnLineMatcher command reason).after earlier := by
  simp only [Draft.after, Draft.warnLineMatcher, Report.append, List.append_assoc, Bool.or_true]

theorem comparisonMaterial_after (w : Surroundings) (o : Options) (m : Material) (d : Draft)
    (earlier : Report) :
    comparisonMaterial w o m (d.after earlier) =
      ((comparisonMaterial w o m d).1, (comparisonMaterial w o m d).2.after earlier) := by
  unfold comparisonMaterial
  split
  · rfl
  · rw [show (d.after earlier).tree = d.tree from rfl]
    generalize (tooling w o).stage o.lineMatcher m d.tree = staged
    dsimp only
    cases staged.failure with
    | none => rfl
    | some reason =>
      exact Prod.ext rfl
        (warnLineMatcher_after { d with tree := staged.tree } earlier o.lineMatcher reason)

/-- What was reported before makes no difference to the comparison view. -/
theorem buildComparison_after (w : Surroundings) (o : Options) (scanner : Comment.Scanner)
    (name : Text) (m : Material) (d : Draft) (earlier : Report) :
    buildComparison w o scanner name m (d.after earlier) =
      (buildComparison w o scanner name m d).after earlier := by
  unfold buildComparison
  rw [comparisonMaterial_after]
  cases comparisonMaterial w o m d with
  | mk material d₁ =>
    cases material with
    | error failure => exact fail_after d₁ earlier failure
    | ok input? =>
      cases input? with
      | none => rfl
      | some input =>
        dsimp only
        split
        · exact fail_after { d₁ with comparison := _ } earlier _
        · split
          · exact warnLineMatcher_after d₁ earlier _ _
          · rfl

/-! ## Building without the command -/

/-- The preprocessor has no part in the comparison view. -/
theorem buildComparison_preprocessor (w : Surroundings) (o : Options) (scanner : Comment.Scanner)
    (name : Text) (m : Material) (d : Draft) :
    buildComparison w { o with preprocessor := [] } scanner name m d =
      buildComparison w o scanner name m d := rfl

/-- A preprocessor that fails leaves its warning in front of everything that is reported
without it. -/
theorem buildViews_of_failed_preprocessor (hkeep : w.host.KeepsFiles)
    (hcommand : o.preprocessor ≠ []) (hread : m.origin.read tree = .ok m.content)
    (hfail : ((tooling w o).run o.preprocessor m tree).1 = .error reason) :
    buildViews w o scanner m tree =
      (buildViews w { o with preprocessor := [] } scanner m tree).after
        ⟨[.preprocessorFailed o.preprocessor reason], { disablePreprocessor := true }⟩ := by
  have hstage : (tooling w o).stage o.preprocessor m tree = ⟨.ok m, some reason, tree⟩ :=
    Tooling.stage_of_run_error hcommand (Tooling.run_of_error hkeep hfail) hread
  have hnone : (tooling w { o with preprocessor := [] }).stage [] m tree =
      ⟨.ok m, none, tree⟩ := rfl
  unfold buildViews
  rw [hstage, hnone]
  dsimp only
  cases (View.ofBytes m.content).decode? m.encoding o.limits {} scanner with
  | none =>
    exact fail_after { display := .ofBytes m.content, tree }
      ⟨[.preprocessorFailed o.preprocessor reason], { disablePreprocessor := true }⟩ _
  | some display =>
    dsimp only
    split
    · rfl
    · rw [buildComparison_preprocessor]
      exact buildComparison_after w o scanner m.origin.name m { display, tree }
        ⟨[.preprocessorFailed o.preprocessor reason], { disablePreprocessor := true }⟩

/-- The material of a line matcher that fails is the display material. -/
theorem comparisonMaterial_of_failed_lineMatcher {t : FileTree} (hcommand : o.lineMatcher ≠ [])
    (hrun : (tooling w o).run o.lineMatcher m d.tree = (.error reason, t))
    (hread : m.origin.read t = .ok m.content) :
    comparisonMaterial w o m d =
      (.ok (some m), ({ d with tree := t } : Draft).warnLineMatcher o.lineMatcher reason) := by
  rw [comparisonMaterial, if_neg hcommand, Tooling.stage_of_run_error hcommand hrun hread]
  rfl

/-- A line matcher that fails leaves its warning behind everything that is reported without
it, and at most a second copy of the display view. -/
theorem buildComparison_of_failed_lineMatcher {page : Page} {scanner' : Comment.Scanner}
    (name : Text) (hkeep : w.host.KeepsFiles) (hcommand : o.lineMatcher ≠ [])
    (hread : m.origin.read d.tree = .ok m.content)
    (hpage : Page.ofBytes m.encoding o.limits {} scanner m.content = .ok (page, scanner'))
    (hdisplay : d.display = .ofPage m.content page) (hcomparison : d.comparison = {})
    (hfail : ((tooling w o).run o.lineMatcher m d.tree).1 = .error reason) :
    let without := buildComparison w { o with lineMatcher := [] } scanner name m d
    ∃ comparison, buildComparison w o scanner name m d =
        { without.warnLineMatcher o.lineMatcher reason with comparison } ∧
      (comparison = without.comparison ∨
        (without.comparison = {} ∧ comparison = without.display)) := by
  obtain ⟨own, hown, -, hfailed⟩ := buildComparison_of_copy name
    (comparisonMaterial_of_failed_lineMatcher hcommand (Tooling.run_of_error hkeep hfail) hread)
    hpage hdisplay
  obtain ⟨again, hagain, -, hwithout⟩ := buildComparison_without_lineMatcher
    (o := { o with lineMatcher := [] }) w name rfl hpage hdisplay hcomparison
  -- both runs decode the content under the same filter
  rw [show Options.lineFilter { o with lineMatcher := [] } = o.lineFilter from rfl, hown] at hagain
  obtain ⟨rfl, -⟩ := Prod.mk.inj (Except.ok.inj hagain)
  rw [hfailed, hwithout]
  refine ⟨.ofPage m.content own, rfl, ?_⟩
  cases hwants : o.wantsComparisonCopy with
  | true => exact .inl (if_pos hwants).symm
  | false =>
    -- nothing is filtered, so that the copy shows what the display view shows
    rw [lineFilter_of_wantsComparisonCopy_eq_false hwants, hpage] at hown
    obtain ⟨rfl, -⟩ := Prod.mk.inj (Except.ok.inj hown)
    refine .inr ⟨if_neg ?_, hdisplay.symm⟩
    exact fun hcopy => Bool.false_ne_true (hwants.symm.trans hcopy)

/-- A line matcher that fails on what the preprocessor leads on with leaves its warning
behind everything that is reported without it. -/
theorem buildViews_of_failed_lineMatcher {output : Material} {page : Page}
    {scanner' : Comment.Scanner} (hkeep : w.host.KeepsFiles) (hcommand : o.lineMatcher ≠ [])
    (hread : m.origin.read tree = .ok m.content)
    (hmaterial : ((tooling w o).stage o.preprocessor m tree).material = .ok output)
    (hpage : Page.ofBytes output.encoding o.limits {} scanner output.content =
      .ok (page, scanner'))
    (hfail : ((tooling w o).run o.lineMatcher output tree).1 = .error reason) :
    let without := buildViews w { o with lineMatcher := [] } scanner m tree
    ∃ comparison, buildViews w o scanner m tree =
        { without.warnLineMatcher o.lineMatcher reason with comparison } ∧
      (comparison = without.comparison ∨
        (without.comparison = {} ∧ comparison = without.display)) := by
  have hagain := Tooling.read_of_stage hread hmaterial
  have htree : (preprocessed o ((tooling w o).stage o.preprocessor m tree)).tree = tree :=
    (tree_preprocessed _ _).trans (Tooling.tree_of_stage hkeep o.preprocessor m tree)
  rw [Tooling.tree_of_stage hkeep o.preprocessor m tree, ← htree] at hagain
  rw [← htree] at hfail
  have hwithout : buildViews w { o with lineMatcher := [] } scanner m tree = _ :=
    buildViews_of_decoded hmaterial hpage
  rw [buildViews_of_decoded hmaterial hpage, hwithout]
  exact buildComparison_of_failed_lineMatcher m.origin.name hkeep hcommand hagain hpage rfl
    (comparison_preprocessed _ _) hfail

end

/-! ## Runs without the command -/

variable {w : Surroundings} {choice : EncodingChoice} {o : Options} {s : Source}
  {tree : FileTree} {m : Material}

/-- The content that a run hands to the line matcher: what stands behind the preprocessor,
where that is text. -/
def prepared? (w : Surroundings) (choice : EncodingChoice) (o : Options) (s : Source)
    (tree : FileTree) : Option Material := do
  let m ← opened? w choice s tree
  let output ← ((tooling w o).stage o.preprocessor m tree).material.toOption
  let display ← (View.ofBytes output.content).decode? output.encoding o.limits {} (s.scanner o)
  if display.isText then some output else none

theorem read_of_opened? (h : opened? w choice s tree = some m) :
    m.origin.read tree = .ok m.content := by
  unfold opened? at h
  split at h
  · split at h
    · rename_i hcontent
      cases h
      exact hcontent
    · cases h
  · cases h

/-- What is prepared for the line matcher comes out of the preprocessor and splits into a
page. -/
theorem prepared?_eq_some (h : prepared? w choice o s tree = some m) :
    ∃ input page scanner', opened? w choice s tree = some input ∧
      ((tooling w o).stage o.preprocessor input tree).material = .ok m ∧
      Page.ofBytes m.encoding o.limits {} (s.scanner o) m.content = .ok (page, scanner') := by
  simp only [prepared?, Option.bind_eq_bind, Option.bind_eq_some_iff] at h
  obtain ⟨input, hopened, output, houtput, display, hdecode, htext⟩ := h
  have hmaterial : ((tooling w o).stage o.preprocessor input tree).material = .ok output := by
    cases hcase : ((tooling w o).stage o.preprocessor input tree).material with
    | error failure =>
      rw [hcase] at houtput
      cases houtput
    | ok _ =>
      rw [hcase] at houtput
      cases houtput
      rfl
  rcases View.decode?_eq_some_cases hdecode with ⟨page, scanner', hpage, rfl⟩ | ⟨hne, rfl⟩
  · rw [View.isText_ofPage, if_pos rfl] at htext
    cases htext
    exact ⟨input, page, scanner', hopened, hmaterial, hpage⟩
  · rw [View.isText_ofBytes hne] at htext
    cases htext

/-- A run whose preprocessor fails is the run without one, but for the warning. -/
theorem run_of_failed_preprocessor {reason : CommandFailure} (hkeep : w.host.KeepsFiles)
    (hopened : opened? w choice s tree = some m) (hcommand : o.preprocessor ≠ [])
    (hfail : ((tooling w o).run o.preprocessor m tree).1 = .error reason) :
    let without := run w choice { o with preprocessor := [] } s tree
    run w choice o s tree =
      { without with
        report :=
          { failures := .preprocessorFailed o.preprocessor reason :: without.report.failures
            update := { without.report.update with disablePreprocessor := true } } } := by
  have hviews : buildViews w o (s.scanner o) m tree = _ :=
    buildViews_of_failed_preprocessor hkeep hcommand (read_of_opened? hopened) hfail
  rw [run_of_opened? hopened, run_of_opened? hopened, hviews]
  rfl

/-- A run whose line matcher fails shows and compares what the run without one does. -/
theorem run_of_failed_lineMatcher {reason : CommandFailure} (hkeep : w.host.KeepsFiles)
    (hprepared : prepared? w choice o s tree = some m) (hcommand : o.lineMatcher ≠ [])
    (hfail : ((tooling w o).run o.lineMatcher m tree).1 = .error reason) :
    let without := run w choice { o with lineMatcher := [] } s tree
    ∃ comparison, run w choice o s tree =
        { without with
          source := { without.source with comparison }
          report :=
            { failures := without.report.failures ++ [.lineMatcherFailed o.lineMatcher reason]
              update := { without.report.update with disableLineMatcher := true } } } ∧
      (comparison = without.source.comparison ∨
        (without.source.comparison = {} ∧ comparison = without.source.display)) := by
  obtain ⟨input, page, scanner', hopened, hmaterial, hpage⟩ := prepared?_eq_some hprepared
  obtain ⟨comparison, hviews, hcomparison⟩ := buildViews_of_failed_lineMatcher hkeep hcommand
    (read_of_opened? hopened) hmaterial hpage hfail
  rw [run_of_opened? hopened, run_of_opened? hopened, hviews]
  exact ⟨comparison, rfl, hcomparison⟩

/-- **A failing command is transparent.**  Where commands leave the files alone, a run whose
preprocessor fails, for whatever reason, is the run without a preprocessor, with one warning
in front of its report.  A run whose line matcher fails on the text it is handed shows and
compares the lines that the run without a line matcher does, with one warning at the end
of its report.  An obstacle to any chore of a command, such as writing its copy of the
content, makes the command fail. -/
theorem run_of_failed_command (hkeep : w.host.KeepsFiles) (choice : EncodingChoice)
    (o : Options) (s : Source) (tree : FileTree) :
    (∀ m reason, opened? w choice s tree = some m → o.preprocessor ≠ [] →
      ((tooling w o).run o.preprocessor m tree).1 = .error reason →
      let without := run w choice { o with preprocessor := [] } s tree
      run w choice o s tree =
        { without with
          report :=
            { failures := .preprocessorFailed o.preprocessor reason :: without.report.failures
              update := { without.report.update with disablePreprocessor := true } } }) ∧
    (∀ m reason, prepared? w choice o s tree = some m → o.lineMatcher ≠ [] →
      ((tooling w o).run o.lineMatcher m tree).1 = .error reason →
      let without := run w choice { o with lineMatcher := [] } s tree
      let outcome := run w choice o s tree
      outcome.source.display = without.source.display ∧
        outcome.source.comparisonLines? = without.source.comparisonLines? ∧
        outcome.source.encoding = without.source.encoding ∧
        outcome.report =
          { failures := without.report.failures ++ [.lineMatcherFailed o.lineMatcher reason]
            update := { without.report.update with disableLineMatcher := true } } ∧
        outcome.tree = without.tree ∧ outcome.fetched = without.fetched) ∧
    (∀ command m chore cause, chore ∈ (tooling w o).chores m →
      w.workbench.obstacle command m.content chore = some cause →
      ∃ reason, ((tooling w o).run command m tree).1 = .error reason) := by
  refine ⟨?_, ?_, ?_⟩
  · intro m reason hopened hcommand hfail
    exact run_of_failed_preprocessor hkeep hopened hcommand hfail
  · intro m reason hprepared hcommand hfail
    obtain ⟨comparison, hrun, hcomparison⟩ :=
      run_of_failed_lineMatcher hkeep hprepared hcommand hfail
    dsimp only
    rw [hrun]
    refine ⟨rfl, ?_, rfl, rfl, rfl, rfl⟩
    rcases hcomparison with rfl | ⟨hnone, rfl⟩
    · rfl
    · rw [comparisonLines?_of_unbuilt hnone, comparisonLines?]
      exact ite_self _
  · intro command m chore cause hchore hobstacle
    exact Tooling.exists_reason_of_obstacle hchore hobstacle tree

/-- There is no room for the copy that the preprocessor is to read, and the line matcher exits
with status 1: the warnings stand in the order of the stages, and the lines are those of the
content. -/
theorem run_of_unwritten_copy :
    let w : Surroundings :=
      { host := ⟨fun _ tree => .ok ⟨[], .exited 1, ⟨1⟩, tree⟩⟩
        workbench := ⟨fun line _ chore =>
          if line = ['p'] ∧ chore = .writeCopy then some .noSpace else none⟩ }
    let o : Options :=
      { preprocessor := ['p'], lineMatcher := ['m'], toolEncoding := some .utf16le }
    let s : Source := { input := .memory ['\uFEFF', 'a', '\n', 'b'] }
    let content : Bytes := [0xEF, 0xBB, 0xBF, 0x61, 0x0A, 0x62]
    (∃ reason, ((tooling w o).run ['p'] ⟨.scratch content, content, .utf8⟩ {}).1 =
        .error reason) ∧
      run w {} o s {} =
        { run w {} { o with preprocessor := [] } s {} with
          report :=
            { failures :=
                [.preprocessorFailed ['p'] (.io .noSpace),
                  .lineMatcherFailed ['m'] (.exitStatus (.exited 1))]
              update := ⟨true, true⟩ } } ∧
      (run w {} o s {}).source.comparisonLines? =
        (run w {} { o with lineMatcher := [] } s {}).source.comparisonLines? ∧
      (run w {} o s {}).source.comparisonLines?.map View.Lines.toList = some [['a'], ['b']] := by
  intro w o s content
  have hkeep : w.host.KeepsFiles := by
    intro l t x h
    cases h
    rfl
  obtain ⟨hpreprocessor, hlineMatcher, hobstacle⟩ := run_of_failed_command hkeep {} o s {}
  refine ⟨?_, ?_, ?_, rfl⟩
  · exact hobstacle ['p'] ⟨.scratch content, content, .utf8⟩ .writeCopy .noSpace (by decide) rfl
  · exact hpreprocessor _ (.io .noSpace) rfl (by decide) rfl
  · exact (hlineMatcher _ (.exitStatus (.exited 1)) rfl (by decide) rfl).2.1

end Source

end TextIntake
