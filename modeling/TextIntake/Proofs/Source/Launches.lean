import TextIntake.Proofs.Source.Reporting

set_option autoImplicit false

/-!
# What a run starts

A run starts at most two programs: that of the preprocessor on the content, and that of the
line matcher on the text behind it.  Nothing else of what a host would start has a part in
the outcome, so that two hosts which agree on these two launches lead to the same run.

Main statement: `run_of_agreeing`.
-/

namespace TextIntake

/-- Two hosts do the same with a launch, if there is one. -/
def Host.AgreesOn (h' h : Host) (launch? : Option Launch) : Prop :=
  ∀ l ∈ launch?, ∀ t, h'.start l t = h.start l t

/-! ## Stages -/

namespace Tooling

variable {tooling : Tooling} {h' : Host} {command : Text} {m : Material}

/-- What a command line starts on some material, unless a chore fails before; a line without a
command starts nothing. -/
def launch? (tooling : Tooling) (command : Text) (m : Material) : Option Launch :=
  (Command.read command).toOption.map fun command =>
    { command, input := tooling.handed m, limit := tooling.timeout }

theorem launch?_nil (tooling : Tooling) (m : Material) : tooling.launch? [] m = none := rfl

theorem run_of_agreeing (h : h'.AgreesOn tooling.host (tooling.launch? command m))
    (tree : FileTree) :
    { tooling with host := h' }.run command m tree = tooling.run command m tree := by
  have hfilter (attempt : Chore → Except CommandFailure Unit) :
      h'.filter attempt tooling.timeout command (tooling.handed m) tree =
        tooling.host.filter attempt tooling.timeout command (tooling.handed m) tree := by
    unfold Host.filter
    cases hread : Command.read command with
    | error reason => rfl
    | ok read =>
      have hstart : h'.start ⟨read, tooling.handed m, none, tooling.timeout⟩ tree =
          tooling.host.start ⟨read, tooling.handed m, none, tooling.timeout⟩ tree := by
        apply h
        rw [launch?, hread]
        rfl
      simp only [Host.launch, hstart]
  have hpreparations : { tooling with host := h' }.preparations m = tooling.preparations m := rfl
  have hhanded : { tooling with host := h' }.handed m = tooling.handed m := rfl
  rw [run, run]
  dsimp only
  rw [hpreparations, hhanded, hfilter]

theorem stage_of_agreeing (h : h'.AgreesOn tooling.host (tooling.launch? command m))
    (tree : FileTree) :
    { tooling with host := h' }.stage command m tree = tooling.stage command m tree := by
  rw [stage, stage, run_of_agreeing h]

end Tooling

namespace Source

/-! ## Building the views -/

section

variable {w : Surroundings} {host' : Host} {o : Options} {scanner : Comment.Scanner}
  {m : Material}

theorem buildComparison_of_agreeing (name : Text) (d : Draft)
    (h : host'.AgreesOn w.host ((tooling w o).launch? o.lineMatcher m)) :
    buildComparison { w with host := host' } o scanner name m d =
      buildComparison w o scanner name m d := by
  have hstage : (tooling { w with host := host' } o).stage o.lineMatcher m d.tree =
      (tooling w o).stage o.lineMatcher m d.tree := Tooling.stage_of_agreeing h d.tree
  rw [buildComparison, buildComparison, comparisonMaterial, comparisonMaterial, hstage]

/-- The comparison view is looked for only behind text. -/
theorem buildViews_of_agreeing {tree : FileTree}
    (hpreprocessor : host'.AgreesOn w.host ((tooling w o).launch? o.preprocessor m))
    (hlineMatcher : ∀ output display,
      ((tooling w o).stage o.preprocessor m tree).material = .ok output →
      (View.ofBytes output.content).decode? output.encoding o.limits {} scanner = some display →
      display.isText = true →
      host'.AgreesOn w.host ((tooling w o).launch? o.lineMatcher output)) :
    buildViews { w with host := host' } o scanner m tree = buildViews w o scanner m tree := by
  have hstage : (tooling { w with host := host' } o).stage o.preprocessor m tree =
      (tooling w o).stage o.preprocessor m tree := Tooling.stage_of_agreeing hpreprocessor tree
  rw [buildViews, buildViews, hstage]
  dsimp only
  cases hmaterial : ((tooling w o).stage o.preprocessor m tree).material with
  | error failure => rfl
  | ok output =>
    dsimp only
    cases hdecode : (View.ofBytes output.content).decode? output.encoding o.limits {} scanner with
    | none => rfl
    | some display =>
      dsimp only
      cases htext : display.isText with
      | false => rfl
      | true => exact buildComparison_of_agreeing _ _ (hlineMatcher _ _ hmaterial hdecode htext)

end

/-! ## Runs -/

variable {w : Surroundings} {choice : EncodingChoice} {o : Options} {s : Source}
  {tree : FileTree} {host' : Host}

/-- What a run starts as its preprocessor. -/
def preprocessorLaunch? (w : Surroundings) (choice : EncodingChoice) (o : Options) (s : Source)
    (tree : FileTree) : Option Launch :=
  (opened? w choice s tree).bind ((tooling w o).launch? o.preprocessor)

/-- What a run starts as its line matcher. -/
def lineMatcherLaunch? (w : Surroundings) (choice : EncodingChoice) (o : Options) (s : Source)
    (tree : FileTree) : Option Launch :=
  (prepared? w choice o s tree).bind ((tooling w o).launch? o.lineMatcher)

theorem preprocessorLaunch?_of_empty (h : o.preprocessor = []) :
    preprocessorLaunch? w choice o s tree = none := by
  rw [preprocessorLaunch?, h]
  cases opened? w choice s tree with
  | none => rfl
  | some m => exact Tooling.launch?_nil (tooling w o) m

theorem lineMatcherLaunch?_of_empty (h : o.lineMatcher = []) :
    lineMatcherLaunch? w choice o s tree = none := by
  rw [lineMatcherLaunch?, h]
  cases prepared? w choice o s tree with
  | none => rfl
  | some m => exact Tooling.launch?_nil (tooling w o) m

/-- **A run starts nothing but its two commands.**  Hosts that do the same with what the run
starts as its preprocessor and as its line matcher have the same outcome, whatever they would
do with anything else. -/
theorem run_of_agreeing
    (hpreprocessor : host'.AgreesOn w.host (preprocessorLaunch? w choice o s tree))
    (hlineMatcher : host'.AgreesOn w.host (lineMatcherLaunch? w choice o s tree)) :
    run { w with host := host' } choice o s tree = run w choice o s tree := by
  cases hopened : opened? w choice s tree with
  | none =>
    obtain ⟨fatal, e, -, hrun⟩ := run_of_opened?_none hopened
    exact (hrun host' o).trans (hrun w.host o).symm
  | some m =>
    have hagain : opened? { w with host := host' } choice s tree = some m := hopened
    rw [run_of_opened? hopened, run_of_opened? hagain]
    rw [preprocessorLaunch?, hopened, Option.bind_some] at hpreprocessor
    have hviews : buildViews { w with host := host' } o (s.scanner o) m tree =
        buildViews w o (s.scanner o) m tree := by
      refine buildViews_of_agreeing hpreprocessor ?_
      intro output display hmaterial hdecode htext
      rw [lineMatcherLaunch?, prepared?_of_opened? hopened hmaterial, hdecode, Option.bind_some,
        if_pos htext, Option.bind_some] at hlineMatcher
      exact hlineMatcher
    dsimp only
    rw [hviews]

end Source

end TextIntake
