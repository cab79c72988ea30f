import TextIntake.Proofs.Source.History

set_option autoImplicit false

/-!
# Fetching a remote source

A remote source is fetched by the first run that succeeds in it, and later runs read the
copy.  The copy is part of the input, so that whatever sets another input drops it, and
nothing else does.  A run whose attempt fails leaves the input as it was: of what was written
before the failure nothing is kept, and the next run asks again.

Main statements: `input_after_of_fetched` and `fetched_at_most_once`.
-/

namespace TextIntake.Source

/-! ## What a run does to the input -/

section

variable (w : Surroundings) (choice : EncodingChoice) (o : Options) (s : Source)
  (tree : FileTree)

/-- A run goes on with the input that it has looked up, and asks nobody after that. -/
theorem input_run : (run w choice o s tree).source.input = (resolve w.fetcher tree s.input).input ∧
    (run w choice o s tree).fetched = (resolve w.fetcher tree s.input).fetched := by
  unfold run
  dsimp only
  cases (resolve w.fetcher tree s.input).origin with
  | error failure => exact ⟨rfl, rfl⟩
  | ok origin? =>
    cases origin? with
    | none => exact ⟨rfl, rfl⟩
    | some origin =>
      dsimp only
      cases origin.read tree with
      | error cause => exact ⟨rfl, rfl⟩
      | ok content => exact ⟨rfl, rfl⟩

end

section

variable {w : Surroundings} {choice : EncodingChoice} {o : Options} {s : Source}
  {tree : FileTree} {url : Url} {content : Bytes} {cause : IoFailure}

/-- Only a remote location without a copy is asked for. -/
theorem fetched_run_of_ne_remote (h : ∀ url, s.input ≠ .located (.remote url)) :
    (run w choice o s tree).fetched = [] := by
  rw [(input_run w choice o s tree).2]
  cases hinput : s.input with
  | located location =>
    cases location with
    | none => rfl
    | file path => rfl
    | remote url => exact absurd hinput (h url)
  | fetched url content => rfl
  | memory text => rfl

/-- A remote location is asked for, whatever comes of it. -/
theorem fetched_run_of_remote (hinput : s.input = .located (.remote url)) :
    (run w choice o s tree).fetched = [url] := by
  rw [(input_run w choice o s tree).2, hinput]
  simp only [resolve]
  split <;> rfl

/-- A copy that was fetched becomes the input. -/
theorem input_run_of_success (hinput : s.input = .located (.remote url))
    (hfetch : w.fetcher.fetch url = ⟨content, none⟩) :
    (run w choice o s tree).source.input = .fetched url content := by
  rw [(input_run w choice o s tree).1, hinput]
  simp only [resolve, hfetch]

/-- A run whose attempt fails ends there, with the input as it was and no views. -/
theorem run_of_failed_fetch (hinput : s.input = .located (.remote url))
    (hfetch : w.fetcher.fetch url = ⟨content, some cause⟩) :
    run w choice o s tree =
      { source :=
          { input := .located (.remote url), alias? := s.alias?, encoding := some choice.encoding }
        report := { failures := [.readFailed url.text cause] }
        tree
        fetched := [url] } := by
  simp only [run, hinput, resolve, hfetch]

/-- What a run leads to that reads the given copy of a remote source and asks nobody. -/
def readingCopy (w : Surroundings) (choice : EncodingChoice) (o : Options) (s : Source)
    (tree : FileTree) (content : Bytes) : Outcome :=
  let m : Material :=
    ⟨.scratch content, content, workingEncoding choice false (some content)⟩
  let d := buildViews w o (s.scanner o) m tree
  { source := { s with encoding := some m.encoding, display := d.display, comparison := d.comparison }
    report := d.report
    tree := d.tree
    fetched := [] }

theorem run_of_fetched (hinput : s.input = .fetched url content) :
    run w choice o s tree = readingCopy w choice o s tree content := by
  have hopened : opened? w choice s tree =
      some ⟨.scratch content, content, workingEncoding choice false (some content)⟩ := by
    rw [opened?, hinput]
    rfl
  rw [run_of_opened? hopened, hinput, readingCopy, hinput]
  rfl

end

/-! ## Stretches of a history -/

namespace Operation

/-- Whether an operation sets the input, be it to the same one. -/
def setsInput : Operation → Bool
  | setFile _ | setLocation _ | setData _ | reset => true
  | setAlias _ | run _ _ _ | change _ => false

/-- Whether an operation is a run. -/
def isRun : Operation → Bool
  | run _ _ _ => true
  | _ => false

variable {scene : Scene} {operation : Operation}

/-- A copy stays the input until another input is set. -/
theorem input_apply_of_fetched {url : Url} {content : Bytes}
    (hinput : scene.source.input = .fetched url content) (hkeeps : operation.setsInput = false) :
    (operation.apply scene).source.input = .fetched url content := by
  cases operation with
  | run w choice o =>
    show (Source.run w choice o scene.source scene.tree).source.input = _
    rw [(input_run w choice o scene.source scene.tree).1, hinput]
    rfl
  | setAlias name => exact hinput
  | change tree => exact hinput
  | _ => cases hkeeps

/-- Without a run any input stays until another is set. -/
theorem input_apply_of_not_run (hkeeps : operation.setsInput = false)
    (hrun : operation.isRun = false) :
    (operation.apply scene).source.input = scene.source.input := by
  cases operation with
  | run w choice o => cases hrun
  | setAlias name => rfl
  | change tree => rfl
  | _ => cases hkeeps

end Operation

section

variable {scene : Scene} {between : List Operation}

theorem input_after_of_fetched {url : Url} {content : Bytes}
    (hinput : scene.source.input = .fetched url content)
    (hkeeps : ∀ operation ∈ between, operation.setsInput = false) :
    (scene.after between).source.input = .fetched url content := by
  induction between generalizing scene with
  | nil => exact hinput
  | cons operation between ih =>
    have hnext := Operation.input_apply_of_fetched hinput (hkeeps operation List.mem_cons_self)
    exact ih hnext fun later hlater => hkeeps later (List.mem_cons_of_mem operation hlater)

theorem input_after_of_not_run
    (hkeeps : ∀ operation ∈ between, operation.setsInput = false ∧ operation.isRun = false) :
    (scene.after between).source.input = scene.source.input := by
  induction between generalizing scene with
  | nil => rfl
  | cons operation between ih =>
    obtain ⟨hinput, hrun⟩ := hkeeps operation List.mem_cons_self
    have hrest : ((operation.apply scene).after between).source.input =
        (operation.apply scene).source.input :=
      ih fun later hlater => hkeeps later (List.mem_cons_of_mem operation hlater)
    exact hrest.trans (Operation.input_apply_of_not_run hinput hrun)

end

/-! ## Main statement -/

/-- **A remote source is fetched at most once with success.**  Take a run of a source, whatever
was done to it before, and the operations behind the run up to the next that sets an input.
Where the run fetches a copy, no later run among them asks anybody, and each reads the bytes of
that copy.  Where the attempt fails, the run ends with that failure, without data or lines in
either view, and is as if nothing had been written before the failure; the location stays, and
the next run asks again.  A run of a local source or of a text asks nobody. -/
theorem fetched_at_most_once (scene : Scene) (w : Surroundings) (choice : EncodingChoice)
    (o : Options) :
    let first := run w choice o scene.source scene.tree
    let behind (between : List Operation) := (⟨first.source, first.tree⟩ : Scene).after between
    (∀ url content, scene.source.input = .located (.remote url) →
      w.fetcher.fetch url = ⟨content, none⟩ →
      first.fetched = [url] ∧
        ∀ between, (∀ operation ∈ between, operation.setsInput = false) →
          ∀ w' choice' o', run w' choice' o' (behind between).source (behind between).tree =
            readingCopy w' choice' o' (behind between).source (behind between).tree content) ∧
    (∀ url content cause, scene.source.input = .located (.remote url) →
      w.fetcher.fetch url = ⟨content, some cause⟩ →
      first.fetched = [url] ∧ first.report.failures = [.readFailed url.text cause] ∧
        first.report.fatal? = some (.readFailed url.text cause) ∧
        first.source.hasData = false ∧ first.source.comparison.hasData = false ∧
        first.source.display.lines? = none ∧ first.source.comparison.lines? = none ∧
        first.source.comparisonLines? = none ∧
        first = run { w with fetcher := ⟨fun _ => ⟨[], some cause⟩⟩ } choice o scene.source
          scene.tree ∧
        ∀ between,
          (∀ operation ∈ between, operation.setsInput = false ∧ operation.isRun = false) →
          ∀ w' choice' o',
            (run w' choice' o' (behind between).source (behind between).tree).fetched = [url]) ∧
    ((∀ url, scene.source.input ≠ .located (.remote url)) → first.fetched = []) := by
  intro first behind
  refine ⟨?success, ?failure, ?others⟩
  case success =>
    intro url content hinput hfetch
    refine ⟨fetched_run_of_remote hinput, ?_⟩
    intro between hkeeps w' choice' o'
    exact run_of_fetched (input_after_of_fetched (input_run_of_success hinput hfetch) hkeeps)
  case failure =>
    intro url content cause hinput hfetch
    have hfirst : first = _ := run_of_failed_fetch hinput hfetch
    have hempty : run { w with fetcher := ⟨fun _ => ⟨[], some cause⟩⟩ } choice o scene.source
        scene.tree = _ := run_of_failed_fetch hinput rfl
    have hlocation : first.source.input = .located (.remote url) := by rw [hfirst]
    have hagain : ∀ between,
        (∀ operation ∈ between, operation.setsInput = false ∧ operation.isRun = false) →
        ∀ w' choice' o',
          (run w' choice' o' (behind between).source (behind between).tree).fetched = [url] := by
      intro between hkeeps w' choice' o'
      have hbehind : (behind between).source.input = first.source.input :=
        input_after_of_not_run hkeeps
      exact fetched_run_of_remote (hbehind.trans hlocation)
    refine ⟨fetched_run_of_remote hinput, ?_, ?_, ?_, ?_, ?_, ?_, ?_, hfirst.trans hempty.symm,
      hagain⟩
    · exact congrArg (fun outcome => outcome.report.failures) hfirst
    · exact congrArg (fun outcome => outcome.report.fatal?) hfirst
    · exact congrArg (fun outcome => outcome.source.hasData) hfirst
    · exact congrArg (fun outcome => outcome.source.comparison.hasData) hfirst
    · exact congrArg (fun outcome => outcome.source.display.lines?) hfirst
    · exact congrArg (fun outcome => outcome.source.comparison.lines?) hfirst
    · exact congrArg (fun outcome => outcome.source.comparisonLines?) hfirst
  case others => exact fun h => fetched_run_of_ne_remote h

/-- An attempt breaks off, the next brings `a` behind a marker, and the run behind a change of
the name reads that copy although it could get another. -/
theorem fetched_at_most_once_of_broken_attempt :
    let url : Url := { scheme := ['r'], authority := none, path := ['/', 'p'] }
    let around (delivery : Delivery) : Surroundings :=
      { host := ⟨fun _ _ => .error .notFound⟩, fetcher := ⟨fun _ => delivery⟩ }
    let broken := around ⟨[0xEF, 0xBB], some .brokenPipe⟩
    let whole := around ⟨[0xEF, 0xBB, 0xBF, 0x61], none⟩
    let other := around ⟨[0xEF, 0xBB, 0xBF, 0x62], none⟩
    let scene : Scene := { source := ({} : Source).setLocation (.remote url), tree := {} }
    let first := run broken {} {} scene.source scene.tree
    let second := run whole {} {} first.source first.tree
    let third := run other {} {} (second.source.setAlias ['n']) second.tree
    scene.source.input = .located (.remote url) ∧ first.fetched = [url] ∧
      first.source.display.lines? = none ∧ second.fetched = [url] ∧ third.fetched = [] ∧
      third.source.display.lines?.map View.Lines.toList = some [['a']] := by
  intro url around broken whole other scene first second third
  obtain ⟨-, hfailure, -⟩ := fetched_at_most_once scene broken {} {}
  obtain ⟨hfirst, -, -, -, -, hlines, -, -, -, hagain⟩ := hfailure url _ _ rfl rfl
  obtain ⟨hsuccess, -, -⟩ := fetched_at_most_once ⟨first.source, first.tree⟩ whole {} {}
  have hsecond : second.fetched = [url] := hagain [] (by simp) whole {} {}
  have hthird : third = _ :=
    (hsuccess url _ rfl rfl).2 [.setAlias ['n']] (by simp [Operation.setsInput]) other {} {}
  refine ⟨rfl, hfirst, hlines, hsecond, ?_, ?_⟩
  · rw [hthird]
    rfl
  · rw [hthird]
    rfl

end TextIntake.Source
