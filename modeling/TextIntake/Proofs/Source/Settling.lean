import TextIntake.Proofs.Source.Fetching
import TextIntake.Proofs.Source.Launches

set_option autoImplicit false

/-!
# One update settles the options

A run asks to disable the commands that failed.  With that done, later runs on the same
content have nothing to ask for: a preprocessor that failed led on with the content that a
run without one leads on with, so that the line matcher, if it is still there, is handed the
same bytes in the same encoding and answers as before.

The commands are supposed to be functions of their command line and of what they read, as the
obstacles on a workbench are.

Main statements: `Tooling.run_of_alike`, `Tooling.stage_settled`, `settled_of_alike`,
`alike_after` and `settled_of_run`.
-/

namespace TextIntake

/-! ## Commands that are functions -/

/-- Programs that are functions of their command line and of the bytes that they read, and
that touch no file. -/
structure Host.Functional (h : Host) : Prop where
  keeps : ∀ (l : Launch) (t : FileTree) (x : Execution), l.output = none →
    h.start l t = .ok x → x.tree = t
  depends : ∀ (l l' : Launch) (t t' : FileTree) (content : Bytes), l.output = none →
    l'.output = none → l'.command = l.command → l'.limit = l.limit →
    l.input.read t = .ok content → l'.input.read t' = .ok content →
    h.start l' t' = (h.start l t).map fun x => { x with tree := t' }

namespace Host

variable {h : Host} {input input' : Origin} {t t' : FileTree} {content : Bytes}

theorem Functional.keepsContent (hh : h.Functional) (origin : Origin) :
    h.KeepsContent origin := by
  intro l t x houtput hstart
  rw [hh.keeps l t x houtput hstart]

/-- What can be read can be opened. -/
theorem opened_of_read (hread : input.read t = .ok content) : opened t input = .ok () := by
  cases input with
  | scratch bytes => rfl
  | file path =>
    simp only [Origin.read, FileTree.read] at hread
    rw [opened]
    split at hread
    · cases hread
    · rename_i hstatus
      rw [hstatus]
      rfl
    · cases hread
    · rename_i hstatus
      rw [hstatus]
      rfl

/-- A filter is a function of the bytes that it reads. -/
theorem Functional.filter_eq (hh : h.Functional) (attempt : Chore → Except CommandFailure Unit)
    (limit : Option Duration) (line : Text) (hread : input.read t = .ok content)
    (hread' : input'.read t' = .ok content) :
    h.filter attempt limit line input' t' = ((h.filter attempt limit line input t).1, t') := by
  unfold filter
  cases Command.read line with
  | error reason => rfl
  | ok command =>
    have hstart := hh.depends ⟨command, input, none, limit⟩ ⟨command, input', none, limit⟩ t t'
      content rfl rfl rfl rfl hread hread'
    have hopen : openBoth attempt t' input' = openBoth attempt t input := by
      rw [openBoth, openBoth, opened_of_read hread, opened_of_read hread']
    rw [hopen]
    dsimp only [launch]
    rw [hstart]
    cases openBoth attempt t input with
    | error reason => rfl
    | ok _ =>
      cases (command.program :: command.args).any fun word => List.contains word '\x00' with
      | true => rfl
      | false =>
        cases h.start ⟨command, input, none, limit⟩ t with
        | error cause => rfl
        | ok x => rfl

end Host

/-- Two materials with the same content in the same encoding, wherever it stands. -/
structure Material.Alike (m m' : Material) : Prop where
  content : m'.content = m.content
  encoding : m'.encoding = m.encoding

namespace Tooling

variable {tooling : Tooling} {command : Text} {m m' : Material} {tree tree' : FileTree}

/-- What a command is handed reads as a function of content and encoding. -/
theorem read_handed (tooling : Tooling) (hread : m.origin.read tree = .ok m.content) :
    (tooling.handed m).read tree = .ok
      (if tooling.encoding.getD m.encoding = m.encoding then m.content
        else transcode m.encoding (tooling.encoding.getD m.encoding) m.content) := by
  unfold handed
  dsimp only
  split
  · exact hread
  · rfl

theorem tree_run_of_functional (tooling : Tooling) (hhost : tooling.host.Functional)
    (command : Text) (m : Material) (tree : FileTree) :
    (tooling.run command m tree).2 = tree := by
  rcases tree_run tooling command m tree with hsame | ⟨l, x, houtput, hstart, hleft⟩
  · exact hsame
  · exact hleft.trans (hhost.keeps l tree x houtput hstart)

theorem tree_of_functional (tooling : Tooling) (hhost : tooling.host.Functional) (command : Text)
    (m : Material) (tree : FileTree) : (tooling.stage command m tree).tree = tree := by
  rcases tree_stage tooling command m tree with hsame | ⟨l, x, houtput, hstart, hleft⟩
  · exact hsame
  · exact hleft.trans (hhost.keeps l tree x houtput hstart)

/-- A command makes the same of materials that are alike. -/
theorem run_of_alike (tooling : Tooling) (hhost : tooling.host.Functional)
    (hm : m.InPlace tooling.host tree) (hm' : m'.InPlace tooling.host tree') (h : m.Alike m')
    (command : Text) :
    tooling.run command m' tree' = ((tooling.run command m tree).1, tree') := by
  have hread' := read_handed tooling hm'.reads
  rw [h.content, h.encoding] at hread'
  have hfilter := hhost.filter_eq (tooling.workbench.attempt command m.content) tooling.timeout
    command (read_handed tooling hm.reads) hread'
  have hpreparations : tooling.preparations m' = tooling.preparations m := by
    rw [preparations, preparations, h.encoding]
  rw [run, run, h.content, h.encoding, hpreparations, hfilter]
  cases (tooling.preparations m).forM (tooling.workbench.attempt command m.content) with
  | error reason => rfl
  | ok _ =>
    generalize tooling.host.filter _ _ _ (tooling.handed m) tree = filtered
    obtain ⟨result, t⟩ := filtered
    cases result with
    | error reason => rfl
    | ok output =>
      dsimp only
      split <;> rfl

theorem failure?_of_alike (tooling : Tooling) (hhost : tooling.host.Functional)
    (hm : m.InPlace tooling.host tree) (hm' : m'.InPlace tooling.host tree') (h : m.Alike m')
    (command : Text) :
    tooling.failure? command m' tree' = tooling.failure? command m tree := by
  rw [failure?, failure?, run_of_alike tooling hhost hm hm' h]

/-- A stage whose command is disabled if it failed leads on with what it led on with before,
and fails no more. -/
theorem stage_settled (tooling : Tooling) (hhost : tooling.host.Functional)
    (hm : m.InPlace tooling.host tree) (hm' : m'.InPlace tooling.host tree') (h : m.Alike m')
    (command : Text) :
    let settled := if (tooling.failure? command m tree).isSome then [] else command
    tooling.failure? settled m' tree' = none ∧
      ∃ output output', (tooling.stage command m tree).material = .ok output ∧
        (tooling.stage settled m' tree').material = .ok output' ∧ output.Alike output' ∧
        output.InPlace tooling.host (tooling.stage command m tree).tree ∧
        output'.InPlace tooling.host (tooling.stage settled m' tree').tree := by
  intro settled
  obtain ⟨output, hmaterial, houtput, hsame⟩ := stage_inPlace tooling command hm
  obtain ⟨output', hmaterial', houtput', -⟩ := stage_inPlace tooling settled hm'
  cases hfailure : tooling.failure? command m tree with
  | some reason =>
    have hsettled : settled = [] := by
      show (if (tooling.failure? command m tree).isSome then [] else command) = []
      rw [hfailure]
      rfl
    -- what failed led on with what went into it, as the stage does without a command
    obtain rfl := hsame (by rw [hfailure]; exact Option.some_ne_none reason)
    rw [hsettled] at hmaterial' houtput' ⊢
    refine ⟨rfl, output, output', hmaterial, hmaterial', ?_, houtput, houtput'⟩
    obtain rfl := Except.ok.inj hmaterial'
    exact h
  | none =>
    have hsettled : settled = command := by
      show (if (tooling.failure? command m tree).isSome then [] else command) = command
      rw [hfailure]
      rfl
    rw [hsettled] at hmaterial' houtput' ⊢
    have hagain := failure?_of_alike tooling hhost hm hm' h command
    refine ⟨hagain.trans hfailure, output, output', hmaterial, hmaterial', ?_, houtput, houtput'⟩
    by_cases hcommand : command = []
    · subst hcommand
      obtain rfl := Except.ok.inj hmaterial
      obtain rfl := Except.ok.inj hmaterial'
      exact h
    · have hrun' := run_of_alike tooling hhost hm hm' h command
      rw [failure?, if_neg hcommand] at hfailure
      rw [stage, if_neg hcommand] at hmaterial
      rw [stage, if_neg hcommand, hrun'] at hmaterial'
      generalize tooling.run command m tree = ran at hfailure hmaterial hmaterial'
      obtain ⟨result, t⟩ := ran
      cases result with
      | error reason => cases hfailure
      | ok answer =>
        obtain rfl := Except.ok.inj hmaterial
        obtain rfl := Except.ok.inj hmaterial'
        exact ⟨rfl, rfl⟩

end Tooling

/-- The extension depends on the file name alone. -/
theorem Path.extension?_of_fileName? {path path' : Option Path}
    (h : path'.bind fileName? = path.bind fileName?) :
    path'.bind extension? = path.bind extension? := by
  have hnone : ∀ p : Path, p.fileName? = none → p.extension? = none := by
    intro p hp
    rw [extension?, hp]
    rfl
  cases path with
  | none =>
    cases path' with
    | none => rfl
    | some p' => exact hnone p' h
  | some p =>
    cases path' with
    | none => exact (hnone p h.symm).symm
    | some p' =>
      have hsame : p'.fileName? = p.fileName? := h
      show p'.extension? = p.extension?
      rw [extension?, extension?, hsame]

namespace Source

/-! ## What is shown -/

section

variable {w : Surroundings} {o : Options} {scanner : Comment.Scanner} {name : Text}
  {m m' output : Material} {d d' : Draft} {tree tree' : FileTree}

/-- A display view with the comment flags that it takes over from what the line matcher
answers. -/
def flagged (w : Surroundings) (o : Options) (scanner : Comment.Scanner) (m : Material)
    (tree : FileTree) (display : View) : View :=
  if o.lineMatcher = [] then display
  else
    match ((tooling w o).run o.lineMatcher m tree).1 with
    | .error _ => display
    | .ok answer =>
      match Page.ofBytes answer.encoding o.limits o.lineFilter scanner answer.content with
      | .error _ => display
      | .ok (own, _) =>
        if o.ignoreComments then
          display.adoptCommentFlags
            ((View.ofPage answer.content own).padTo display.page.lineCount)
        else display

theorem display_of_matching (h : Matching w o scanner name m d d') :
    d'.display = flagged w o scanner m d.tree d.display := by
  cases h with
  | absent empty => rw [flagged, if_pos empty]
  | failed command run =>
    rw [flagged, if_neg command, run]
    rfl
  | binary command run decodes | tooLarge command run decodes =>
    rw [flagged, if_neg command, run]
    dsimp only
    rw [decodes]
    rfl
  | text command run decodes =>
    rw [flagged, if_neg command, run]
    dsimp only
    rw [decodes]

/-- The display view of content in place, by what the preprocessor leads on with. -/
theorem display_of_viewing (h : Viewing w o scanner m tree d)
    (hmaterial : ((tooling w o).stage o.preprocessor m tree).material = .ok output) :
    d.display =
      match (View.ofBytes output.content).decode? output.encoding o.limits {} scanner with
      | none => .ofBytes output.content
      | some display =>
        if display.isText then
          flagged w o scanner output ((tooling w o).stage o.preprocessor m tree).tree display
        else display := by
  cases h with
  | tooLarge material decodes =>
    obtain rfl := Except.ok.inj (hmaterial.symm.trans material)
    rw [decodes]
    rfl
  | binary material decodes nonempty =>
    obtain rfl := Except.ok.inj (hmaterial.symm.trans material)
    rw [decodes]
    dsimp only
    rw [View.isText_ofBytes nonempty]
    rfl
  | text material decodes matching =>
    obtain rfl := Except.ok.inj (hmaterial.symm.trans material)
    rw [View.decode?_of_ofBytes decodes]
    dsimp only
    rw [View.isText_ofPage, if_pos rfl, display_of_matching matching, ← tree_preprocessed o]

/-! ## The line matcher -/

theorem matchingFailure?_of_alike (hhost : w.host.Functional) (hm : m.InPlace w.host tree)
    (hm' : m'.InPlace w.host tree') (h : m.Alike m') :
    matchingFailure? w o scanner m' tree' = matchingFailure? w o scanner m tree := by
  rw [matchingFailure?, matchingFailure?,
    Tooling.run_of_alike (tooling w o) hhost hm hm' h o.lineMatcher]

theorem flagged_of_alike (hhost : w.host.Functional) (hm : m.InPlace w.host tree)
    (hm' : m'.InPlace w.host tree') (h : m.Alike m') (display : View) :
    flagged w o scanner m' tree' display = flagged w o scanner m tree display := by
  rw [flagged, flagged, Tooling.run_of_alike (tooling w o) hhost hm hm' h o.lineMatcher]

/-- From a line matcher that fails nothing is taken over. -/
theorem flagged_of_failure {reason : CommandFailure}
    (h : matchingFailure? w o scanner m tree = some reason) (display : View) :
    flagged w o scanner m tree display = display := by
  unfold matchingFailure? at h
  unfold flagged
  by_cases hcommand : o.lineMatcher = []
  · rw [if_pos hcommand]
  · rw [if_neg hcommand] at h ⊢
    cases hrun : ((tooling w o).run o.lineMatcher m tree).1 with
    | error reason' => rfl
    | ok answer =>
      rw [hrun] at h
      dsimp only at h ⊢
      cases hpage : Page.ofBytes answer.encoding o.limits o.lineFilter scanner
          answer.content with
      | error refusal => rfl
      | ok split =>
        rw [hpage] at h
        cases h

/-- With the line matcher disabled if it failed, it fails no more, and the display view takes
over what it did before. -/
theorem matching_settled {update : OptionsUpdate} (hhost : w.host.Functional)
    (hm : m.InPlace w.host tree) (hm' : m'.InPlace w.host tree') (h : m.Alike m')
    (hupdate : update.disableLineMatcher = (matchingFailure? w o scanner m tree).isSome) :
    matchingFailure? w (update.apply o) scanner m' tree' = none ∧
      ∀ display, flagged w (update.apply o) scanner m' tree' display =
        flagged w o scanner m tree display := by
  obtain ⟨disablePreprocessor, disableLineMatcher⟩ := update
  dsimp only at hupdate
  cases hfailure : matchingFailure? w o scanner m tree with
  | none =>
    rw [hfailure] at hupdate
    subst hupdate
    -- a change to the preprocessor alone is not seen here
    exact ⟨(matchingFailure?_of_alike hhost hm hm' h).trans hfailure,
      flagged_of_alike hhost hm hm' h⟩
  | some reason =>
    rw [hfailure] at hupdate
    subst hupdate
    refine ⟨if_pos rfl, fun display => ?_⟩
    rw [flagged_of_failure hfailure]
    exact if_pos rfl

end

/-! ## Runs on the same content -/

/-- Two scenes in which a run finds the same content under the same file name.  A text that was
given directly is only like another: whatever encoding is chosen, it is read as UTF-8. -/
structure Alike (choice : EncodingChoice) (w w' : Surroundings) (scene scene' : Scene) : Prop where
  content : (opened? w' choice scene'.source scene'.tree).map Material.content =
    (opened? w choice scene.source scene.tree).map Material.content
  isMemory : scene'.source.input.isMemory = scene.source.input.isMemory
  fileName : scene'.source.input.location.nameHint?.bind Path.fileName? =
    scene.source.input.location.nameHint?.bind Path.fileName?

section

variable {w w' : Surroundings} {choice : EncodingChoice} {o : Options} {scene scene' : Scene}
  {update : OptionsUpdate} {m m' : Material}

theorem encoding_of_opened? {s : Source} {tree : FileTree}
    (h : opened? w choice s tree = some m) :
    m.encoding = workingEncoding choice s.input.isMemory (some m.content) := by
  unfold opened? at h
  split at h
  · split at h
    · cases h
      rfl
    · cases h
  · cases h

/-- The scanner depends on the file name alone. -/
theorem Alike.scanner_eq (h : Alike choice w w' scene scene') (o : Options) :
    scene'.source.scanner o = scene.source.scanner o := by
  have hpath : Comment.Syntax.ofPath scene'.source.input.location.nameHint? =
      Comment.Syntax.ofPath scene.source.input.location.nameHint? := by
    rw [Comment.Syntax.ofPath, Comment.Syntax.ofPath, h.fileName,
      Path.extension?_of_fileName? h.fileName]
  rw [scanner, scanner, Comment.Scanner.start, Comment.Scanner.start]
  cases o.commentSyntax with
  | auto =>
    rw [Comment.Syntax.resolve, Comment.Syntax.resolve, hpath]
  | _ => rfl

/-- Runs in alike scenes find alike materials. -/
theorem Alike.material (h : Alike choice w w' scene scene')
    (hopened : opened? w choice scene.source scene.tree = some m) :
    ∃ m', opened? w' choice scene'.source scene'.tree = some m' ∧ m.Alike m' := by
  have hcontent := h.content
  rw [hopened] at hcontent
  obtain ⟨m', hopened', hsame⟩ := Option.map_eq_some_iff.1 hcontent
  refine ⟨m', hopened', hsame, ?_⟩
  rw [encoding_of_opened? hopened, encoding_of_opened? hopened', hsame, h.isMemory]

theorem inPlace_of_functional {s : Source} {tree : FileTree}
    (hopened : opened? w choice s tree = some m) (hhost : w.host.Functional) :
    m.InPlace w.host tree :=
  inPlace_of_opened? (fun path _ => hhost.keepsContent (.file path)) hopened

/-- No command of a run fails, and the run shows the given view. -/
structure Settles (w : Surroundings) (choice : EncodingChoice) (o : Options) (s : Source)
    (tree : FileTree) (display : View) : Prop where
  preprocessor : preprocessorFailure? w choice o s tree = none
  lineMatcher : lineMatcherFailure? w choice o s tree = none
  shows : (run w choice o s tree).source.display = display

theorem settled_of_opened? (hhost : w.host.Functional) (hsame : w'.host = w.host)
    (hbench : w'.workbench = w.workbench) (h : Alike choice w w' scene scene')
    (hopened : opened? w choice scene.source scene.tree = some m)
    (hpreprocessor : update.disablePreprocessor =
      (preprocessorFailure? w choice o scene.source scene.tree).isSome)
    (hlineMatcher : update.disableLineMatcher =
      (lineMatcherFailure? w choice o scene.source scene.tree).isSome) :
    Settles w' choice (update.apply o) scene'.source scene'.tree
      (run w choice o scene.source scene.tree).source.display := by
  obtain ⟨host, fetcher, workbench⟩ := w'
  dsimp only at hsame hbench
  subst hsame hbench
  obtain ⟨m', hopened', halike⟩ := h.material hopened
  have hm := inPlace_of_functional hopened hhost
  have hm' := inPlace_of_functional hopened' hhost
  dsimp only at hm'
  have hcommand : (update.apply o).preprocessor =
      if ((tooling w o).failure? o.preprocessor m scene.tree).isSome then []
      else o.preprocessor := by
    rw [← preprocessorFailure?_of_opened? hopened, ← hpreprocessor]
    rfl
  obtain ⟨hnone, output, output', hmaterial, hmaterial', houtput, hin, hin'⟩ :=
    Tooling.stage_settled (tooling w o) hhost hm hm' halike o.preprocessor
  rw [← hcommand] at hnone hmaterial' hin'
  have hshown := display_of_viewing (viewing_buildViews o (scene.source.scanner o) hm) hmaterial
  have hshown' := display_of_viewing
    (viewing_buildViews (update.apply o) (scene'.source.scanner (update.apply o)) hm') hmaterial'
  have hscanner : scene'.source.scanner (update.apply o) = scene.source.scanner o :=
    h.scanner_eq o
  rw [lineMatcherFailure?_of_opened? hopened hmaterial] at hlineMatcher
  -- both depend on how the text behind the preprocessor decodes, which is the same in both runs
  suffices hbehind : lineMatcherFailure? ⟨w.host, fetcher, w.workbench⟩ choice (update.apply o) scene'.source
        scene'.tree = none ∧
      (run ⟨w.host, fetcher, w.workbench⟩ choice (update.apply o) scene'.source scene'.tree).source.display =
        (run w choice o scene.source scene.tree).source.display from
    ⟨(preprocessorFailure?_of_opened? hopened').trans hnone, hbehind.1, hbehind.2⟩
  -- the fetcher has no part in what is made of the content
  have hviews : buildViews ⟨w.host, fetcher, w.workbench⟩ = buildViews w := rfl
  rw [lineMatcherFailure?_of_opened? hopened' hmaterial', run_of_opened? hopened,
    run_of_opened? hopened', hviews]
  dsimp only
  rw [hshown, hshown', houtput.content, houtput.encoding, hscanner,
    show (update.apply o).limits = o.limits from rfl]
  cases hdecode : (View.ofBytes output.content).decode? output.encoding o.limits {}
      (scene.source.scanner o) with
  | none => exact ⟨rfl, rfl⟩
  | some display =>
    rw [hdecode, Option.bind_some] at hlineMatcher
    dsimp only [Option.bind_some]
    cases htext : display.isText with
    | false => exact ⟨rfl, rfl⟩
    | true =>
      rw [htext, if_pos rfl] at hlineMatcher
      obtain ⟨hmatching, hflagged⟩ := matching_settled hhost hin hin' houtput hlineMatcher
      exact ⟨hmatching, hflagged display⟩

/-- With just the commands disabled that failed, a run on the same content has no command
that fails, and shows the same. -/
theorem settled_of_alike (hhost : w.host.Functional) (hsame : w'.host = w.host)
    (hbench : w'.workbench = w.workbench) (h : Alike choice w w' scene scene')
    (hpreprocessor : update.disablePreprocessor =
      (preprocessorFailure? w choice o scene.source scene.tree).isSome)
    (hlineMatcher : update.disableLineMatcher =
      (lineMatcherFailure? w choice o scene.source scene.tree).isSome) :
    Settles w' choice (update.apply o) scene'.source scene'.tree
      (run w choice o scene.source scene.tree).source.display := by
  cases hopened : opened? w choice scene.source scene.tree with
  | none =>
    have hopened' := h.content
    rw [hopened] at hopened'
    have hnone := Option.map_eq_none_iff.1 hopened'
    refine ⟨?_, ?_, ?_⟩
    · rw [preprocessorFailure?, hnone, Option.bind_none]
    · rw [lineMatcherFailure?, hnone]
      rfl
    · rw [(views_of_opened?_none hopened).1, (views_of_opened?_none hnone).1]
  | some m => exact settled_of_opened? hhost hsame hbench h hopened hpreprocessor hlineMatcher

/-! ## Later runs of the same source -/

theorem origin_resolve_resolve (fetcher : Fetcher) (tree : FileTree) (input : Input) :
    (resolve fetcher tree (resolve fetcher tree input).input).origin =
      (resolve fetcher tree input).origin := by
  cases input with
  | located location =>
    cases location with
    | none => rfl
    | file path => rfl
    | remote url =>
      cases hfetch : fetcher.fetch url with
      | mk content failure =>
        cases failure with
        | none => simp only [resolve, hfetch]
        | some cause => simp only [resolve, hfetch]
  | fetched url content => rfl
  | memory text => rfl

/-- A source whose input was looked up is read as before. -/
theorem opened?_of_resolved {s s' : Source} {tree : FileTree}
    (h : s'.input = (resolve w.fetcher tree s.input).input) :
    opened? w choice s' tree = opened? w choice s tree := by
  rw [opened?, opened?, h, origin_resolve_resolve, isMemory_resolve]

theorem tree_of_matching {w : Surroundings} {scanner : Comment.Scanner} {name : Text} {d d' : Draft}
    (hhost : w.host.Functional) (h : Matching w o scanner name m d d') : d'.tree = d.tree := by
  have hleft := Tooling.tree_run_of_functional (tooling w o) hhost o.lineMatcher m d.tree
  cases h with
  | absent empty => rfl
  | failed _ run | binary _ run _ | tooLarge _ run _ | text _ run _ =>
    rw [run] at hleft
    exact hleft

theorem tree_of_viewing {w : Surroundings} {scanner : Comment.Scanner} {d : Draft} {tree : FileTree}
    (hhost : w.host.Functional) (h : Viewing w o scanner m tree d) : d.tree = tree := by
  have htree : (preprocessed o ((tooling w o).stage o.preprocessor m tree)).tree = tree :=
    (tree_preprocessed o _).trans
      (Tooling.tree_of_functional (tooling w o) hhost o.preprocessor m tree)
  cases h with
  | tooLarge material decodes => exact htree
  | binary material decodes nonempty => exact htree
  | text material decodes matching => exact (tree_of_matching hhost matching).trans htree

theorem tree_run (hhost : w.host.Functional) (choice : EncodingChoice) (o : Options) (s : Source)
    (tree : FileTree) : (run w choice o s tree).tree = tree := by
  cases hopened : opened? w choice s tree with
  | none =>
    obtain ⟨fatal, e, -, hrun⟩ := run_of_opened?_none hopened
    exact congrArg Outcome.tree (hrun w.host o)
  | some m =>
    rw [run_of_opened? hopened]
    have hm := inPlace_of_functional hopened hhost
    exact tree_of_viewing hhost (viewing_buildViews o (s.scanner o) hm)

/-- What is done to a source that keeps its input: runs in the same surroundings, and changes of
its name. -/
def Operation.Rereads (w : Surroundings) : Operation → Prop
  | run w' _ _ => w' = w
  | setAlias _ => True
  | _ => False

theorem alike_apply (hhost : w.host.Functional) (choice : EncodingChoice) (scene : Scene)
    (operation : Operation) (hrereads : operation.Rereads w) :
    Alike choice w w scene (operation.apply scene) := by
  cases operation with
  | run w' choice' o' =>
    obtain rfl : w' = w := hrereads
    obtain ⟨hinput, -⟩ := input_run w' choice' o' scene.source scene.tree
    have htree := tree_run hhost choice' o' scene.source scene.tree
    refine ⟨?_, ?_, ?_⟩
    · show (opened? w' choice (run w' choice' o' scene.source scene.tree).source
        (run w' choice' o' scene.source scene.tree).tree).map Material.content = _
      rw [htree, opened?_of_resolved hinput]
    · show (run w' choice' o' scene.source scene.tree).source.input.isMemory = _
      rw [hinput, isMemory_resolve]
    · show (run w' choice' o' scene.source scene.tree).source.input.location.nameHint?.bind _ = _
      rw [hinput, location_resolve]
  | setAlias name => exact ⟨rfl, rfl, rfl⟩
  | _ => cases hrereads

theorem Alike.refl (choice : EncodingChoice) (w : Surroundings) (scene : Scene) :
    Alike choice w w scene scene := ⟨rfl, rfl, rfl⟩

theorem Alike.trans {w'' : Surroundings} {scene'' : Scene} (h : Alike choice w w' scene scene')
    (h' : Alike choice w' w'' scene' scene'') : Alike choice w w'' scene scene'' :=
  ⟨h'.content.trans h.content, h'.isMemory.trans h.isMemory, h'.fileName.trans h.fileName⟩

theorem alike_after {between : List Operation} (hhost : w.host.Functional)
    (choice : EncodingChoice) (scene : Scene)
    (hrereads : ∀ operation ∈ between, operation.Rereads w) :
    Alike choice w w scene (scene.after between) := by
  induction between generalizing scene with
  | nil => exact Alike.refl choice w scene
  | cons operation between ih =>
    have hfirst := alike_apply hhost choice scene operation (hrereads operation List.mem_cons_self)
    have hrest := ih (operation.apply scene) fun later hlater =>
      hrereads later (List.mem_cons_of_mem operation hlater)
    exact hfirst.trans hrest

/-! ## Main statement -/

/-- **One update settles the options.**  Where the commands are functions of their command line
and of what they read, take a run, and make the change that it asks for.  With those options no
later run on the same content by the same host on the same workbench, be it of the same source
or of another, has a command that fails: it reports at most a failure that ends it, and asks for
no change.  It shows the display view of the first run, and starts no command that was disabled:
its outcome does not depend on what the host would do with one.  Running a source again, or
changing its name, keeps the content the same; and options whose commands did not fail stay as
they were. -/
theorem settled_of_run (hhost : w.host.Functional) (choice : EncodingChoice) (o : Options)
    (scene : Scene) :
    let first := run w choice o scene.source scene.tree
    let update := first.report.update
    let settled := update.apply o
    (∀ (w' : Surroundings) (scene' : Scene), w'.host = w.host → w'.workbench = w.workbench →
      Alike choice w w' scene scene' →
      let again := run w' choice settled scene'.source scene'.tree
      (∀ failure ∈ again.report.failures, failure.isFatal = true) ∧
        again.report.update.isEmpty = true ∧
        again.source.display = first.source.display ∧
        ∀ host' : Host,
          (update.disablePreprocessor = false →
            host'.AgreesOn w'.host
              (preprocessorLaunch? w' choice settled scene'.source scene'.tree)) →
          (update.disableLineMatcher = false →
            host'.AgreesOn w'.host
              (lineMatcherLaunch? w' choice settled scene'.source scene'.tree)) →
          run { w' with host := host' } choice settled scene'.source scene'.tree = again) ∧
    (∀ between : List Operation, (∀ operation ∈ between, operation.Rereads w) →
      Alike choice w w scene ((⟨first.source, first.tree⟩ : Scene).after between)) ∧
    ((∀ failure ∈ first.report.failures, failure.isFatal = true) → settled = o) := by
  intro first update settled
  obtain ⟨fatal, hreport, hfatal⟩ := report_run (s := scene.source)
    (fun path _ => hhost.keepsContent (.file path)) choice o scene.tree
  have hupdate : update = _ := congrArg Report.update hreport
  refine ⟨?later, ?same, ?unchanged⟩
  case later =>
    intro w' scene' hsame hbench halike again
    have hhost' : w'.host.Functional := by
      rw [hsame]
      exact hhost
    obtain ⟨hp, hq, hshows⟩ := settled_of_alike hhost hsame hbench halike
      (congrArg OptionsUpdate.disablePreprocessor hupdate)
      (congrArg OptionsUpdate.disableLineMatcher hupdate)
    obtain ⟨fatal', hreport', hfatal'⟩ := report_run (s := scene'.source)
      (fun path _ => hhost'.keepsContent (.file path)) choice settled scene'.tree
    rw [hp, hq] at hreport'
    refine ⟨?_, ?_, hshows, ?_⟩
    · intro failure hmem
      rw [show again.report = _ from hreport', Report.mem_failures_of] at hmem
      rcases hmem with ⟨_, hsome, -⟩ | ⟨_, hsome, -⟩ | hend
      · cases hsome
      · cases hsome
      · exact hfatal' failure hend
    · rw [show again.report = _ from hreport']
      rfl
    · intro host' hpreprocessor hlineMatcher
      apply run_of_agreeing
      · cases hdisabled : update.disablePreprocessor with
        | false => exact hpreprocessor hdisabled
        | true =>
          rw [preprocessorLaunch?_of_empty (if_pos hdisabled)]
          exact fun _ hnone => nomatch hnone
      · cases hdisabled : update.disableLineMatcher with
        | false => exact hlineMatcher hdisabled
        | true =>
          rw [lineMatcherLaunch?_of_empty (if_pos hdisabled)]
          exact fun _ hnone => nomatch hnone
  case same =>
    intro between hrereads
    have hfirst := alike_apply hhost choice scene (.run w choice o) rfl
    exact hfirst.trans (alike_after hhost choice _ hrereads)
  case unchanged =>
    intro hends
    rw [show first.report = _ from hreport] at hends
    have hp : preprocessorFailure? w choice o scene.source scene.tree = none := by
      rw [Option.eq_none_iff_forall_ne_some]
      intro reason hreason
      cases hends _ (Report.mem_failures_of.2 (.inl ⟨reason, hreason, rfl⟩))
    have hq : lineMatcherFailure? w choice o scene.source scene.tree = none := by
      rw [Option.eq_none_iff_forall_ne_some]
      intro reason hreason
      cases hends _ (Report.mem_failures_of.2 (.inr (.inl ⟨reason, hreason, rfl⟩)))
    apply OptionsUpdate.apply_of_isEmpty
    rw [hupdate, hp, hq]
    rfl

/-- A preprocessor that exits with status 1 in front of a line matcher that copies.  Without the
preprocessor a file of the same name elsewhere has no command that fails, and looks the same. -/
theorem settled_of_run_of_failing_preprocessor :
    let w : Surroundings :=
      { host := ⟨fun l tree => (l.input.read tree).map fun content =>
          ⟨content, .exited (if l.command.program = ['p'] then 1 else 0), ⟨1⟩, tree⟩⟩ }
    let o : Options := { preprocessor := ['p'], lineMatcher := ['m'] }
    let content : Bytes := [0xEF, 0xBB, 0xBF, 0x61]
    let here : Scene :=
      { source := { input := .located (.file ['a']) }
        tree := { nodes := [(["work".toList], .directory),
          (["work".toList, ['a']], .file content)] } }
    let there : Scene :=
      { source := { input := .located (.file ['/', 'a']) }
        tree := { nodes := [([['a']], .file content)] } }
    let first := run w {} o here.source here.tree
    let again := run w {} (first.report.update.apply o) there.source there.tree
    first.report.failures = [.preprocessorFailed ['p'] (.exitStatus (.exited 1))] ∧
      (∀ failure ∈ again.report.failures, failure.isFatal = true) ∧
      again.source.display = first.source.display := by
  intro w o content here there first again
  have hhost : w.host.Functional := by
    refine ⟨?_, ?_⟩
    · intro l t x _ hstart
      dsimp only [w] at hstart
      cases hread : l.input.read t with
      | error cause =>
        rw [hread] at hstart
        cases hstart
      | ok bytes =>
        rw [hread] at hstart
        cases hstart
        rfl
    · intro l l' t t' bytes _ _ hcommand _ hread hread'
      show (l'.input.read t').map _ = ((l.input.read t).map _).map _
      rw [hread, hread', hcommand]
      rfl
  have halike : Alike {} w w here there := ⟨rfl, rfl, rfl⟩
  obtain ⟨hlater, -, -⟩ := settled_of_run hhost {} o here
  obtain ⟨hfailures, -, hdisplay, -⟩ := hlater w there rfl rfl halike
  have hagain : again =
      run w {} ((run w {} o here.source here.tree).report.update.apply o) there.source
        there.tree := rfl
  rw [← hagain] at hfailures hdisplay
  exact ⟨rfl, hfailures, hdisplay⟩

end

end Source

end TextIntake
