import TextIntake.Proofs.Source.Copy
import TextIntake.Proofs.Source.Fallback

set_option autoImplicit false

/-!
# A line matcher whose output is no text

A line matcher may succeed with an output that is no text.  The run then warns as it does
of a failed matcher, but has no copy of the display view decoded in its place: the lines to
compare are those that are shown.  Hence nothing is ignored in them, and they are the lines
of the run without a line matcher just where there was nothing to ignore.

Main statement: `run_of_binary_match`.
-/

namespace TextIntake

/-! ## Lines that a filter leaves alone -/

/-- Lines whose texts a filter leaves alone are finished as without one. -/
theorem Line.ofRaws_eq_plain {r : LineFilter} {scanner : Comment.Scanner} {raws : List RawLine}
    (h : List.zipWith r.rewrite (scanner.findings (raws.map RawLine.content))
      (raws.map RawLine.content) = raws.map RawLine.content) :
    ofRaws r scanner raws = ofRaws {} scanner raws := by
  induction raws generalizing scanner with
  | nil => rfl
  | cons raw raws ih =>
    obtain ⟨htext, htexts⟩ := List.cons.inj h
    have hline : ofRaw r (scanner.scan raw.content).1 raw =
        ofRaw {} (scanner.scan raw.content).1 raw := by
      rw [ofRaw, r.apply_eq_rewrite, htext]
      rfl
    have hrest := ih htexts
    show (ofRaw r (scanner.scan raw.content).1 raw ::
        (ofRaws r (scanner.scan raw.content).2 raws).1,
      (ofRaws r (scanner.scan raw.content).2 raws).2) = _
    rw [hline, hrest]
    rfl

namespace Page

variable {e : Encoding} {limits : Limits} {r : LineFilter} {scanner scanner' : Comment.Scanner}
  {bs : Bytes} {page own : Page}

/-- The page of a document under a filter shows what its page without one does just when
the filter leaves every line alone. -/
theorem filtered_eq_iff (hpage : ofBytes e limits {} scanner bs = .ok (page, scanner'))
    (hown : ofBytes e limits r scanner bs = .ok (own, scanner')) :
    (own.text = page.text ∧ own.records = page.records) ↔
      ∃ lines, page.lines? = some lines ∧
        List.zipWith r.rewrite (scanner.findings lines) lines = lines := by
  rw [ofBytes_eq_map] at hpage hown
  cases hraws : rawLines e limits bs with
  | error refusal =>
    rw [hraws] at hpage
    cases hpage
  | ok raws =>
    rw [hraws] at hpage hown
    cases hpage
    cases hown
    have hplain := lines?_ofRaws_plain scanner raws
    have hfiltered : (ofRaws r scanner raws).lines? =
        some (List.zipWith r.rewrite (scanner.findings (raws.map RawLine.content))
          (raws.map RawLine.content)) := by
      rw [ofRaws, lines?_ofLines, Line.map_text_ofRaws]
    have hcount : (ofRaws r scanner raws).lineCount = (ofRaws {} scanner raws).lineCount :=
      congrArg Outline.lineCount (outline_ofRaws r {} scanner raws)
    constructor
    · rintro ⟨htext, hrecords⟩
      refine ⟨raws.map RawLine.content, hplain, ?_⟩
      have hsame : (ofRaws r scanner raws).lines? = (ofRaws {} scanner raws).lines? := by
        rw [lines?, lines?, htext, hrecords, hcount]
      rw [hfiltered, hplain] at hsame
      exact Option.some.inj hsame
    · rintro ⟨lines, hlines, hkept⟩
      rw [hplain] at hlines
      cases hlines
      rw [ofRaws, ofRaws, Line.ofRaws_eq_plain hkept]
      exact ⟨rfl, rfl⟩

end Page

namespace Source

section

variable {w : Surroundings} {o : Options} {scanner scanner' : Comment.Scanner} {m answer : Material}
  {d : Draft}

/-! ## Building without the output -/

/-- An output that is no text leaves a draft as it was, with one warning at its end. -/
theorem buildComparison_of_binary_match {t : FileTree} (name : Text)
    (hcommand : o.lineMatcher ≠ [])
    (hrun : (tooling w o).run o.lineMatcher m d.tree = (.ok answer, t))
    (hbinary : Page.ofBytes answer.encoding o.limits o.lineFilter scanner answer.content =
      .error .binary) :
    buildComparison w o scanner name m d =
      { d.warnLineMatcher o.lineMatcher .notText with tree := t } := by
  have hmaterial : comparisonMaterial w o m d = (.ok (some answer), { d with tree := t }) := by
    rw [comparisonMaterial, if_neg hcommand, Tooling.stage, if_neg hcommand, hrun]
    rfl
  exact buildComparison_of_binary hmaterial hbinary

/-- With an output that is no text the draft behind the preprocessor is kept, with one
warning at its end; without a line matcher it is kept with a copy of its display view. -/
theorem buildViews_of_binary_match {tree : FileTree} {output : Material} {page : Page}
    (hcommand : o.lineMatcher ≠ [])
    (hmaterial : ((tooling w o).stage o.preprocessor m tree).material = .ok output)
    (hpage : Page.ofBytes output.encoding o.limits {} scanner output.content =
      .ok (page, scanner'))
    (hanswer : ((tooling w o).run o.lineMatcher output
      ((tooling w o).stage o.preprocessor m tree).tree).1 = .ok answer)
    (hbinary : Page.ofBytes answer.encoding o.limits o.lineFilter scanner answer.content =
      .error .binary) :
    ∃ (d : Draft) (t : FileTree) (own : Page), d.display = .ofPage output.content page ∧
      d.comparison = {} ∧
      Page.ofBytes output.encoding o.limits o.lineFilter scanner output.content =
        .ok (own, scanner') ∧
      own.outline = page.outline ∧
      buildViews w o scanner m tree =
        { d.warnLineMatcher o.lineMatcher .notText with tree := t } ∧
      buildViews w { o with lineMatcher := [] } scanner m tree =
        { d with comparison := copied o output.content own } := by
  have htree := tree_preprocessed o ((tooling w o).stage o.preprocessor m tree)
  have hcomparison := comparison_preprocessed o ((tooling w o).stage o.preprocessor m tree)
  have hviews : buildViews w o scanner m tree = _ := buildViews_of_decoded hmaterial hpage
  have hwithout : buildViews w { o with lineMatcher := [] } scanner m tree =
      buildComparison w { o with lineMatcher := [] } scanner m.origin.name output
        { preprocessed o ((tooling w o).stage o.preprocessor m tree) with
          display := .ofPage output.content page } := buildViews_of_decoded hmaterial hpage
  rw [← htree] at hanswer
  generalize preprocessed o ((tooling w o).stage o.preprocessor m tree) = d at *
  have hmatched := buildComparison_of_binary_match
    (d := { d with display := .ofPage output.content page }) m.origin.name hcommand
    (Prod.ext hanswer rfl) hbinary
  obtain ⟨own, hown, houtline, hcopied⟩ := buildComparison_without_lineMatcher
    (d := { d with display := .ofPage output.content page }) w m.origin.name
    (show ({ o with lineMatcher := [] } : Options).lineMatcher = [] from rfl) hpage rfl hcomparison
  exact ⟨{ d with display := .ofPage output.content page }, _, own, rfl, hcomparison, hown,
    houtline, hviews.trans hmatched, hwithout.trans hcopied⟩

end

/-! ## Runs -/

variable {w : Surroundings} {choice : EncodingChoice} {o : Options} {s : Source}
  {tree : FileTree} {answer : Material}

/-- What the line matcher makes of the content that a run hands to it; none where it is not
started or fails. -/
def matched? (w : Surroundings) (choice : EncodingChoice) (o : Options) (s : Source)
    (tree : FileTree) : Option Material := do
  let input ← opened? w choice s tree
  let m ← prepared? w choice o s tree
  if o.lineMatcher = [] then none
  else
    ((tooling w o).run o.lineMatcher m
      ((tooling w o).stage o.preprocessor input tree).tree).1.toOption

/-- What a line matcher answers, it answers to text that comes out of the preprocessor. -/
theorem matched?_eq_some (h : matched? w choice o s tree = some answer) :
    ∃ input m page scanner', opened? w choice s tree = some input ∧ o.lineMatcher ≠ [] ∧
      ((tooling w o).stage o.preprocessor input tree).material = .ok m ∧
      Page.ofBytes m.encoding o.limits {} (s.scanner o) m.content = .ok (page, scanner') ∧
      ((tooling w o).run o.lineMatcher m
        ((tooling w o).stage o.preprocessor input tree).tree).1 = .ok answer := by
  simp only [matched?, Option.bind_eq_bind, Option.bind_eq_some_iff] at h
  obtain ⟨input, hopened, m, hprepared, hmatched⟩ := h
  obtain ⟨again, page, scanner', hagain, hmaterial, hpage⟩ := prepared?_eq_some hprepared
  rw [hopened] at hagain
  obtain rfl := Option.some.inj hagain
  split at hmatched
  · cases hmatched
  · rename_i hcommand
    refine ⟨input, m, page, scanner', hopened, hcommand, hmaterial, hpage, ?_⟩
    generalize ((tooling w o).run o.lineMatcher m
      ((tooling w o).stage o.preprocessor input tree).tree).1 = result at hmatched
    cases result with
    | error reason => cases hmatched
    | ok output =>
      cases hmatched
      rfl

/-- **Output that is no text.**  A run whose line matcher answers with what is no text shows
what the run without a line matcher shows, and warns once more.  It compares the lines that
it shows.  Those are the lines that the run without a line matcher compares just when the
filter of the options leaves each of them alone, and so always when nothing is to be
ignored. -/
theorem run_of_binary_match (hanswer : matched? w choice o s tree = some answer)
    (hbinary : Page.ofBytes answer.encoding o.limits o.lineFilter (s.scanner o) answer.content =
      .error .binary) :
    let without := run w choice { o with lineMatcher := [] } s tree
    let outcome := run w choice o s tree
    outcome.source.display = without.source.display ∧
      outcome.source.comparisonLines? = outcome.source.display.lines? ∧
      (outcome.source.comparisonLines? = without.source.comparisonLines? ↔
        ∃ lines, outcome.source.display.page.lines? = some lines ∧
          List.zipWith o.lineFilter.rewrite ((s.scanner o).findings lines) lines = lines) ∧
      outcome.report =
        { failures := without.report.failures ++ [.lineMatcherFailed o.lineMatcher .notText]
          update := { without.report.update with disableLineMatcher := true } } := by
  obtain ⟨input, m, page, scanner', hopened, hcommand, hmaterial, hpage, hrun⟩ :=
    matched?_eq_some hanswer
  obtain ⟨d, t, own, hdisplay, hcomparison, hown, houtline, hviews, hwithout⟩ :=
    buildViews_of_binary_match hcommand hmaterial hpage hrun hbinary
  rw [run_of_opened? hopened, run_of_opened? hopened, hviews,
    show s.scanner { o with lineMatcher := [] } = s.scanner o from rfl, hwithout]
  have hshown : d.display.lines? = some ⟨page.text, page.records, page.lineCount⟩ := by
    rw [hdisplay]
    exact View.lines?_of_wellFormed (Page.wellFormed_of_ofBytes hpage)
  have hcount : own.lineCount = page.lineCount := congrArg Page.Outline.lineCount houtline
  refine ⟨rfl, comparisonLines?_of_unbuilt hcomparison, ?_, rfl⟩
  rw [comparisonLines?_of_unbuilt hcomparison,
    comparisonLines?_of_copied (o := o) hpage hown hdisplay rfl]
  have hkept := Page.filtered_eq_iff hpage hown
  show d.display.lines? = some ⟨own.text, own.records, own.lineCount⟩ ↔ _
  rw [hshown, hcount]
  dsimp only
  rw [show (d.warnLineMatcher o.lineMatcher .notText).display = d.display from rfl, hdisplay]
  refine Iff.trans ?_ hkept
  constructor
  · intro h
    obtain ⟨htext, hrecords, -⟩ := View.Lines.mk.inj (Option.some.inj h)
    exact ⟨htext.symm, hrecords.symm⟩
  · rintro ⟨htext, hrecords⟩
    rw [htext, hrecords]

/-- A matcher that answers NUL keeps nothing from being ignored in `a`, where case makes no
difference. -/
theorem run_of_binary_match_of_lowercase :
    let w : Surroundings :=
      { host := ⟨fun _ tree => .ok ⟨[0xEF, 0xBB, 0xBF, 0x00], .exited 0, ⟨1⟩, tree⟩⟩ }
    let o : Options := { lineMatcher := ['m'], ignoreCase := true }
    let s : Source := { input := .memory ['\uFEFF', 'a'] }
    (∃ answer, matched? w {} o s {} = some answer ∧
      Page.ofBytes answer.encoding o.limits o.lineFilter (s.scanner o) answer.content =
        .error .binary) ∧
      (run w {} o s {}).source.comparisonLines? =
        (run w {} { o with lineMatcher := [] } s {}).source.comparisonLines? ∧
      (run w {} o s {}).report.failures = [.lineMatcherFailed ['m'] .notText] := by
  intro w o s
  have hanswer : matched? w {} o s {} = some ⟨.scratch [0xEF, 0xBB, 0xBF, 0x00],
    [0xEF, 0xBB, 0xBF, 0x00], .utf8⟩ := rfl
  have hbinary : Page.ofBytes .utf8 o.limits o.lineFilter (s.scanner o)
    [0xEF, 0xBB, 0xBF, 0x00] = .error .binary := rfl
  obtain ⟨-, -, hcompared, hreport⟩ := run_of_binary_match hanswer hbinary
  refine ⟨⟨_, hanswer, hbinary⟩, hcompared.2 ⟨[['a']], rfl, rfl⟩, ?_⟩
  rw [hreport]
  rfl

/-- The same matcher keeps case from being ignored in `A`: the run without it compares `a`. -/
theorem comparisonLines_of_binary_match_unfolded :
    let w : Surroundings :=
      { host := ⟨fun _ tree => .ok ⟨[0xEF, 0xBB, 0xBF, 0x00], .exited 0, ⟨1⟩, tree⟩⟩ }
    let o : Options := { lineMatcher := ['m'], ignoreCase := true }
    let s : Source := { input := .memory ['\uFEFF', 'A'] }
    matched? w {} o s {} = some ⟨.scratch [0xEF, 0xBB, 0xBF, 0x00], [0xEF, 0xBB, 0xBF, 0x00],
        .utf8⟩ ∧
      Page.ofBytes .utf8 o.limits o.lineFilter (s.scanner o) [0xEF, 0xBB, 0xBF, 0x00] =
        .error .binary ∧
      (run w {} o s {}).source.comparisonLines? ≠
        (run w {} { o with lineMatcher := [] } s {}).source.comparisonLines? ∧
      (run w {} o s {}).source.comparisonLines?.map View.Lines.toList = some [['A']] ∧
      (run w {} { o with lineMatcher := [] } s {}).source.comparisonLines?.map
        View.Lines.toList = some [['a']] :=
  ⟨rfl, rfl, by decide, rfl, rfl⟩

end Source

end TextIntake
