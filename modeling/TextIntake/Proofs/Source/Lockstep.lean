import TextIntake.Proofs.Source.Building

set_option autoImplicit false

/-!
# The views in lockstep

The display view and the comparison view come from decoding possibly different bytes
in possibly different encodings.  Whichever way a run takes, every line that is shown
has a line to compare at the same number.

Main statement: `inLockstep_of_run`.
-/

namespace TextIntake.Source

/-! ## The invariant -/

/-- What a run that did not fail promises of the two views of a source. -/
structure InLockstep (o : Options) (s : Source) : Prop where
  /-- Every line that is shown has a line to compare. -/
  covered : ∀ {d : View.Lines}, s.display.lines? = some d →
    ∃ c, s.comparisonLines? = some c ∧ d.count ≤ c.count ∧
      ∀ i < d.count, ∃ line, c.line? i = some line
  /-- Without a line matcher there are as many lines to compare as are shown. -/
  sameCount : o.lineMatcher = [] → ∀ {d c : View.Lines}, s.display.lines? = some d →
    s.comparisonLines? = some c → c.count = d.count
  /-- The lines to compare are those that the bytes of the comparison view split into.
  Where they are fewer than are shown, empty ones at the end of the text follow, up to the
  record behind the last line. -/
  padded : s.comparison.hasData = true → ∀ {d : View.Lines}, s.display.lines? = some d →
    ∃ e own scanner', (s.encoding = some e ∨ o.toolEncoding = some e) ∧
      Page.ofBytes e o.limits o.lineFilter (s.scanner o) s.comparison.bytes =
        .ok (own, scanner') ∧
      (own.lineCount < d.count →
        ∃ c, s.comparisonLines? = some c ∧ c.text = own.text ∧ c.count = d.count ∧
          c.records.length = d.count + 1 ∧
          (∀ i < own.lineCount, c.records[i]? = own.records[i]?) ∧
          ∀ i, own.lineCount ≤ i → i ≤ d.count →
            c.records[i]? = some (LineRecord.emptyAt (Text.byteLength own.text)))
  /-- Where comments are ignored, a line that is shown is nothing but comment just when
  the line to compare is. -/
  flags : o.ignoreComments = true → s.comparison.hasData = true → ∀ {d c : View.Lines},
    s.display.lines? = some d → s.comparisonLines? = some c →
    ∀ i < d.count, ∃ r t, d.record? i = some r ∧ c.record? i = some t ∧
      r.pureComment = t.pureComment
  /-- Content that is no text has no lines and is not compared by line. -/
  binary : s.display.isText = false →
    s.display.lines? = none ∧ s.comparisonLines? = none ∧ s.comparison.hasData = false

variable {o : Options} {s : Source}

/-! ## Sources with one view -/

/-- A source with a display view alone is in lockstep when the lines that are shown can
be read. -/
theorem inLockstep_of_unbuilt (hcomparison : s.comparison = {})
    (hread : ∀ {d : View.Lines}, s.display.lines? = some d →
      ∀ i < d.count, ∃ line, d.line? i = some line)
    (hbinary : s.display.isText = false → s.display.lines? = none) : InLockstep o s where
  covered := by
    intro d hd
    exact ⟨d, (comparisonLines?_of_unbuilt hcomparison).trans hd, Nat.le_refl _, hread hd⟩
  sameCount := by
    intro _ d c hd hc
    rw [comparisonLines?_of_unbuilt hcomparison, hd] at hc
    cases hc
    rfl
  padded := by
    intro hdata
    rw [hcomparison] at hdata
    cases hdata
  flags := by
    intro _ hdata
    rw [hcomparison] at hdata
    cases hdata
  binary := by
    intro htext
    rw [comparisonLines?_of_unbuilt hcomparison, hcomparison]
    exact ⟨hbinary htext, hbinary htext, rfl⟩

/-- A view without records shows no lines. -/
theorem inLockstep_of_no_records (hdisplay : s.display.page.records = [])
    (hcomparison : s.comparison = {}) : InLockstep o s := by
  have hnone : s.display.lines? = none := by rw [View.lines?, if_pos hdisplay]
  refine inLockstep_of_unbuilt hcomparison ?_ fun _ => hnone
  intro d hd
  rw [hnone] at hd
  cases hd

theorem inLockstep_of_page {content : Bytes} {page : Page} (hpage : page.WellFormed)
    (hdisplay : s.display = .ofPage content page) (hcomparison : s.comparison = {}) :
    InLockstep o s := by
  refine inLockstep_of_unbuilt hcomparison ?_ ?_
  · intro d hd i hi
    rw [hdisplay, View.lines?_of_wellFormed hpage] at hd
    cases hd
    obtain ⟨r, line, hr, hline⟩ := hpage.exists_text? hi
    exact ⟨line, (View.Lines.line?_of_record hi hr).trans hline⟩
  · intro htext
    rw [hdisplay] at htext
    cases htext

/-! ## Sources with two views -/

section

variable {e : Encoding} {content bytes : Bytes} {page own : Page}
  {scanner scanner' : Comment.Scanner}

/-- The lines to compare of a padded comparison view. -/
theorem comparisonLines?_of_built {count : Nat} (hown : own.WellFormed)
    (hcomparison : s.comparison = (View.ofPage bytes own).padTo count) :
    s.comparisonLines? = some (.padded own count) := by
  rw [comparisonLines?, hcomparison]
  exact View.lines?_padTo hown bytes count

/-- A view that shows a page shows its lines, with the flags of other lines or its own. -/
theorem count_of_display {d : View.Lines} {other : View} (hd : s.display.lines? = some d)
    (hdisplay : s.display =
      if o.ignoreComments then (View.ofPage content page).adoptCommentFlags other
      else View.ofPage content page) : d.count = page.lineCount := by
  obtain ⟨_, rfl⟩ := View.lines?_eq_some_iff.1 hd
  rw [hdisplay]
  split <;> rfl

/-- The flags of the lines that are shown are those of the lines to compare. -/
theorem flags_of_adopted {count : Nat} {d : View.Lines} (hpage : page.WellFormed)
    (hown : own.WellFormed) (hcount : page.lineCount ≤ count)
    (hdisplay : s.display =
      (View.ofPage content page).adoptCommentFlags ((View.ofPage bytes own).padTo count))
    (hd : s.display.lines? = some d) :
    ∀ i < d.count, ∃ r t, d.record? i = some r ∧
      (View.Lines.padded own count).record? i = some t ∧ r.pureComment = t.pureComment := by
  obtain ⟨_, rfl⟩ := View.lines?_eq_some_iff.1 hd
  rw [hdisplay]
  intro i hi
  have hshown : i < page.lineCount := hi
  have hpadded : i < max own.lineCount count := by omega
  obtain ⟨r, _, hr, _⟩ := hpage.exists_text? hshown
  obtain ⟨t, _, ht, _⟩ := View.Lines.exists_text?_padded hown hpadded
  refine ⟨{ r with pureComment := t.pureComment }, t, ?_, ?_, rfl⟩
  · rw [View.Lines.record?_of_lt hi]
    exact View.getElem?_adoptCommentFlags (v := .ofPage content page) hshown hpadded hr ht
  · rw [View.Lines.record?_of_lt hpadded]
    exact ht

/-- A comparison view padded to the lines of the display view is in lockstep with it. -/
theorem inLockstep_of_built (hscanner : s.scanner o = scanner)
    (hencoding : s.encoding = some e ∨ o.toolEncoding = some e) (hpage : page.WellFormed)
    (hdecodes : Page.ofBytes e o.limits o.lineFilter scanner bytes = .ok (own, scanner'))
    (hsame : o.lineMatcher = [] → own.lineCount = page.lineCount)
    (hcomparison : s.comparison = (View.ofPage bytes own).padTo page.lineCount)
    (hdisplay : s.display =
      if o.ignoreComments then (View.ofPage content page).adoptCommentFlags s.comparison
      else View.ofPage content page) : InLockstep o s := by
  have hown : own.WellFormed := Page.wellFormed_of_ofBytes hdecodes
  have hlines := comparisonLines?_of_built hown hcomparison
  refine ⟨?covered, ?sameCount, ?padded, ?flags, ?binary⟩
  case covered =>
    intro d hd
    rw [count_of_display hd hdisplay]
    refine ⟨_, hlines, Nat.le_max_right _ _, ?_⟩
    intro i hi
    have hpadded := Nat.lt_of_lt_of_le hi (Nat.le_max_right own.lineCount page.lineCount)
    obtain ⟨r, line, hr, hline⟩ := View.Lines.exists_text?_padded hown hpadded
    exact ⟨line, (View.Lines.line?_of_record hpadded hr).trans hline⟩
  case sameCount =>
    intro hnone d c hd hc
    rw [hlines] at hc
    cases hc
    rw [count_of_display hd hdisplay, ← hsame hnone]
    exact Nat.max_self own.lineCount
  case padded =>
    intro _ d hd
    refine ⟨e, own, scanner', hencoding, ?_, ?_⟩
    · rw [hscanner, hcomparison]
      exact hdecodes
    · rw [count_of_display hd hdisplay]
      intro hfew
      have hmax := Nat.max_eq_right (Nat.le_of_lt hfew)
      have hlength := hown.length_records
      refine ⟨_, hlines, rfl, hmax, ?_, ?_, ?_⟩
      · rw [View.Lines.length_padded hown, hmax]
      · intro i hi
        exact View.Lines.getElem?_padded_of_lt (by omega)
      · intro i hle hi
        exact View.Lines.getElem?_padded_of_le hown hle (by omega)
  case flags =>
    intro hignore _ d c hd hc
    rw [hlines] at hc
    cases hc
    rw [if_pos hignore, hcomparison] at hdisplay
    exact flags_of_adopted hpage hown (Nat.le_refl _) hdisplay hd
  case binary =>
    intro htext
    rw [hdisplay] at htext
    split at htext <;> cases htext

end

/-! ## Runs -/

variable {w : Surroundings} {choice : EncodingChoice} {tree : FileTree}

/-- **Lockstep.**  After a run that no failure has ended, whatever the commands did, the
two views of the source are in lockstep. -/
theorem inLockstep_of_run (h : (run w choice o s tree).report.fatal? = none) :
    InLockstep o (run w choice o s tree).source := by
  cases hm : opened? w choice s tree with
  | none =>
    obtain ⟨hdisplay, hcomparison⟩ := views_of_opened?_none (o := o) hm
    refine inLockstep_of_no_records ?_ hcomparison
    rw [hdisplay]
  | some m =>
    have hbuilding := building_buildViews w o (s.scanner o) m tree
    rw [run_of_opened? hm] at h ⊢
    dsimp only at h ⊢
    generalize buildViews w o (s.scanner o) m tree = d at h hbuilding
    cases hbuilding with
    | ended reported fatal => exact absurd h (Report.fatal?_ne_none reported fatal)
    | binary nonempty display comparison =>
      refine inLockstep_of_no_records ?_ comparison
      show d.display.page.records = []
      rw [display]
      rfl
    | text reads decodes display comparison compares =>
      have hpage := Page.wellFormed_of_ofBytes decodes
      cases compares with
      | ended reported fatal => exact absurd h (Report.fatal?_ne_none reported fatal)
      | unbuilt display' comparison' =>
        exact inLockstep_of_page hpage (display'.trans display) (comparison'.trans comparison)
      | built reads' copies decodes' comparison' display' =>
        rw [display] at comparison' display'
        refine inLockstep_of_built ?_ ?_ hpage decodes' ?_ comparison' display'
        · rw [scanner, scanner, location_resolve]
        · rcases reads' with hsame | htool
          · rw [hsame]
            exact reads.imp (fun h => congrArg some h.symm) id
          · exact .inr htool
        · intro hnone
          obtain rfl := copies hnone
          exact Page.lineCount_eq_of_ofBytes decodes decodes'

/-- A matcher that answers with one line, a comment, is padded to the two lines that are
shown, the first of which takes over its flag. -/
theorem inLockstep_of_short_match :
    let w : Surroundings :=
      { host := ⟨fun _ tree => .ok ⟨[0xEF, 0xBB, 0xBF, 0x2F, 0x2F], .exited 0, ⟨1⟩, tree⟩⟩ }
    let o : Options := { lineMatcher := ['m'], ignoreComments := true, commentSyntax := .cStyle }
    let s : Source := { input := .memory ['\uFEFF', 'a', '\n', 'b'] }
    (run w {} o s {}).report.fatal? = none ∧ InLockstep o (run w {} o s {}).source ∧
      (run w {} o s {}).source.comparisonLines?.map View.Lines.toList = some [[], []] ∧
      (run w {} o s {}).source.display.lines?.map View.Lines.pureComments = some 1 :=
  ⟨rfl, inLockstep_of_run rfl, rfl, rfl⟩

end TextIntake.Source
