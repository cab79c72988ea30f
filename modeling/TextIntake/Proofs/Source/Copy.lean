import TextIntake.Proofs.Line.Rewriting
import TextIntake.Proofs.Source.Building

set_option autoImplicit false

/-!
# Runs without a line matcher

Without a line matcher the comparison view is a copy of the display view, decoded with the
filter of the options, or there is none.  The copy has the lines of the display view, so
that it is not padded, and their flags, so that the display view takes nothing over: it
shows the page of the content as it is.

Main statements: `buildComparison_of_copy` and `buildComparison_without_lineMatcher`.
-/

namespace TextIntake

namespace Page

variable {e : Encoding} {limits : Limits} {scanner scanner' : Comment.Scanner} {bs : Bytes}
  {page : Page}

/-- Under a filter a document has the lines of its page and their flags. -/
theorem ofBytes_filtered (h : ofBytes e limits {} scanner bs = .ok (page, scanner'))
    (r : LineFilter) :
    ∃ own, ofBytes e limits r scanner bs = .ok (own, scanner') ∧
      own.outline = page.outline := by
  rw [ofBytes_eq_map] at h ⊢
  cases hraws : rawLines e limits bs with
  | error refusal =>
    rw [hraws] at h
    cases h
  | ok raws =>
    rw [hraws] at h
    cases h
    exact ⟨ofRaws r scanner raws, rfl, outline_ofRaws r {} scanner raws⟩

end Page

namespace Source

variable {w : Surroundings} {o : Options} {scanner scanner' : Comment.Scanner} {m : Material}
  {d : Draft} {page : Page}

/-! ## The copy -/

/-- Where no copy is wanted, nothing is filtered. -/
theorem lineFilter_of_wantsComparisonCopy_eq_false (h : o.wantsComparisonCopy = false) :
    o.lineFilter = {} := by
  simp only [Options.wantsComparisonCopy, Bool.or_eq_false_iff] at h
  obtain ⟨⟨hcomments, hcase⟩, hnumbers⟩ := h
  rw [Options.lineFilter, hcomments, hcase, hnumbers]

/-- The copy that is compared without a line matcher, where there is one. -/
def copied (o : Options) (content : Bytes) (own : Page) : View :=
  if o.wantsComparisonCopy then .ofPage content own else {}

theorem page_copied (o : Options) (content : Bytes) (own : Page) :
    (copied o content own).page = if o.wantsComparisonCopy then own else {} := by
  rw [copied]
  split <;> rfl

/-- Where the comparison view is made of what the display view shows, the display view stays
as it is, beside a copy that is not padded. -/
theorem buildComparison_of_copy {d₁ : Draft} (name : Text)
    (hmaterial : comparisonMaterial w o m d = (.ok (some m), d₁))
    (hpage : Page.ofBytes m.encoding o.limits {} scanner m.content = .ok (page, scanner'))
    (hdisplay : d₁.display = .ofPage m.content page) :
    ∃ own, Page.ofBytes m.encoding o.limits o.lineFilter scanner m.content =
        .ok (own, scanner') ∧ own.outline = page.outline ∧
      buildComparison w o scanner name m d =
        { d₁ with comparison := .ofPage m.content own } := by
  obtain ⟨own, hown, houtline⟩ := Page.ofBytes_filtered hpage o.lineFilter
  have hcount : own.lineCount = page.lineCount := congrArg Page.Outline.lineCount houtline
  have hflags : own.records.map LineRecord.pureComment =
      page.records.map LineRecord.pureComment := congrArg Page.Outline.flags houtline
  have hpadded : (View.ofPage m.content own).padTo d₁.display.page.lineCount =
      .ofPage m.content own := by
    rw [hdisplay]
    exact View.padTo_of_le (Nat.le_of_eq hcount.symm)
  have hadopted : d₁.display.adoptCommentFlags (.ofPage m.content own) = d₁.display := by
    rw [hdisplay]
    exact View.adoptCommentFlags_eq_self hflags
  refine ⟨own, hown, houtline, ?_⟩
  rw [buildComparison_of_decoded hmaterial hown]
  dsimp only
  rw [hpadded, hadopted, ite_self]

/-- Without a line matcher the display view stays as it is, beside at most a copy. -/
theorem buildComparison_without_lineMatcher (w : Surroundings) (name : Text) (hnone : o.lineMatcher = [])
    (hpage : Page.ofBytes m.encoding o.limits {} scanner m.content = .ok (page, scanner'))
    (hdisplay : d.display = .ofPage m.content page) (hcomparison : d.comparison = {}) :
    ∃ own, Page.ofBytes m.encoding o.limits o.lineFilter scanner m.content =
        .ok (own, scanner') ∧ own.outline = page.outline ∧
      buildComparison w o scanner name m d =
        { d with comparison := copied o m.content own } := by
  have hmaterial : comparisonMaterial w o m d =
      (.ok (if o.wantsComparisonCopy then some m else none), d) := if_pos hnone
  cases hwants : o.wantsComparisonCopy with
  | false =>
    obtain ⟨own, hown, houtline⟩ := Page.ofBytes_filtered hpage o.lineFilter
    rw [hwants, if_neg Bool.false_ne_true] at hmaterial
    refine ⟨own, hown, houtline, ?_⟩
    rw [buildComparison, hmaterial, copied, hwants, if_neg Bool.false_ne_true, ← hcomparison]
  | true =>
    rw [hwants, if_pos rfl] at hmaterial
    obtain ⟨own, hown, houtline, hcopy⟩ := buildComparison_of_copy name hmaterial hpage hdisplay
    refine ⟨own, hown, houtline, ?_⟩
    rw [hcopy, copied, hwants, if_pos rfl]

/-- Beside a display view and its copy, or without a copy, the lines to compare are those of
the page under the filter of the options. -/
theorem comparisonLines?_of_copied {s : Source} {own : Page}
    (hpage : Page.ofBytes m.encoding o.limits {} scanner m.content = .ok (page, scanner'))
    (hown : Page.ofBytes m.encoding o.limits o.lineFilter scanner m.content =
      .ok (own, scanner'))
    (hdisplay : s.display = .ofPage m.content page)
    (hcomparison : s.comparison = copied o m.content own) :
    s.comparisonLines? = some ⟨own.text, own.records, own.lineCount⟩ := by
  cases hwants : o.wantsComparisonCopy with
  | false =>
    rw [copied, hwants, if_neg Bool.false_ne_true] at hcomparison
    rw [lineFilter_of_wantsComparisonCopy_eq_false hwants, hpage] at hown
    obtain ⟨rfl, -⟩ := Prod.mk.inj (Except.ok.inj hown)
    rw [comparisonLines?_of_unbuilt hcomparison, hdisplay]
    exact View.lines?_of_wellFormed (Page.wellFormed_of_ofBytes hpage)
  | true =>
    rw [copied, hwants, if_pos rfl] at hcomparison
    rw [comparisonLines?, hcomparison]
    exact View.lines?_of_wellFormed (Page.wellFormed_of_ofBytes hown)

end Source

end TextIntake
