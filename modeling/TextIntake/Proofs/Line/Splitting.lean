import TextIntake.Line.Splitting
import TextIntake.Proofs.Comment.Strip
import TextIntake.Proofs.Encoding.Repertoire
import TextIntake.Proofs.Line.Cut
import TextIntake.Proofs.Line.Page

set_option autoImplicit false

/-!
# Splitting a document

`ofBytes_eq_ok_iff` opens a successful split: the lines that cutting finds, each
finished by the scanner, laid out as a page.  From there the page is well formed
under every filter, and without a filter it holds exactly the lines that the text
is written as.

Main statements: `ofBytes_eq_ok_iff`, `wellFormed_of_ofBytes` and
`written_lines_of_plain_page`.
-/

namespace TextIntake

/-! ## Filtered lines -/

/-- A filtered line of text is a line of text. -/
theorem LineFilter.isInline_of_mem_apply {r : LineFilter} {finding : Comment.Finding}
    {line : Text} {c : Char} (hline : ∀ d ∈ line, Character.IsInline d)
    (hc : c ∈ r.apply finding line) : Character.IsInline c := by
  have hstrip : ∀ d ∈ (if r.removeComments then finding.strip line else line),
      Character.IsInline d := by
    intro d hd
    split at hd
    · exact hline d ((finding.strip_sublist line).subset hd)
    · exact hline d hd
  unfold LineFilter.apply at hc
  generalize (if r.removeComments then finding.strip line else line) = stripped at hstrip hc
  have hfold : ∀ d ∈ (if r.foldCase then Text.lowercase stripped else stripped),
      Character.IsInline d := by
    intro d hd
    split at hd
    · exact Text.isInline_of_mem_lowercase hstrip hd
    · exact hstrip d hd
  dsimp only at hc
  generalize (if r.foldCase then Text.lowercase stripped else stripped) = folded at hfold hc
  split at hc
  · exact hfold c (List.mem_filter.1 hc).1
  · exact hfold c hc

namespace Line

theorem map_text_ofRaws_plain (scanner : Comment.Scanner) (raws : List RawLine) :
    (ofRaws {} scanner raws).1.map Line.text = raws.map RawLine.content := by
  induction raws generalizing scanner with
  | nil => rfl
  | cons raw raws ih =>
    rw [ofRaws, List.map_cons, List.map_cons, ih]
    rfl

theorem length_ofRaws (r : LineFilter) (scanner : Comment.Scanner) (raws : List RawLine) :
    (ofRaws r scanner raws).1.length = raws.length := by
  induction raws generalizing scanner with
  | nil => rfl
  | cons raw raws ih => rw [ofRaws, List.length_cons, List.length_cons, ih]

theorem isInline_of_mem_ofRaws {r : LineFilter} {scanner : Comment.Scanner}
    {raws : List RawLine} (hraws : ∀ raw ∈ raws, ∀ c ∈ raw.content, Character.IsInline c) :
    ∀ l ∈ (ofRaws r scanner raws).1, ∀ c ∈ l.text, Character.IsInline c := by
  induction raws generalizing scanner with
  | nil => simp [ofRaws]
  | cons raw raws ih =>
    intro l hl
    rw [ofRaws, List.mem_cons] at hl
    rcases hl with rfl | hl
    · intro c hc
      exact LineFilter.isInline_of_mem_apply (hraws raw (by simp)) hc
    · exact ih (fun raw hraw => hraws raw (List.mem_cons_of_mem _ hraw)) l hl

end Line

theorem RawLine.WellEnded.isInline {raws : List RawLine} (h : WellEnded raws) :
    ∀ raw ∈ raws, ∀ c ∈ raw.content, Character.IsInline c := by
  induction raws with
  | nil => simp
  | cons raw raws ih =>
    intro line hline
    rcases List.mem_cons.1 hline with rfl | hline
    · exact h.1
    · exact ih h.2.2 line hline

namespace Page

/-! ## Successful splits -/

/-- The page of lines that were cut out of a text. -/
def ofRaws (r : LineFilter) (scanner : Comment.Scanner) (raws : List RawLine) : Page :=
  ofLines (Line.ofRaws r scanner raws).1 (RawLine.style raws) (raws.any RawLine.hasReplacement)

/-- A split succeeds when the text behind the marker is short enough and is written as
well-ended lines, not too many. -/
theorem ofBytes_eq_ok_iff {e : Encoding} {limits : Limits} {r : LineFilter}
    {scanner scanner' : Comment.Scanner} {bs : Bytes} {page : Page} :
    ofBytes e limits r scanner bs = .ok (page, scanner') ↔
      (e.unmarked bs).length ≤ limits.maxBytes ∧
        ∃ raws, RawLine.WellEnded raws ∧ RawLine.written raws = e.decodeText (e.unmarked bs) ∧
          raws.length ≤ limits.maxLines ∧ page = ofRaws r scanner raws ∧
          scanner' = (Line.ofRaws r scanner raws).2 := by
  unfold ofBytes
  rw [payload_eq_unmarked]
  dsimp only
  split
  · rename_i hlong
    constructor
    · intro h
      cases h
    · rintro ⟨hlen, _⟩
      omega
  · rename_i hshort
    unfold ofText
    constructor
    · intro h
      split at h
      · cases h
      · rename_i raws hcut
        obtain ⟨hwell, hwritten, hlines⟩ := RawLine.cut_eq_ok_iff.1 hcut
        simp only [Except.ok.injEq, Prod.mk.injEq] at h
        exact ⟨by omega, raws, hwell, hwritten, hlines, h.1.symm, h.2.symm⟩
    · rintro ⟨_, raws, hwell, hwritten, hlines, rfl, rfl⟩
      rw [RawLine.cut_eq_ok_iff.2 ⟨hwell, hwritten, hlines⟩]
      rfl

/-- Whether a document is split, and into how many lines, is settled before its lines are
filtered. -/
theorem ofBytes_refilter {e : Encoding} {limits : Limits} {r : LineFilter}
    {scanner scanner' : Comment.Scanner} {bs : Bytes} {page : Page}
    (h : ofBytes e limits r scanner bs = .ok (page, scanner')) (r₂ : LineFilter)
    (scanner₂ : Comment.Scanner) :
    ∃ page₂ scanner₂', ofBytes e limits r₂ scanner₂ bs = .ok (page₂, scanner₂') ∧
      page₂.lineCount = page.lineCount := by
  obtain ⟨hbytes, raws, hwell, hwritten, hlines, rfl, _⟩ := ofBytes_eq_ok_iff.1 h
  refine ⟨ofRaws r₂ scanner₂ raws, (Line.ofRaws r₂ scanner₂ raws).2,
    ofBytes_eq_ok_iff.2 ⟨hbytes, raws, hwell, hwritten, hlines, rfl, rfl⟩, ?_⟩
  show (Line.ofRaws r₂ scanner₂ raws).1.length = (Line.ofRaws r scanner raws).1.length
  rw [Line.length_ofRaws, Line.length_ofRaws]

theorem lineCount_eq_of_ofBytes {e : Encoding} {limits : Limits} {r r₂ : LineFilter}
    {scanner scanner' scanner₂ scanner₂' : Comment.Scanner} {bs : Bytes} {page page₂ : Page}
    (h : ofBytes e limits r scanner bs = .ok (page, scanner'))
    (h₂ : ofBytes e limits r₂ scanner₂ bs = .ok (page₂, scanner₂')) :
    page₂.lineCount = page.lineCount := by
  obtain ⟨again, _, hagain, hcount⟩ := ofBytes_refilter h r₂ scanner₂
  rw [h₂] at hagain
  cases hagain
  exact hcount

/-- No content is text without lines. -/
theorem ofBytes_nil (e : Encoding) (limits : Limits) (r : LineFilter)
    (scanner : Comment.Scanner) :
    ofBytes e limits r scanner [] = .ok (ofRaws r scanner [], scanner) :=
  ofBytes_eq_ok_iff.2 ⟨by simp, [], trivial, by simp [RawLine.written], by simp, rfl, rfl⟩

/-- Content that is refused is not empty. -/
theorem ne_nil_of_refused {e : Encoding} {limits : Limits} {r : LineFilter}
    {scanner : Comment.Scanner} {bs : Bytes} {refusal : Refusal}
    (h : ofBytes e limits r scanner bs = .error refusal) : bs ≠ [] := by
  rintro rfl
  rw [ofBytes_nil] at h
  cases h

/-- **Representation invariant.**  Whatever is filtered out of its lines, and in whatever
state the scanner starts, the page of a document is well formed. -/
theorem wellFormed_of_ofBytes {e : Encoding} {limits : Limits} {r : LineFilter}
    {scanner scanner' : Comment.Scanner} {bs : Bytes} {page : Page}
    (h : ofBytes e limits r scanner bs = .ok (page, scanner')) : page.WellFormed := by
  obtain ⟨_, raws, hwell, _, _, rfl, _⟩ := ofBytes_eq_ok_iff.1 h
  exact wellFormed_ofLines (Line.isInline_of_mem_ofRaws hwell.isInline)

/-- The line `*/À1`, read inside a block comment, is kept as the two bytes of `à`. -/
theorem wellFormed_of_folded_document :
    let page : Page :=
      ⟨['à', '\n', 'b', '\n'],
        [⟨0, 2, some 0, false⟩, ⟨3, 1, some 0, false⟩, ⟨5, 0, none, false⟩], 2, .undefined, false⟩
    ofBytes .utf8 {} ⟨true, true, true⟩ (.cStyle true)
        [0xEF, 0xBB, 0xBF, 0x2A, 0x2F, 0xC3, 0x80, 0x31, 0x0D, 0x42] =
      .ok (page, .cStyle false) ∧ page.WellFormed :=
  ⟨rfl, wellFormed_of_ofBytes
    (show ofBytes .utf8 {} ⟨true, true, true⟩ (.cStyle true)
      [0xEF, 0xBB, 0xBF, 0x2A, 0x2F, 0xC3, 0x80, 0x31, 0x0D, 0x42] = .ok (_, .cStyle false)
      from rfl)⟩

/-! ## Pages without a filter -/

/-- What is written in UTF-8 begins with the marker only where the text begins with
U+FEFF. -/
theorem unmarked_encode {t : Text} (h : t.head? ≠ some '\uFEFF') :
    Encoding.utf8.unmarked (Utf8.encode t) = Utf8.encode t :=
  Encoding.unmarked_of_decode (Utf8.decode_encode t) h

theorem lines?_ofRaws_plain (scanner : Comment.Scanner) (raws : List RawLine) :
    (ofRaws {} scanner raws).lines? = some (raws.map RawLine.content) := by
  rw [ofRaws, lines?_ofLines, Line.map_text_ofRaws_plain]

/-- **Splitting inverts writing.**  Without a filter the lines of a page are those that
the text of the document is written as, with nothing lost between them.  And any
well-ended lines, written in UTF-8, come back as they were, unless what they begin with
is taken for a marker. -/
theorem written_lines_of_plain_page :
    (∀ (e : Encoding) (limits : Limits) (scanner scanner' : Comment.Scanner) (bs : Bytes)
        (page : Page), ofBytes e limits {} scanner bs = .ok (page, scanner') →
      ∃ raws, RawLine.WellEnded raws ∧ RawLine.written raws = e.decodeText (e.unmarked bs) ∧
        page.lines? = some (raws.map RawLine.content) ∧ page.lineCount = raws.length ∧
        page.style = RawLine.style raws) ∧
    (∀ (limits : Limits) (scanner : Comment.Scanner) (raws : List RawLine),
      RawLine.WellEnded raws → (RawLine.written raws).head? ≠ some '\uFEFF' →
      raws.length ≤ limits.maxLines →
      (Utf8.encode (RawLine.written raws)).length ≤ limits.maxBytes →
      ∃ page scanner',
        ofBytes .utf8 limits {} scanner (Utf8.encode (RawLine.written raws)) =
          .ok (page, scanner') ∧
        page.lines? = some (raws.map RawLine.content) ∧ page.lineCount = raws.length ∧
        page.style = RawLine.style raws) := by
  refine ⟨?_, ?_⟩
  · intro e limits scanner scanner' bs page h
    obtain ⟨_, raws, hwell, hwritten, _, rfl, _⟩ := ofBytes_eq_ok_iff.1 h
    exact ⟨raws, hwell, hwritten, lines?_ofRaws_plain scanner raws,
      Line.length_ofRaws {} scanner raws, rfl⟩
  · intro limits scanner raws hwell hhead hlines hbytes
    refine ⟨ofRaws {} scanner raws, (Line.ofRaws {} scanner raws).2, ?_,
      lines?_ofRaws_plain scanner raws, Line.length_ofRaws {} scanner raws, rfl⟩
    have hunmarked := unmarked_encode hhead
    refine ofBytes_eq_ok_iff.2 ⟨by rw [hunmarked]; exact hbytes, raws, hwell, ?_, hlines, rfl, rfl⟩
    rw [hunmarked, Utf8.decodeText_encode]

/-- Both directions at the document `a`, CR, NUL, LF, `b`: behind its marker, and written
from its two lines. -/
theorem written_lines_of_padded_page :
    let raws : List RawLine := [⟨['a'], .carriageLineFeed 1⟩, ⟨['b'], .endOfText⟩]
    let page : Page :=
      ⟨['a', '\n', 'b', '\n'],
        [⟨0, 1, some 0, false⟩, ⟨2, 1, some 0, false⟩, ⟨4, 0, none, false⟩], 2, .dos, false⟩
    (∃ raws, RawLine.WellEnded raws ∧
      RawLine.written raws = Encoding.utf8.decodeText [0x61, 0x0D, 0x00, 0x0A, 0x62] ∧
      page.lines? = some (raws.map RawLine.content) ∧ page.lineCount = raws.length ∧
      page.style = RawLine.style raws) ∧
    ∃ page scanner', ofBytes .utf8 {} {} .absent [0x61, 0x0D, 0x00, 0x0A, 0x62] =
        .ok (page, scanner') ∧
      page.lines? = some (raws.map RawLine.content) ∧ page.lineCount = raws.length ∧
      page.style = RawLine.style raws :=
  ⟨written_lines_of_plain_page.1 .utf8 {} .absent .absent
      [0xEF, 0xBB, 0xBF, 0x61, 0x0D, 0x00, 0x0A, 0x62] _ rfl,
    written_lines_of_plain_page.2 {} .absent [⟨['a'], .carriageLineFeed 1⟩, ⟨['b'], .endOfText⟩]
      (by decide) (by decide) (by decide) (by decide)⟩

end Page

end TextIntake
