import TextIntake.Proofs.Comment.Removal
import TextIntake.Proofs.Line.Splitting
import TextIntake.Proofs.Text.Blank

set_option autoImplicit false

/-!
# Lines that are nothing but comment

A line is noted as nothing but comment when it holds comment and stripping it leaves
blanks.  Blanks stay blanks under the other steps of a filter, so with comments removed
such a line of a page is blank.

Main statement: `pureComment_iff_blank_remainder`.
-/

namespace TextIntake

/-! ## The flag of a finding -/

namespace Comment

/-- Something goes from a text when a character of it is marked. -/
theorem Marked.kept_ne_iff {marks : List Marked} :
    kept marks ≠ marks.map char ↔ marks.any isComment = true := by
  have hlength : kept marks = marks.map char ↔ ∀ m ∈ marks, (!m.isComment) = true := by
    constructor
    · intro h
      have hcount := congrArg List.length h
      rw [kept, List.length_map, List.length_map] at hcount
      exact List.length_filter_eq_length_iff.1 hcount
    · intro h
      rw [kept, List.filter_eq_self.2 h]
  rw [ne_eq, hlength, List.any_eq_true]
  simp

/-- Where nothing is found, nothing goes. -/
theorem not_pure_of_scan_eq {s s' : Scanner} {line : Text} (h : s.scan line = ({}, s')) :
    (s.scan line).1.pure = false ∧ (s.scan line).1.strip line = line := by
  rw [h]
  exact ⟨rfl, rfl⟩

/-- A line is nothing but comment when it holds comment, or began inside of one, and only
blanks remain of it. -/
theorem pure_scan_iff (s : Scanner) (line : Text) :
    (s.scan line).1.pure = true ↔
      (s = .cStyle true ∨ (s.scan line).1.strip line ≠ line) ∧
        Text.isBlank ((s.scan line).1.strip line) = true := by
  cases s with
  | absent =>
    obtain ⟨hpure, hstrip⟩ := @not_pure_of_scan_eq .absent .absent line rfl
    simp [hpure, hstrip]
  | cStyle inBlock =>
    have hgoes := @Marked.kept_ne_iff ((CStyle.Place.atLine inBlock).readLine line)
    rw [CStyle.Place.map_char_readLine] at hgoes
    have hpure : ((Scanner.cStyle inBlock).scan line).1.pure =
        ((CStyle.scanLine inBlock line).hasComment && !(CStyle.scanLine inBlock line).hasCode) :=
      rfl
    rw [hpure, CStyle.hasComment_scanLine, CStyle.hasCode_scanLine, strip_scan_cStyle,
      Bool.not_not, Bool.and_eq_true, Bool.or_eq_true, hgoes, Scanner.cStyle.injEq]
  | hash =>
    rcases scan_hash_cases line with hnone | ⟨code, comment, hline, _, hpure, hstrip⟩
    · obtain ⟨hpure, hstrip⟩ := not_pure_of_scan_eq hnone
      simp [hpure, hstrip]
    · have hgoes : code ≠ line := by simp [hline]
      simp [hpure, hstrip, hgoes]
  | batch =>
    rcases scan_batch_cases line with hnone | ⟨hline, hpure, hstrip⟩
    · obtain ⟨hpure, hstrip⟩ := not_pure_of_scan_eq hnone
      simp [hpure, hstrip]
    · simp [hpure, hstrip, Ne.symm hline, Text.isBlank]

end Comment

/-! ## Flagged lines of a page -/

/-- A filter that removes comments leaves only blanks of a line where stripping does. -/
theorem LineFilter.isBlank_apply {r : LineFilter} {finding : Comment.Finding} {line : Text}
    (hr : r.removeComments = true) (h : Text.isBlank (finding.strip line) = true) :
    Text.isBlank (r.apply finding line) = true := by
  simp only [apply, hr, if_true, Text.lowercase_of_isBlank h, ite_self]
  split
  · exact Text.isBlank_of_sublist List.filter_sublist h
  · exact h

theorem Line.exists_scan_of_mem_ofRaws {r : LineFilter} {scanner : Comment.Scanner}
    {raws : List RawLine} {l : Line} (h : l ∈ (ofRaws r scanner raws).1) :
    ∃ (s : Comment.Scanner) (raw : RawLine), l = ofRaw r (s.scan raw.content).1 raw := by
  induction raws generalizing scanner with
  | nil => cases h
  | cons raw raws ih =>
    rw [ofRaws, List.mem_cons] at h
    rcases h with rfl | h
    · exact ⟨scanner, raw, rfl⟩
    · exact ih h

namespace Page

/-- The record behind the lines has no flag. -/
theorem exists_line_of_flagged {lines : List Line} {style : LineStyle} {incomplete : Bool}
    {record : LineRecord} (h : record ∈ (ofLines lines style incomplete).records)
    (hpure : record.pureComment = true) :
    ∃ l ∈ lines, l.pureComment = true ∧
      record.text? (ofLines lines style incomplete).text = some l.text := by
  obtain ⟨i, hi⟩ := List.mem_iff_getElem?.1 h
  rcases record_cases hi with ⟨l, hl, rfl⟩ | ⟨-, rfl⟩
  · exact ⟨l, List.mem_of_getElem? hl, hpure, text?_recordOf hl⟩
  · cases hpure

/-- With comments removed, a line that is nothing but comment is blank. -/
theorem isBlank_of_pureComment {r : LineFilter} {scanner : Comment.Scanner}
    {raws : List RawLine} (hr : r.removeComments = true) {l : Line}
    (hl : l ∈ (Line.ofRaws r scanner raws).1) (hpure : l.pureComment = true) :
    Text.isBlank l.text = true := by
  obtain ⟨s, raw, rfl⟩ := Line.exists_scan_of_mem_ofRaws hl
  exact LineFilter.isBlank_apply hr ((Comment.pure_scan_iff s raw.content).1 hpure).2

/-- **The flag tells what removal leaves.**  In whatever state a scanner is, it finds a line
to be nothing but comment exactly when the line held comment, or began inside a block
comment, and only blanks remain once it is stripped.  So in a page whose comments are
removed every line with the flag is blank, whatever else was done to it. -/
theorem pureComment_iff_blank_remainder :
    (∀ (s : Comment.Scanner) (line : Text),
      (s.scan line).1.pure = true ↔
        (s = .cStyle true ∨ (s.scan line).1.strip line ≠ line) ∧
          Text.isBlank ((s.scan line).1.strip line) = true) ∧
    (∀ (e : Encoding) (limits : Limits) (r : LineFilter) (scanner scanner' : Comment.Scanner)
        (bs : Bytes) (page : Page),
      r.removeComments = true → ofBytes e limits r scanner bs = .ok (page, scanner') →
      ∀ record ∈ page.records, record.pureComment = true →
        ∃ line, record.text? page.text = some line ∧ Text.isBlank line = true) := by
  refine ⟨Comment.pure_scan_iff, ?_⟩
  intro e limits r scanner scanner' bs page hr h record hrecord hpure
  obtain ⟨_, raws, _, _, _, rfl, _⟩ := ofBytes_eq_ok_iff.1 h
  obtain ⟨l, hl, hflag, htext⟩ := exists_line_of_flagged hrecord hpure
  exact ⟨l.text, htext, isBlank_of_pureComment hr hl hflag⟩

/-- The line `*/ //`, read inside a block comment: a blank is left between two comments. -/
theorem pureComment_iff_blank_remainder_of_two_comments :
    let bs : Bytes := [0xEF, 0xBB, 0xBF, 0x2A, 0x2F, 0x20, 0x2F, 0x2F]
    let page : Page :=
      ⟨[' ', '\n'], [⟨0, 1, some 0, true⟩, ⟨2, 0, none, false⟩], 1, .undefined, false⟩
    ofBytes .utf8 {} ⟨true, true, true⟩ (.cStyle true) bs = .ok (page, .cStyle false) ∧
      ∃ line, (⟨0, 1, some 0, true⟩ : LineRecord).text? page.text = some line ∧
        Text.isBlank line = true := by
  intro bs page
  have hpage : ofBytes .utf8 {} ⟨true, true, true⟩ (.cStyle true) bs =
      .ok (page, .cStyle false) := rfl
  have hblank := pureComment_iff_blank_remainder.2 .utf8 {} ⟨true, true, true⟩ (.cStyle true)
    (.cStyle false) bs page rfl hpage
  exact ⟨hpage, hblank ⟨0, 1, some 0, true⟩ List.mem_cons_self rfl⟩

end Page

end TextIntake
