import TextIntake.Proofs.Line.Rewriting
import TextIntake.Proofs.Text.Column

set_option autoImplicit false

/-!
# The columns of a page

The column that is noted for a line is the one that the line has when it is scanned.  On the page
the line may have lost comments and digits since, and with them its first character that is not
blank, or blanks in front of it.  Then another column may be noted than the one that its text has.
Lower-casing never makes a difference.

Main statement: `columnsFit_iff`.
-/

namespace TextIntake

/-! ## Columns of a line -/

/-- The column of a record is that of its own text: of the first character that is not blank, if
there is one. -/
def LineRecord.ColumnFits (r : LineRecord) (t : Text) : Prop :=
  ∃ own, r.text? t = some own ∧
    (∀ k, r.firstNonBlank = some k ↔
      ∃ c, own[k]? = some c ∧ Character.isBlank c = false ∧ Text.isBlank (own.take k) = true) ∧
    (r.firstNonBlank = none ↔ Text.isBlank own = true)

theorem LineRecord.columnFits_iff_eq {r : LineRecord} {t own : Text}
    (h : r.text? t = some own) : r.ColumnFits t ↔ r.firstNonBlank = Text.firstNonBlank? own := by
  constructor
  · rintro ⟨again, hagain, hsome, -⟩
    obtain rfl : own = again := Option.some.inj (h.symm.trans hagain)
    refine Option.ext fun k => ?_
    rw [hsome, Text.firstNonBlank?_eq_some_iff]
  · intro hcolumn
    refine ⟨own, h, fun k => ?_, ?_⟩
    · rw [hcolumn, Text.firstNonBlank?_eq_some_iff]
    · rw [hcolumn, Text.firstNonBlank?_eq_none_iff]

theorem LineRecord.columnFits_emptyAt (t : Text) : (emptyAt (Text.byteLength t)).ColumnFits t :=
  (columnFits_iff_eq (text?_emptyAt_byteLength t)).2 rfl

namespace LineFilter

/-- What is left of a line when comments and digits are taken out as asked, in the case that it
has. -/
def remainder (r : LineFilter) (finding : Comment.Finding) (line : Text) : Text :=
  { r with foldCase := false }.rewrite finding line

/-- What is taken out of a line leaves its column where it is. -/
def KeepsColumn (r : LineFilter) (finding : Comment.Finding) (line : Text) : Prop :=
  Text.firstNonBlank? (r.remainder finding line) = Text.firstNonBlank? line

/-- A filter that takes nothing out keeps every column. -/
theorem keepsColumn_of_keeping {r : LineFilter} (hcomments : r.removeComments = false)
    (hnumbers : r.stripNumbers = false) (finding : Comment.Finding) (line : Text) :
    r.KeepsColumn finding line := by
  simp only [KeepsColumn, remainder, rewrite, hcomments, hnumbers]
  rfl

/-- Lower-casing does not move the column of a line. -/
theorem firstNonBlank?_rewrite (r : LineFilter) (finding : Comment.Finding) (line : Text) :
    Text.firstNonBlank? (r.rewrite finding line) =
      Text.firstNonBlank? (r.remainder finding line) := by
  obtain ⟨removeComments, foldCase, stripNumbers⟩ := r
  cases foldCase with
  | false => rfl
  | true =>
    cases stripNumbers with
    | false => exact Text.firstNonBlank?_lowercase _
    | true =>
      refine Text.firstNonBlank?_filter_lowercase (fun c hc => ?_) _
      rw [hc.2]
      rfl

end LineFilter

/-! ## Columns of a page -/

/-- A line is finished with what is found in it. -/
theorem Line.getElem?_ofRaws {r : LineFilter} {scanner : Comment.Scanner} {raws : List RawLine}
    {i : Nat} {l : Line} :
    (ofRaws r scanner raws).1[i]? = some l ↔
      ∃ finding raw, (scanner.findings (raws.map RawLine.content))[i]? = some finding ∧
        raws[i]? = some raw ∧ ofRaw r finding raw = l := by
  rw [ofRaws_eq]
  exact List.getElem?_zipWith_eq_some

namespace Page

/-- The columns of a page are those of its lines. -/
def ColumnsFit (p : Page) : Prop := ∀ record ∈ p.records, record.ColumnFits p.text

section

variable {r : LineFilter} {scanner : Comment.Scanner} {raws : List RawLine} {i : Nat}
  {finding : Comment.Finding} {raw : RawLine}

/-- What is recorded of a line, and when its column fits. -/
theorem recordOf_ofRaw
    (hline : (Line.ofRaws r scanner raws).1[i]? = some (Line.ofRaw r finding raw)) :
    let record := recordOf (Text.byteLength (join ((Line.ofRaws r scanner raws).1.take i)))
      (Line.ofRaw r finding raw)
    record.firstNonBlank = Text.firstNonBlank? raw.content ∧
      record.text? (ofRaws r scanner raws).text = some (r.rewrite finding raw.content) ∧
      (record.ColumnFits (ofRaws r scanner raws).text ↔ r.KeepsColumn finding raw.content) := by
  have htext := text?_recordOf hline
  have hrewritten : (Line.ofRaw r finding raw).text = r.rewrite finding raw.content :=
    congrFun (r.apply_eq_rewrite finding) raw.content
  rw [hrewritten] at htext
  refine ⟨rfl, htext, (LineRecord.columnFits_iff_eq htext).trans ?_⟩
  rw [r.firstNonBlank?_rewrite]
  exact eq_comm

/-- Each record of a page is that of a line, or stands behind the lines. -/
theorem record_of_ofRaws {record : LineRecord}
    (hrecord : (ofRaws r scanner raws).records[i]? = some record) :
    (∃ finding line, (scanner.findings (raws.map RawLine.content))[i]? = some finding ∧
      (raws.map RawLine.content)[i]? = some line ∧
      record.firstNonBlank = Text.firstNonBlank? line ∧
      record.text? (ofRaws r scanner raws).text = some (r.rewrite finding line) ∧
      (record.ColumnFits (ofRaws r scanner raws).text ↔ r.KeepsColumn finding line)) ∨
    (i = (raws.map RawLine.content).length ∧
      record.ColumnFits (ofRaws r scanner raws).text) := by
  rcases record_cases hrecord with ⟨l, hl, rfl⟩ | ⟨hi, rfl⟩
  · obtain ⟨finding, raw, hfinding, hraw, rfl⟩ := Line.getElem?_ofRaws.1 hl
    have hline : (raws.map RawLine.content)[i]? = some raw.content := by
      rw [List.getElem?_map, hraw]
      rfl
    exact .inl ⟨finding, raw.content, hfinding, hline, recordOf_ofRaw hl⟩
  · rw [Line.length_ofRaws] at hi
    exact .inr ⟨by rw [hi, List.length_map], LineRecord.columnFits_emptyAt _⟩

/-- The columns of a page fit exactly when none of its lines loses its own. -/
theorem columnsFit_ofRaws_iff :
    (ofRaws r scanner raws).ColumnsFit ↔ ∀ (i : Nat) finding line,
      (scanner.findings (raws.map RawLine.content))[i]? = some finding →
        (raws.map RawLine.content)[i]? = some line → r.KeepsColumn finding line := by
  constructor
  · intro hfits i finding line hfinding hline
    rw [List.getElem?_map] at hline
    obtain ⟨raw, hraw, rfl⟩ := Option.map_eq_some_iff.1 hline
    have hl : (Line.ofRaws r scanner raws).1[i]? = some (Line.ofRaw r finding raw) :=
      Line.getElem?_ofRaws.2 ⟨finding, raw, hfinding, hraw, rfl⟩
    have hrecord : (recordsFrom 0 (Line.ofRaws r scanner raws).1)[i]? = some _ :=
      getElem?_recordsFrom hl
    rw [Nat.zero_add] at hrecord
    obtain ⟨-, -, hkeeps⟩ := recordOf_ofRaw hl
    exact hkeeps.1 (hfits _ (List.mem_of_getElem? hrecord))
  · intro hkeeps record hmem
    obtain ⟨i, hi⟩ := List.getElem?_of_mem hmem
    rcases record_of_ofRaws hi with ⟨finding, line, hfinding, hline, -, -, hfits⟩ | ⟨-, hfits⟩
    · exact hfits.2 (hkeeps i finding line hfinding hline)
    · exact hfits

end

/-! ## Main statement -/

/-- **When the columns of a page are those of its lines.**  Take a document that splits into a
page, and its lines as they were scanned.  Each record but the one behind the lines is that of a
line: its column is the one that the line had when it was scanned, and its text is that line
rewritten.  The column is that of the text exactly when the comments and digits that are taken
out leave the column of the line where it is.  So the columns of a page fit if nothing is taken
out; lower-casing does no harm. -/
theorem columnsFit_iff {e : Encoding} {limits : Limits} {r : LineFilter}
    {scanner scanner' : Comment.Scanner} {bs : Bytes} {page : Page}
    (h : ofBytes e limits r scanner bs = .ok (page, scanner')) :
    ∃ plain lines, ofBytes e limits {} scanner bs = .ok (plain, scanner') ∧
      plain.lines? = some lines ∧ page.records.length = lines.length + 1 ∧
      (∀ (i : Nat) record, page.records[i]? = some record →
        (∃ finding line, (scanner.findings lines)[i]? = some finding ∧ lines[i]? = some line ∧
          record.firstNonBlank = Text.firstNonBlank? line ∧
          record.text? page.text = some (r.rewrite finding line) ∧
          (record.ColumnFits page.text ↔ r.KeepsColumn finding line)) ∨
        (i = lines.length ∧ record.ColumnFits page.text)) ∧
      (page.ColumnsFit ↔ ∀ (i : Nat) finding line, (scanner.findings lines)[i]? = some finding →
        lines[i]? = some line → r.KeepsColumn finding line) ∧
      (r.removeComments = false → r.stripNumbers = false → page.ColumnsFit) := by
  rw [ofBytes_eq_map] at h
  cases hraws : rawLines e limits bs with
  | error refusal =>
    rw [hraws] at h
    cases h
  | ok raws =>
    rw [hraws] at h
    obtain ⟨rfl, rfl⟩ := Prod.mk.inj (Except.ok.inj h)
    have hplain : ofBytes e limits {} scanner bs =
        .ok (ofRaws {} scanner raws, scanner.after (raws.map RawLine.content)) := by
      rw [ofBytes_eq_map, hraws]
      rfl
    have hlength : (ofRaws r scanner raws).records.length =
        (raws.map RawLine.content).length + 1 := by
      rw [ofRaws, ofLines, length_recordsFrom, Line.length_ofRaws, List.length_map]
    refine ⟨ofRaws {} scanner raws, raws.map RawLine.content, hplain,
      lines?_ofRaws_plain scanner raws, hlength, fun i record => record_of_ofRaws,
      columnsFit_ofRaws_iff, fun hcomments hnumbers => ?_⟩
    exact columnsFit_ofRaws_iff.2 fun i finding line _ _ =>
      LineFilter.keepsColumn_of_keeping hcomments hnumbers finding line

/-- The line ` X1//` behind a marker: the digit and the comment that are taken out of it stand
behind the letter. -/
theorem columnsFit_iff_of_comment_behind :
    let bs : Bytes := [0xEF, 0xBB, 0xBF, 0x20, 0x58, 0x31, 0x2F, 0x2F]
    let page : Page :=
      ⟨[' ', 'x', '\n'], [⟨0, 2, some 1, false⟩, ⟨3, 0, none, false⟩], 1, .undefined, false⟩
    ofBytes .utf8 {} ⟨true, true, true⟩ (.cStyle false) bs = .ok (page, .cStyle false) ∧
      page.ColumnsFit := by
  intro bs page
  have hpage : ofBytes .utf8 {} ⟨true, true, true⟩ (.cStyle false) bs =
      .ok (page, .cStyle false) := rfl
  obtain ⟨plain, lines, hplain, hlines, -, -, hfits, -⟩ := columnsFit_iff hpage
  cases hplain
  cases hlines
  refine ⟨hpage, hfits.2 fun i finding line hfinding hline => ?_⟩
  cases i with
  | zero =>
    cases hfinding
    cases hline
    rfl
  | succ i => cases hline

/-- The line `/*c*/ x` behind a marker: the column of the comment is noted for what is left of the
line, which starts with a blank. -/
theorem columns_of_comment_in_front :
    let bs : Bytes := [0xEF, 0xBB, 0xBF, 0x2F, 0x2A, 0x63, 0x2A, 0x2F, 0x20, 0x78]
    let page : Page :=
      ⟨[' ', 'x', '\n'], [⟨0, 2, some 0, false⟩, ⟨3, 0, none, false⟩], 1, .undefined, false⟩
    ofBytes .utf8 {} ⟨true, false, false⟩ (.cStyle false) bs = .ok (page, .cStyle false) ∧
      ¬ page.ColumnsFit := by
  intro bs page
  refine ⟨rfl, fun hfits => ?_⟩
  have hrecord := hfits ⟨0, 2, some 0, false⟩ List.mem_cons_self
  have htext : LineRecord.text? ⟨0, 2, some 0, false⟩ page.text = some [' ', 'x'] := rfl
  have hcolumn : some 0 = Text.firstNonBlank? [' ', 'x'] :=
    (LineRecord.columnFits_iff_eq htext).1 hrecord
  cases hcolumn

end Page

end TextIntake
