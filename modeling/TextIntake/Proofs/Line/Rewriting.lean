import TextIntake.Proofs.Comment.Lines
import TextIntake.Proofs.Line.Splitting

set_option autoImplicit false

/-!
# Rewriting the lines of a page

A filter takes comments, capitals or digits out of every line, but never moves the lines
themselves: whether a document splits, into how many lines, and what is noted about each
of them is the same under every filter.  The text of a line under a filter is found from
its text without one.  What is comment in it is looked for in the unfiltered lines.

Main statement: `ofBytes_rewritten`.
-/

namespace TextIntake

/-! ## One line -/

/-- The text without its decimal digits. -/
def Text.withoutDigits (t : Text) : Text := t.filter (!Character.isDecimalDigit ·)

/-- The steps that a filter switches on, one after the other: comments, case, digits. -/
def LineFilter.rewrite (r : LineFilter) (finding : Comment.Finding) : Text → Text :=
  (if r.stripNumbers then Text.withoutDigits else id) ∘
    (if r.foldCase then Text.lowercase else id) ∘
    (if r.removeComments then finding.strip else id)

theorem LineFilter.apply_eq_rewrite (r : LineFilter) (finding : Comment.Finding) :
    r.apply finding = r.rewrite finding := by
  funext line
  unfold apply rewrite
  simp only [Function.comp_apply]
  split <;> split <;> split <;> rfl

/-! ## All lines -/

namespace Line

/-- Every line is finished with what is found in it when no line is filtered. -/
theorem ofRaws_eq (r : LineFilter) (scanner : Comment.Scanner) (raws : List RawLine) :
    ofRaws r scanner raws =
      (List.zipWith (ofRaw r) (scanner.findings (raws.map RawLine.content)) raws,
        scanner.after (raws.map RawLine.content)) := by
  induction raws generalizing scanner with
  | nil => rfl
  | cons raw raws ih =>
    have htail := ih (scanner.scan raw.content).2
    show (_ :: (ofRaws r (scanner.scan raw.content).2 raws).1,
      (ofRaws r (scanner.scan raw.content).2 raws).2) = _
    rw [htail]
    rfl

theorem map_text_ofRaws (r : LineFilter) (scanner : Comment.Scanner) (raws : List RawLine) :
    (ofRaws r scanner raws).1.map Line.text =
      List.zipWith r.rewrite (scanner.findings (raws.map RawLine.content))
        (raws.map RawLine.content) := by
  rw [ofRaws_eq, List.map_zipWith, List.zipWith_map_right]
  exact congrArg (fun step => List.zipWith step _ raws)
    (funext fun finding => funext fun raw => congrFun (r.apply_eq_rewrite finding) raw.content)

end Line

namespace Page

/-- What of a page does not depend on the texts of its lines. -/
structure Outline where
  lineCount : Nat
  style : LineStyle
  incomplete : Bool
  /-- The column of the first character that is not blank, line by line. -/
  columns : List (Option Nat)
  /-- Whether a line is nothing but comment, line by line. -/
  flags : List Bool
  deriving DecidableEq, Repr, Inhabited

/-- The outline of a page. -/
def outline (p : Page) : Outline where
  lineCount := p.lineCount
  style := p.style
  incomplete := p.incomplete
  columns := p.records.map LineRecord.firstNonBlank
  flags := p.records.map LineRecord.pureComment

/-- Behind the records of the lines stands one with nothing noted. -/
theorem map_recordsFrom (offset : Nat) (lines : List Line) :
    (recordsFrom offset lines).map LineRecord.firstNonBlank =
        lines.map Line.firstNonBlank ++ [none] ∧
      (recordsFrom offset lines).map LineRecord.pureComment =
        lines.map Line.pureComment ++ [false] := by
  induction lines generalizing offset with
  | nil => exact ⟨rfl, rfl⟩
  | cons l lines ih =>
    obtain ⟨hcolumns, hflags⟩ := ih (offset + Text.byteLength l.text + 1)
    simp only [recordsFrom, List.map_cons, hcolumns, hflags]
    exact ⟨rfl, rfl⟩

/-- The outline of a page is settled before its lines are filtered. -/
theorem outline_ofRaws (r r₂ : LineFilter) (scanner : Comment.Scanner) (raws : List RawLine) :
    (ofRaws r scanner raws).outline = (ofRaws r₂ scanner raws).outline := by
  have hcolumns : (Line.ofRaws r scanner raws).1.map Line.firstNonBlank =
      (Line.ofRaws r₂ scanner raws).1.map Line.firstNonBlank := by
    rw [Line.ofRaws_eq, Line.ofRaws_eq, List.map_zipWith, List.map_zipWith]
    rfl
  have hflags : (Line.ofRaws r scanner raws).1.map Line.pureComment =
      (Line.ofRaws r₂ scanner raws).1.map Line.pureComment := by
    rw [Line.ofRaws_eq, Line.ofRaws_eq, List.map_zipWith, List.map_zipWith]
    rfl
  have hcount : (Line.ofRaws r scanner raws).1.length =
      (Line.ofRaws r₂ scanner raws).1.length := by
    rw [Line.length_ofRaws, Line.length_ofRaws]
  simp only [outline, ofRaws, ofLines, map_recordsFrom, hcolumns, hflags, hcount]

/-- The lines of a document before they are filtered. -/
def rawLines (e : Encoding) (limits : Limits) (bs : Bytes) : Except Refusal (List RawLine) :=
  if limits.maxBytes < (payload e bs).length then .error .tooLarge
  else RawLine.cut limits.maxLines (e.decodeText (payload e bs))

theorem ofBytes_eq_map (e : Encoding) (limits : Limits) (r : LineFilter)
    (scanner : Comment.Scanner) (bs : Bytes) :
    ofBytes e limits r scanner bs =
      (rawLines e limits bs).map fun raws =>
        (ofRaws r scanner raws, scanner.after (raws.map RawLine.content)) := by
  simp only [ofBytes, rawLines, ofText]
  split
  · rfl
  · cases hcut : RawLine.cut limits.maxLines (e.decodeText (payload e bs)) with
    | error refusal => rfl
    | ok raws =>
      show Except.ok (ofRaws r scanner raws, (Line.ofRaws r scanner raws).2) = _
      rw [Line.ofRaws_eq]
      rfl

/-- **Rewriting keeps the lines.**  Under any two filters a document is refused for the same
reason or has the same outline, and leaves the scanner in the same state.  The lines of its
page are those of the page without a filter, each rewritten by the steps of the filter with
what is found in the lines as they were. -/
theorem ofBytes_rewritten (e : Encoding) (limits : Limits) (r r₂ : LineFilter)
    (scanner : Comment.Scanner) (bs : Bytes) :
    (ofBytes e limits r scanner bs).map (Prod.map outline id) =
        (ofBytes e limits r₂ scanner bs).map (Prod.map outline id) ∧
      ∀ page scanner', ofBytes e limits r scanner bs = .ok (page, scanner') →
        ∃ plain lines, ofBytes e limits {} scanner bs = .ok (plain, scanner') ∧
          plain.lines? = some lines ∧
          page.lines? = some (List.zipWith r.rewrite (scanner.findings lines) lines) := by
  simp only [ofBytes_eq_map]
  cases rawLines e limits bs with
  | error refusal => exact ⟨rfl, fun page scanner' h => by cases h⟩
  | ok raws =>
    refine ⟨?_, ?_⟩
    · show Except.ok ((ofRaws r scanner raws).outline, _) = _
      rw [outline_ofRaws r r₂]
      rfl
    · intro page scanner' h
      obtain ⟨rfl, rfl⟩ := Prod.mk.inj (Except.ok.inj h)
      refine ⟨ofRaws {} scanner raws, raws.map RawLine.content, rfl,
        lines?_ofRaws_plain scanner raws, ?_⟩
      rw [ofRaws, lines?_ofLines, Line.map_text_ofRaws]

/-- The document of the lines `/*` and `*/X2`: of the first nothing is left, of the second
the letter. -/
theorem ofBytes_rewritten_of_block_comment :
    let bs : Bytes := [0xEF, 0xBB, 0xBF, 0x2F, 0x2A, 0x0A, 0x2A, 0x2F, 0x58, 0x32]
    let page : Page :=
      ⟨['\n', 'x', '\n'],
        [⟨0, 0, some 0, true⟩, ⟨1, 1, some 0, false⟩, ⟨3, 0, none, false⟩], 2, .unix, false⟩
    (ofBytes .utf8 {} ⟨true, true, true⟩ (.cStyle false) bs).map (Prod.map outline id) =
        (ofBytes .utf8 {} ⟨false, true, false⟩ (.cStyle false) bs).map (Prod.map outline id) ∧
      ofBytes .utf8 {} ⟨true, true, true⟩ (.cStyle false) bs = .ok (page, .cStyle false) ∧
      ∃ plain lines, ofBytes .utf8 {} {} (.cStyle false) bs = .ok (plain, .cStyle false) ∧
        plain.lines? = some lines ∧
        page.lines? = some (List.zipWith (LineFilter.rewrite ⟨true, true, true⟩)
          ((Comment.Scanner.cStyle false).findings lines) lines) := by
  intro bs page
  obtain ⟨houtline, hlines⟩ := ofBytes_rewritten .utf8 {} ⟨true, true, true⟩
    ⟨false, true, false⟩ (.cStyle false) bs
  have hpage : ofBytes .utf8 {} ⟨true, true, true⟩ (.cStyle false) bs =
      .ok (page, .cStyle false) := rfl
  exact ⟨houtline, hpage, hlines page (.cStyle false) hpage⟩

end Page

end TextIntake
