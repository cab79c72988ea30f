import TextIntake.Proofs.Line.Verdict

set_option autoImplicit false

/-!
# Splitting the text of a page again

The text of a page is a document of its own: its lines with a line feed behind each.  No
filter leaves anything in a line that would end it or show that the document is not text, so
these are the lines that splitting finds in it, and it lays them out where they stood.

Main statements: `ofBytes_encode_join` and `ofBytes_resplit`.
-/

namespace TextIntake

/-- Where no comments are looked for, there is nothing to carry from line to line. -/
theorem Comment.Scanner.after_absent (lines : List Text) : absent.after lines = absent := by
  induction lines with
  | nil => rfl
  | cons line lines ih => exact ih

/-! ## The lines of a page as lines of a document -/

namespace Line

/-- A finished line as it stands in the text of a page. -/
def toRaw (l : Line) : RawLine := ⟨l.text, .lineFeed⟩

theorem written_map_toRaw (lines : List Line) :
    RawLine.written (lines.map toRaw) = Page.join lines := by
  rw [RawLine.written, List.flatMap_map]
  rfl

theorem wellEnded_map_toRaw {lines : List Line}
    (h : ∀ l ∈ lines, ∀ c ∈ l.text, Character.IsInline c) :
    RawLine.WellEnded (lines.map toRaw) := by
  induction lines with
  | nil => trivial
  | cons l lines ih =>
    obtain ⟨hline, hlines⟩ := List.forall_mem_cons.1 h
    exact ⟨hline, trivial, ih hlines⟩

theorem style_map_toRaw {lines : List Line} (h : lines ≠ []) :
    RawLine.style (lines.map toRaw) = .unix := by
  obtain ⟨l, lines, rfl⟩ := List.exists_cons_of_ne_nil h
  rfl

end Line

namespace Page

/-- Lines of text that are written as the text of a page are found in it, whatever the scanner
makes of them, unless what they begin with is taken for a marker. -/
theorem ofBytes_encode_join {lines : List Line}
    (hinline : ∀ l ∈ lines, ∀ c ∈ l.text, Character.IsInline c)
    (hhead : (join lines).head? ≠ some '\uFEFF') (limits : Limits) (scanner : Comment.Scanner) :
    ofBytes .utf8 limits {} scanner (Utf8.encode (join lines)) =
      if Text.byteLength (join lines) ≤ limits.maxBytes ∧ lines.length ≤ limits.maxLines then
        .ok (ofRaws {} scanner (lines.map Line.toRaw), scanner.after (lines.map Line.text))
      else .error .tooLarge := by
  obtain ⟨hended, hbinary⟩ := RawLine.wellEnded_iff.1 (Line.wellEnded_map_toRaw hinline)
  have hwritten : RawLine.written (lines.map Line.toRaw) =
      Encoding.utf8.decodeText (Encoding.utf8.unmarked (Utf8.encode (join lines))) := by
    rw [unmarked_encode hhead, Utf8.decodeText_encode, Line.written_map_toRaw]
  have hfirst : ((lines.map Line.toRaw).take limits.maxLines).any RawLine.hasBinary = false := by
    rw [List.any_eq_false] at hbinary ⊢
    exact fun line hline => hbinary line (List.mem_of_mem_take hline)
  rw [ofBytes_of_written hended hwritten, unmarked_encode hhead, Utf8.length_encode, hfirst,
    if_neg Bool.false_ne_true, List.length_map, List.map_map]
  by_cases hbytes : Text.byteLength (join lines) ≤ limits.maxBytes
  · by_cases hmany : lines.length ≤ limits.maxLines
    · rw [if_neg (Nat.not_lt.2 hbytes), if_neg (Nat.not_lt.2 hmany), if_pos ⟨hbytes, hmany⟩]
      rfl
    · rw [if_neg (Nat.not_lt.2 hbytes), if_pos (Nat.not_le.1 hmany), if_neg fun h => hmany h.2]
  · rw [if_pos (Nat.not_le.1 hbytes), if_neg fun h => hbytes h.1]

/-- Without a filter, lines that were finished before are laid out where they stood. -/
theorem layout_ofRaws_toRaw (scanner : Comment.Scanner) (lines : List Line) :
    (ofRaws {} scanner (lines.map Line.toRaw)).layout =
      (ofLines lines (RawLine.style (lines.map Line.toRaw))
        ((lines.map Line.toRaw).any RawLine.hasReplacement)).layout := by
  refine layout_ofLines_congr ?_ _ _
  rw [Line.map_text_ofRaws_plain, List.map_map]
  rfl

/-- **Normalised text is a fixed point of splitting.**  However the text of a page came about,
as a document of its own it is split without a filter whenever it is not over the ceilings, and
into a page of the same text: as many lines, each where it stood, and the same empty record
behind them.  The only exception is a text that begins with what would be taken for a marker.
Every line of it ends with a line feed. -/
theorem ofBytes_resplit {e : Encoding} {limits : Limits} {r : LineFilter}
    {scanner scanner' : Comment.Scanner} {bs : Bytes} {page : Page}
    (h : ofBytes e limits r scanner bs = .ok (page, scanner'))
    (hhead : page.text.head? ≠ some '\uFEFF') :
    ∃ again : Page,
      (∀ ceilings, ofBytes .utf8 ceilings {} .absent (Utf8.encode page.text) =
        if Text.byteLength page.text ≤ ceilings.maxBytes ∧ page.lineCount ≤ ceilings.maxLines then
          .ok (again, .absent)
        else .error .tooLarge) ∧
      again.text = page.text ∧ again.lineCount = page.lineCount ∧
      again.records.map LineRecord.place = page.records.map LineRecord.place ∧
      again.records.getLast? = some (LineRecord.emptyAt (Text.byteLength page.text)) ∧
      page.records.getLast? = some (LineRecord.emptyAt (Text.byteLength page.text)) ∧
      (page.lineCount ≠ 0 → again.style = .unix) := by
  obtain ⟨_, raws, hwell, _, _, rfl, _⟩ := ofBytes_eq_ok_iff.1 h
  rw [ofRaws] at hhead ⊢
  have hinline := @Line.isInline_of_mem_ofRaws r scanner raws hwell.isInline
  generalize (Line.ofRaws r scanner raws).1 = lines at hinline hhead ⊢
  have hlayout := layout_ofRaws_toRaw .absent lines
  have htext : (ofRaws {} .absent (lines.map Line.toRaw)).text = join lines :=
    congrArg Layout.text hlayout
  refine ⟨ofRaws {} .absent (lines.map Line.toRaw), fun ceilings => ?_, htext,
    congrArg Layout.lineCount hlayout, congrArg Layout.places hlayout, ?_, getLast?_ofLines,
    fun hlines => ?_⟩
  · rw [ofLines, ofBytes_encode_join hinline hhead, Comment.Scanner.after_absent]
  · have hsentinel : (ofRaws {} .absent (lines.map Line.toRaw)).records.getLast? = _ :=
      getLast?_ofLines
    rw [hsentinel]
    exact congrArg (fun t => some (LineRecord.emptyAt (Text.byteLength t))) htext
  · exact Line.style_map_toRaw (List.length_pos_iff.1 (Nat.pos_of_ne_zero hlines))

set_option maxRecDepth 2000 in
/-- The document `É1//x`, CR, NUL, LF, `//`, CR, `2` behind a marker, with everything filtered out
of its three lines: what is left ends its lines with line feeds, and goes over a ceiling of two
lines. -/
theorem ofBytes_resplit_of_filtered_document :
    let bs : Bytes := [0xEF, 0xBB, 0xBF, 0xC3, 0x89, 0x31, 0x2F, 0x2F, 0x78, 0x0D, 0x00, 0x0A,
      0x2F, 0x2F, 0x0D, 0x32]
    let page : Page := ⟨['é', '\n', '\n', '\n'],
      [⟨0, 2, some 0, false⟩, ⟨3, 0, some 0, true⟩, ⟨4, 0, some 0, false⟩, ⟨5, 0, none, false⟩], 3,
      .dos, false⟩
    ofBytes .utf8 {} ⟨true, true, true⟩ (.cStyle false) bs = .ok (page, .cStyle false) ∧
      page.text.head? ≠ some '\uFEFF' ∧
      ∃ again : Page,
        ofBytes .utf8 ⟨3, 5⟩ {} .absent (Utf8.encode page.text) = .ok (again, .absent) ∧
        ofBytes .utf8 ⟨2, 5⟩ {} .absent (Utf8.encode page.text) = .error .tooLarge ∧
        again.text = page.text ∧ again.lineCount = 3 ∧
        again.records.map LineRecord.place = [(0, 2), (3, 0), (4, 0), (5, 0)] ∧
        again.records.getLast? = some ⟨5, 0, none, false⟩ ∧ again.style = .unix := by
  intro bs page
  have hpage : ofBytes .utf8 {} ⟨true, true, true⟩ (.cStyle false) bs =
      .ok (page, .cStyle false) := rfl
  have hhead : page.text.head? ≠ some '\uFEFF' := by decide
  obtain ⟨again, hagain, htext, hcount, hplaces, hsentinel, -, hstyle⟩ :=
    ofBytes_resplit hpage hhead
  exact ⟨hpage, hhead, again, hagain ⟨3, 5⟩, hagain ⟨2, 5⟩, htext, hcount, hplaces, hsentinel,
    hstyle (by decide)⟩

end Page

end TextIntake
