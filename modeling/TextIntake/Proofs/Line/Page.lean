import TextIntake.Line.Page
import TextIntake.Proofs.Encoding.Utf8
import TextIntake.Proofs.Text.Inline
import TextIntake.Proofs.Text.Slice

set_option autoImplicit false

/-!
# The records of a page

The records of a page partition its text: each line starts one byte behind the end
of the line before it, that byte is a line feed, and the empty record behind the
last line stands at the end of the text.  `Page.WellFormed` says this of any page;
a page laid out from lines of text has it.

Main statements: `getElem?_recordsFrom`, `lines?_ofLines` and `wellFormed_ofLines`.
-/

namespace TextIntake

/-- The empty record behind a text can be read. -/
theorem LineRecord.text?_emptyAt_byteLength (t : Text) :
    (emptyAt (Text.byteLength t)).text? t = some [] :=
  Text.slice?_eq_some_iff.2 ⟨t, [], by simp, rfl, rfl⟩

namespace Page

/-! ## What a page promises -/

/-- The lines of a page as its records cut them out; `none` when one does not fit. -/
def lines? (p : Page) : Option (List Text) :=
  (p.records.take p.lineCount).mapM fun r => r.text? p.text

/-- The text and the records of a page belong together. -/
structure WellFormed (p : Page) : Prop where
  /-- There is one record for each line and one behind. -/
  length_records : p.records.length = p.lineCount + 1
  /-- The first line starts with the text. -/
  first : p.records.head?.map LineRecord.offset = some 0
  /-- A line starts behind the line feed of the line before. -/
  next : ∀ {i : Nat} {r s : LineRecord}, i < p.lineCount → p.records[i]? = some r →
    p.records[i + 1]? = some s → s.offset = r.offset + r.size + 1
  /-- Both ends of a line are boundaries of characters. -/
  boundaries : ∀ {i : Nat} {r : LineRecord}, i < p.lineCount → p.records[i]? = some r →
    Text.IsBoundary p.text r.offset ∧ Text.IsBoundary p.text r.stop
  /-- The byte behind a line is a line feed. -/
  lineFeed : ∀ {i : Nat} {r : LineRecord}, i < p.lineCount → p.records[i]? = some r →
    (Utf8.encode p.text)[r.stop]? = some 0x0A
  /-- Between its ends a line holds neither line ends nor binary characters. -/
  inline : ∀ {i : Nat} {r : LineRecord}, i < p.lineCount → p.records[i]? = some r →
    ∃ line, r.text? p.text = some line ∧ ∀ c ∈ line, Character.IsInline c
  /-- Behind the lines stands one empty record. -/
  sentinel : p.records.getLast? = some (LineRecord.emptyAt (Text.byteLength p.text))
  /-- No two records start at the same byte. -/
  increasing : p.records.Pairwise fun r s => r.offset < s.offset
  /-- The text is every line with a line feed behind it. -/
  text_eq : ∃ lines, p.lines? = some lines ∧ p.text = lines.flatMap (· ++ ['\n'])

/-- A well-formed page has the record behind its lines at least. -/
theorem WellFormed.records_ne_nil {p : Page} (h : p.WellFormed) : p.records ≠ [] := by
  intro hnil
  have hlength := h.length_records
  rw [hnil] at hlength
  cases hlength

/-- Every line of a well-formed page can be read. -/
theorem WellFormed.exists_text? {p : Page} (h : p.WellFormed) {i : Nat} (hi : i < p.lineCount) :
    ∃ r line, p.records[i]? = some r ∧ r.text? p.text = some line := by
  have hlength := h.length_records
  have hr : p.records[i]? = some p.records[i] := List.getElem?_eq_getElem (by omega)
  obtain ⟨line, hline, _⟩ := h.inline hi hr
  exact ⟨p.records[i], line, hr, hline⟩

/-! ## Joined lines -/

@[simp] theorem join_nil : join [] = [] := rfl

@[simp] theorem join_cons (l : Line) (lines : List Line) :
    join (l :: lines) = l.text ++ '\n' :: join lines := by
  simp [join]

@[simp] theorem join_append (lines more : List Line) :
    join (lines ++ more) = join lines ++ join more := by
  simp [join]

theorem byteLength_lineFeed_cons (t : Text) :
    Text.byteLength ('\n' :: t) = Text.byteLength t + 1 := by
  rw [Text.byteLength_cons, Nat.add_comm]
  rfl

/-- The text of a page around one of its lines. -/
theorem join_eq_of_getElem? {lines : List Line} {i : Nat} {l : Line} (h : lines[i]? = some l) :
    join lines = join (lines.take i) ++ (l.text ++ '\n' :: join (lines.drop (i + 1))) := by
  obtain ⟨hi, rfl⟩ := List.getElem?_eq_some_iff.1 h
  rw [← join_cons, ← join_append, ← List.drop_eq_getElem_cons hi, List.take_append_drop]

/-! ## Records by number -/

/-- The record of a line that starts at `offset`. -/
def recordOf (offset : Nat) (l : Line) : LineRecord :=
  ⟨offset, Text.byteLength l.text, l.firstNonBlank, l.pureComment⟩

/-- A line is recorded behind everything that the lines before it take. -/
theorem getElem?_recordsFrom {offset : Nat} {lines : List Line} {i : Nat} {l : Line}
    (h : lines[i]? = some l) :
    (recordsFrom offset lines)[i]? =
      some (recordOf (offset + Text.byteLength (join (lines.take i))) l) := by
  induction lines generalizing offset i with
  | nil => simp at h
  | cons m lines ih =>
    cases i with
    | zero =>
      obtain rfl : m = l := by simpa using h
      rfl
    | succ i =>
      have hi : lines[i]? = some l := by simpa using h
      simp only [recordsFrom, List.getElem?_cons_succ, List.take_succ_cons, join_cons,
        Text.byteLength_append, byteLength_lineFeed_cons]
      rw [ih hi]
      congr 2
      omega

/-- The record behind the last line stands at the end. -/
theorem getLast?_recordsFrom (offset : Nat) (lines : List Line) :
    (recordsFrom offset lines).getLast? =
      some (LineRecord.emptyAt (offset + Text.byteLength (join lines))) := by
  induction lines generalizing offset with
  | nil => rfl
  | cons l lines ih =>
    rw [recordsFrom, List.getLast?_cons, ih]
    simp only [Option.getD_some, join_cons, Text.byteLength_append, byteLength_lineFeed_cons]
    congr 2
    omega

/-- Every record starts at or behind `offset`. -/
theorem le_offset_of_mem_recordsFrom {offset : Nat} {lines : List Line} {r : LineRecord}
    (h : r ∈ recordsFrom offset lines) : offset ≤ r.offset := by
  induction lines generalizing offset with
  | nil =>
    obtain rfl : r = LineRecord.emptyAt offset := by simpa [recordsFrom] using h
    exact Nat.le_refl offset
  | cons l lines ih =>
    rw [recordsFrom, List.mem_cons] at h
    rcases h with rfl | h
    · exact Nat.le_refl offset
    · have := ih h
      omega

theorem pairwise_recordsFrom (offset : Nat) (lines : List Line) :
    (recordsFrom offset lines).Pairwise fun r s => r.offset < s.offset := by
  induction lines generalizing offset with
  | nil => simp [recordsFrom]
  | cons l lines ih =>
    rw [recordsFrom, List.pairwise_cons]
    refine ⟨fun s hs => ?_, ih _⟩
    have := le_offset_of_mem_recordsFrom hs
    dsimp only
    omega

/-- The record behind a line starts one byte behind its end. -/
theorem next_recordsFrom {offset : Nat} {lines : List Line} {i : Nat} {r s : LineRecord}
    (hi : i < lines.length) (hr : (recordsFrom offset lines)[i]? = some r)
    (hs : (recordsFrom offset lines)[i + 1]? = some s) : s.offset = r.offset + r.size + 1 := by
  induction lines generalizing offset i with
  | nil => simp at hi
  | cons l lines ih =>
    rw [recordsFrom, List.getElem?_cons_succ] at hs
    cases i with
    | zero =>
      obtain rfl : _ = r := by simpa [recordsFrom] using hr
      cases lines with
      | nil =>
        obtain rfl : _ = s := by simpa [recordsFrom] using hs
        rfl
      | cons m lines =>
        obtain rfl : _ = s := by simpa [recordsFrom] using hs
        rfl
    | succ i =>
      rw [recordsFrom, List.getElem?_cons_succ] at hr
      exact ih (Nat.lt_of_succ_lt_succ hi) hr hs

/-! ## Pages of lines -/

variable {lines : List Line} {style : LineStyle} {incomplete : Bool}

/-- What a record of a page of lines is the record of. -/
theorem exists_line_of_record {i : Nat} {r : LineRecord} (hi : i < lines.length)
    (hr : (ofLines lines style incomplete).records[i]? = some r) :
    ∃ l, lines[i]? = some l ∧ r = recordOf (Text.byteLength (join (lines.take i))) l := by
  refine ⟨lines[i], List.getElem?_eq_getElem hi, ?_⟩
  have hrecord : (recordsFrom 0 lines)[i]? = _ :=
    getElem?_recordsFrom (List.getElem?_eq_getElem hi)
  rw [Nat.zero_add] at hrecord
  exact Option.some.inj (hr.symm.trans hrecord)

/-- A record of a page of lines is that of a line, or the empty one behind all of them. -/
theorem record_cases {i : Nat} {r : LineRecord}
    (hr : (ofLines lines style incomplete).records[i]? = some r) :
    (∃ l, lines[i]? = some l ∧ r = recordOf (Text.byteLength (join (lines.take i))) l) ∨
      (i = lines.length ∧ r = .emptyAt (Text.byteLength (join lines))) := by
  by_cases hline : i < lines.length
  · exact .inl (exists_line_of_record hline hr)
  · have hlast := getLast?_recordsFrom 0 lines
    have hlength : i < (recordsFrom 0 lines).length := (List.getElem?_eq_some_iff.1 hr).1
    rw [length_recordsFrom] at hlength
    obtain rfl : i = lines.length := by omega
    rw [List.getLast?_eq_getElem?, length_recordsFrom, Nat.add_sub_cancel, Nat.zero_add] at hlast
    exact .inr ⟨rfl, Option.some.inj (hr.symm.trans hlast)⟩

theorem text?_recordOf {i : Nat} {l : Line} (h : lines[i]? = some l) :
    (recordOf (Text.byteLength (join (lines.take i))) l).text? (join lines) = some l.text :=
  Text.slice?_eq_some_iff.2
    ⟨join (lines.take i), '\n' :: join (lines.drop (i + 1)), join_eq_of_getElem? h, rfl, rfl⟩

/-- Reading the records of a page of lines gives the lines. -/
theorem lines?_ofLines : (ofLines lines style incomplete).lines? = some (lines.map Line.text) := by
  have hread : ∀ before after : List Line, before ++ after = lines →
      ((recordsFrom (Text.byteLength (join before)) after).take after.length).mapM
        (fun r => r.text? (join lines)) = some (after.map Line.text) := by
    intro before after
    induction after generalizing before with
    | nil =>
      intro _
      rfl
    | cons l after ih =>
      intro hlines
      have hl : lines[before.length]? = some l := by simp [← hlines]
      have hbefore : lines.take before.length = before := by simp [← hlines]
      have hoffset : Text.byteLength (join (before ++ [l])) =
          Text.byteLength (join before) + Text.byteLength l.text + 1 := by
        simp only [join_append, join_cons, join_nil, Text.byteLength_append,
          byteLength_lineFeed_cons, Text.byteLength_nil]
        omega
      have htext := text?_recordOf hl
      have htail := ih (before ++ [l]) (by simpa using hlines)
      rw [hbefore] at htext
      rw [hoffset] at htail
      simp only [recordsFrom, List.length_cons, List.take_succ_cons, List.mapM_cons, List.map_cons]
      show ((recordOf _ l).text? (join lines)).bind _ = _
      rw [htext, htail]
      rfl
  exact hread [] lines rfl

/-- The record behind the lines of a page stands at the end of its text. -/
theorem getLast?_ofLines : (ofLines lines style incomplete).records.getLast? =
    some (LineRecord.emptyAt (Text.byteLength (ofLines lines style incomplete).text)) := by
  rw [ofLines, getLast?_recordsFrom, Nat.zero_add]

/-- A page laid out from lines of text keeps what a page promises. -/
theorem wellFormed_ofLines (hinline : ∀ l ∈ lines, ∀ c ∈ l.text, Character.IsInline c) :
    (ofLines lines style incomplete).WellFormed where
  length_records := length_recordsFrom 0 lines
  first := by cases lines <;> rfl
  next := next_recordsFrom
  boundaries := by
    intro i r hi hr
    obtain ⟨l, hl, rfl⟩ := exists_line_of_record hi hr
    exact Text.isBoundary_of_slice? (text?_recordOf hl)
  lineFeed := by
    intro i r hi hr
    obtain ⟨l, hl, rfl⟩ := exists_line_of_record hi hr
    show (Utf8.encode (join lines))[Text.byteLength (join (lines.take i)) +
      Text.byteLength l.text]? = some 0x0A
    rw [join_eq_of_getElem? hl, ← List.append_assoc, Utf8.encode_append, ← Text.byteLength_append,
      ← Utf8.length_encode, List.getElem?_append_right (Nat.le_refl _), Nat.sub_self]
    rfl
  inline := by
    intro i r hi hr
    obtain ⟨l, hl, rfl⟩ := exists_line_of_record hi hr
    exact ⟨l.text, text?_recordOf hl, hinline l (List.mem_of_getElem? hl)⟩
  sentinel := getLast?_ofLines
  increasing := pairwise_recordsFrom 0 lines
  text_eq := by
    refine ⟨lines.map Line.text, lines?_ofLines, ?_⟩
    rw [List.flatMap_map]
    rfl

end Page

/-! ## Where lines stand -/

/-- Where a line stands and how long it is. -/
def LineRecord.place (r : LineRecord) : Nat × Nat := (r.offset, r.size)

namespace Page

/-- What of a page does not depend on the scanner of its lines. -/
structure Layout where
  text : Text
  lineCount : Nat
  /-- Where the lines stand, and the record behind them. -/
  places : List (Nat × Nat)
  style : LineStyle
  incomplete : Bool
  deriving DecidableEq, Repr, Inhabited

/-- The layout of a page. -/
def layout (p : Page) : Layout where
  text := p.text
  lineCount := p.lineCount
  places := p.records.map LineRecord.place
  style := p.style
  incomplete := p.incomplete

/-- Where lines stand is settled by their texts. -/
theorem map_place_recordsFrom {lines others : List Line} (offset : Nat)
    (h : lines.map Line.text = others.map Line.text) :
    (recordsFrom offset lines).map LineRecord.place =
      (recordsFrom offset others).map LineRecord.place := by
  induction lines generalizing others offset with
  | nil =>
    obtain rfl := List.map_eq_nil_iff.1 h.symm
    rfl
  | cons l lines ih =>
    cases others with
    | nil => cases h
    | cons other others =>
      obtain ⟨htext, htexts⟩ := List.cons.inj h
      simp only [recordsFrom, List.map_cons, htext]
      rw [ih _ htexts]
      rfl

/-- The layout of a page is settled by the texts of its lines, apart from what is noted of the
page as a whole. -/
theorem layout_ofLines_congr {lines others : List Line}
    (h : lines.map Line.text = others.map Line.text) (style : LineStyle) (incomplete : Bool) :
    (ofLines lines style incomplete).layout = (ofLines others style incomplete).layout := by
  have hcount : lines.length = others.length := by
    rw [← List.length_map Line.text, h, List.length_map]
  have hjoin : join lines = join others := by
    have hends := congrArg (List.flatMap (· ++ ['\n'])) h
    rw [List.flatMap_map, List.flatMap_map] at hends
    exact hends
  simp only [layout, ofLines, hcount, hjoin, map_place_recordsFrom 0 h]

end Page

end TextIntake
