import TextIntake.Proofs.Line.Splitting
import TextIntake.View

set_option autoImplicit false

/-!
# Views

Bytes that split into a page decode to the view of that page; other bytes leave a
view without lines.  Padding a view keeps its records and puts empty ones behind
them, at the end of its text; adopting flags changes nothing but the flags of the
lines that both views have.

Main statements: `decode?_eq_some_cases`, `Lines.getElem?_padded_of_le` and
`getElem?_adoptFlags`.
-/

namespace TextIntake

namespace View

/-! ## Decoding -/

/-- The view of bytes that were split into a page. -/
def ofPage (bs : Bytes) (page : Page) : View := { raw := some bs, page, isDecoded := true }

section

variable {e : Encoding} {limits : Limits} {r : LineFilter} {scanner scanner' : Comment.Scanner}
  {bs : Bytes} {page : Page} {v : View}

/-- Bytes decode to the page that they split into. -/
theorem decode?_of_ofBytes
    (h : Page.ofBytes e limits r scanner bs = .ok (page, scanner')) :
    (ofBytes bs).decode? e limits r scanner = some (ofPage bs page) := by
  simp only [decode?, ofBytes, h]
  rfl

theorem decode?_of_binary (h : Page.ofBytes e limits r scanner bs = .error .binary) :
    (ofBytes bs).decode? e limits r scanner = some (ofBytes bs) := by
  simp only [decode?, ofBytes, h]

theorem decode?_of_tooLarge (h : Page.ofBytes e limits r scanner bs = .error .tooLarge) :
    (ofBytes bs).decode? e limits r scanner = none := by
  simp only [decode?, ofBytes, h]

/-- Decoding either finds a page or shows that the content, which is not empty, is no
text. -/
theorem decode?_eq_some_cases (h : (ofBytes bs).decode? e limits r scanner = some v) :
    (∃ page scanner', Page.ofBytes e limits r scanner bs = .ok (page, scanner') ∧
      v = ofPage bs page) ∨ (bs ≠ [] ∧ v = ofBytes bs) := by
  simp only [decode?, ofBytes] at h
  split at h
  · rename_i page scanner' hpage
    exact .inl ⟨page, scanner', hpage, (Option.some.inj h).symm⟩
  · rename_i hbinary
    exact .inr ⟨Page.ne_nil_of_refused hbinary, (Option.some.inj h).symm⟩
  · cases h

@[simp] theorem isText_ofPage (bs : Bytes) (page : Page) : (ofPage bs page).isText = true := rfl

theorem isText_ofBytes (h : bs ≠ []) : (ofBytes bs).isText = false := by
  cases bs with
  | nil => exact absurd rfl h
  | cons b bs => rfl

end

/-! ## Lines -/

theorem lines?_eq_some_iff {v : View} {l : Lines} :
    v.lines? = some l ↔
      v.page.records ≠ [] ∧ l = ⟨v.page.text, v.page.records, v.page.lineCount⟩ := by
  unfold lines?
  split
  · rename_i hnil
    constructor
    · intro h
      cases h
    · rintro ⟨hne, _⟩
      exact absurd hnil hne
  · rename_i hne
    constructor
    · intro h
      exact ⟨hne, (Option.some.inj h).symm⟩
    · rintro ⟨_, rfl⟩
      rfl

theorem lines?_of_wellFormed {v : View} (h : v.page.WellFormed) :
    v.lines? = some ⟨v.page.text, v.page.records, v.page.lineCount⟩ :=
  lines?_eq_some_iff.2 ⟨h.records_ne_nil, rfl⟩

namespace Lines

variable {l : Lines} {i : Nat}

theorem record?_of_lt (h : i < l.count) : l.record? i = l.records[i]? :=
  List.getElem?_take_of_lt h

theorem line?_of_record {r : LineRecord} (h : i < l.count) (hr : l.records[i]? = some r) :
    l.line? i = r.text? l.text := by
  rw [line?, record?_of_lt h, hr]
  rfl

end Lines

/-! ## Padding -/

/-- A view with enough lines is padded with none. -/
theorem padTo_of_le {v : View} {count : Nat} (h : count ≤ v.page.lineCount) :
    v.padTo count = v := by
  have hnone : count - v.page.lineCount = 0 := by omega
  simp only [padTo, hnone, List.replicate_zero, List.append_nil, Nat.max_eq_left h]

/-- The lines of a page, and empty ones behind them until there are `count`. -/
def Lines.padded (own : Page) (count : Nat) : Lines where
  text := own.text
  records := own.records ++
    List.replicate (count - own.lineCount) (LineRecord.emptyAt (Text.byteLength own.text))
  count := max own.lineCount count

theorem lines?_padTo {own : Page} (hown : own.WellFormed) (bs : Bytes) (count : Nat) :
    ((ofPage bs own).padTo count).lines? = some (Lines.padded own count) :=
  lines?_eq_some_iff.2 ⟨List.append_ne_nil_of_left_ne_nil hown.records_ne_nil _, rfl⟩

namespace Lines

variable {own : Page} {count i : Nat}

/-- Padding keeps every record that is there. -/
theorem getElem?_padded_of_lt (h : i < own.records.length) :
    (padded own count).records[i]? = own.records[i]? :=
  List.getElem?_append_left h

/-- From the record behind the lines of the page on, every record is the empty one at the
end of the text. -/
theorem getElem?_padded_of_le (hown : own.WellFormed) (hle : own.lineCount ≤ i)
    (hi : i ≤ max own.lineCount count) :
    (padded own count).records[i]? =
      some (LineRecord.emptyAt (Text.byteLength own.text)) := by
  have hlength := hown.length_records
  by_cases hlast : i = own.lineCount
  · -- the record that stood behind the last line has become a line
    have hsentinel := hown.sentinel
    rw [List.getLast?_eq_getElem?, hlength, Nat.add_sub_cancel] at hsentinel
    rw [getElem?_padded_of_lt (by omega), hlast]
    exact hsentinel
  · rw [padded, List.getElem?_append_right (by omega), List.getElem?_replicate_of_lt (by omega)]

theorem length_padded (hown : own.WellFormed) :
    (padded own count).records.length = max own.lineCount count + 1 := by
  have hlength := hown.length_records
  simp only [padded, List.length_append, List.length_replicate]
  omega

/-- Every line of a padded page can be read. -/
theorem exists_text?_padded (hown : own.WellFormed) (hi : i < max own.lineCount count) :
    ∃ r line, (padded own count).records[i]? = some r ∧ r.text? own.text = some line := by
  have hlength := hown.length_records
  by_cases hlt : i < own.lineCount
  · obtain ⟨r, line, hr, hline⟩ := hown.exists_text? hlt
    exact ⟨r, line, (getElem?_padded_of_lt (by omega)).trans hr, hline⟩
  · exact ⟨_, [], getElem?_padded_of_le hown (by omega) (by omega),
      LineRecord.text?_emptyAt_byteLength own.text⟩

end Lines

/-! ## Adopting flags -/

/-- A record among the first `n` gets the flag of its counterpart and keeps the rest. -/
theorem getElem?_adoptFlags {n i : Nat} {rs others : List LineRecord} {r other : LineRecord}
    (hi : i < n) (hr : rs[i]? = some r) (hother : others[i]? = some other) :
    (adoptFlags n rs others)[i]? = some { r with pureComment := other.pureComment } := by
  induction n generalizing i rs others with
  | zero => omega
  | succ n ih =>
    cases rs with
    | nil => simp at hr
    | cons s rs =>
      cases others with
      | nil => simp at hother
      | cons t others =>
        rw [adoptFlags]
        cases i with
        | zero =>
          obtain rfl : s = r := by simpa using hr
          obtain rfl : t = other := by simpa using hother
          rfl
        | succ i =>
          rw [List.getElem?_cons_succ] at hr hother ⊢
          exact ih (Nat.lt_of_succ_lt_succ hi) hr hother

/-- Where both views have a line, the flags agree once they were adopted. -/
theorem getElem?_adoptCommentFlags {v other : View} {i : Nat} {r s : LineRecord}
    (hi : i < v.page.lineCount) (hother : i < other.page.lineCount)
    (hr : v.page.records[i]? = some r) (hs : other.page.records[i]? = some s) :
    (v.adoptCommentFlags other).page.records[i]? =
      some { r with pureComment := s.pureComment } :=
  getElem?_adoptFlags (Nat.lt_min.2 ⟨hi, hother⟩) hr hs

/-- Flags that agree already are adopted without a change. -/
theorem adoptFlags_eq_self {n : Nat} {rs others : List LineRecord}
    (h : others.map LineRecord.pureComment = rs.map LineRecord.pureComment) :
    adoptFlags n rs others = rs := by
  induction n generalizing rs others with
  | zero => rfl
  | succ n ih =>
    cases rs with
    | nil => rfl
    | cons r rs =>
      cases others with
      | nil => rfl
      | cons other others =>
        obtain ⟨hflag, hflags⟩ := List.cons.inj h
        rw [adoptFlags, ih hflags, hflag]

theorem adoptCommentFlags_eq_self {v other : View}
    (h : other.page.records.map LineRecord.pureComment =
      v.page.records.map LineRecord.pureComment) : v.adoptCommentFlags other = v := by
  rw [adoptCommentFlags, adoptFlags_eq_self h]

theorem map_place_adoptFlags (n : Nat) (rs others : List LineRecord) :
    (adoptFlags n rs others).map LineRecord.place = rs.map LineRecord.place := by
  induction n generalizing rs others with
  | zero => rfl
  | succ n ih =>
    cases rs with
    | nil => rfl
    | cons r rs =>
      cases others with
      | nil => rfl
      | cons other others =>
        rw [adoptFlags, List.map_cons, ih]
        rfl

theorem length_adoptFlags (n : Nat) (rs others : List LineRecord) :
    (adoptFlags n rs others).length = rs.length := by
  rw [← List.length_map LineRecord.place, map_place_adoptFlags, List.length_map]

/-- A record that is not among the first `n` is kept. -/
theorem getElem?_adoptFlags_of_le {n i : Nat} (rs others : List LineRecord) (h : n ≤ i) :
    (adoptFlags n rs others)[i]? = rs[i]? := by
  induction n generalizing i rs others with
  | zero => rfl
  | succ n ih =>
    cases rs with
    | nil => rfl
    | cons r rs =>
      cases others with
      | nil => rfl
      | cons other others =>
        obtain ⟨i, rfl⟩ := Nat.exists_eq_add_of_le' h
        exact ih rs others (Nat.le_add_left n i)

theorem getLast?_adoptFlags {n : Nat} {rs others : List LineRecord} (h : n < rs.length) :
    (adoptFlags n rs others).getLast? = rs.getLast? := by
  rw [List.getLast?_eq_getElem?, length_adoptFlags,
    getElem?_adoptFlags_of_le rs others (Nat.le_sub_one_of_lt h), ← List.getLast?_eq_getElem?]

/-- Adopting flags moves no line. -/
theorem layout_adoptCommentFlags (v other : View) :
    (v.adoptCommentFlags other).page.layout = v.page.layout := by
  simp only [adoptCommentFlags, Page.layout, map_place_adoptFlags]

end View

end TextIntake
