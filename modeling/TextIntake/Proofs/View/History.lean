import TextIntake.Proofs.View

set_option autoImplicit false

/-!
# Views through a history

Several views are read, decoded, copied, padded and reset, and take over each other's comment
flags, in any order.  A view need not be well formed then: one that was never decoded may be
padded, and has no record behind its lines.  What every view keeps is that it has a record for
each of its lines, that at most one record stands behind them, and that each record can be read
in the text.

Main statement: `inBounds_after`.
-/

namespace TextIntake

/-! ## Pages that can be accessed -/

namespace Page

/-- Every line of a page has its record, and every record can be read. -/
structure InBounds (p : Page) : Prop where
  lineCount_le : p.lineCount ≤ p.records.length
  length_le : p.records.length ≤ p.lineCount + 1
  offsets : p.records.Pairwise fun r s => r.offset ≤ s.offset
  readable : ∀ r ∈ p.records, ∃ line, r.text? p.text = some line

theorem inBounds_empty : InBounds {} where
  lineCount_le := Nat.le_refl 0
  length_le := Nat.zero_le 1
  offsets := .nil
  readable := fun _ hr => by cases hr

theorem WellFormed.inBounds {p : Page} (h : p.WellFormed) : p.InBounds where
  lineCount_le := h.length_records ▸ Nat.le_succ _
  length_le := Nat.le_of_eq h.length_records
  offsets := h.increasing.imp Nat.le_of_lt
  readable := by
    intro r hr
    obtain ⟨i, hi⟩ := List.getElem?_of_mem hr
    have hlt : i < p.lineCount + 1 := h.length_records ▸ (List.getElem?_eq_some_iff.1 hi).1
    rcases Nat.lt_succ_iff_lt_or_eq.1 hlt with hline | rfl
    · obtain ⟨line, hread, -⟩ := h.inline hline hi
      exact ⟨line, hread⟩
    · have hsentinel := h.sentinel
      rw [List.getLast?_eq_getElem?, h.length_records, Nat.add_sub_cancel, hi] at hsentinel
      obtain rfl := Option.some.inj hsentinel
      exact ⟨[], LineRecord.text?_emptyAt_byteLength p.text⟩

namespace InBounds

variable {p q : Page}

/-- Both ends of a record are boundaries of characters in the text. -/
theorem boundaries (h : p.InBounds) {r : LineRecord} (hr : r ∈ p.records) :
    Text.IsBoundary p.text r.offset ∧ Text.IsBoundary p.text r.stop ∧
      r.stop ≤ Text.byteLength p.text := by
  obtain ⟨line, hline⟩ := h.readable r hr
  obtain ⟨hoffset, hstop⟩ := Text.isBoundary_of_slice? hline
  exact ⟨hoffset, hstop, hstop.le_byteLength⟩

/-- Whether records can be read is settled by where they stand. -/
theorem of_layout_eq (h : p.InBounds) (hlayout : q.layout = p.layout) : q.InBounds := by
  have htext : q.text = p.text := congrArg Layout.text hlayout
  have hcount : q.lineCount = p.lineCount := congrArg Layout.lineCount hlayout
  have hplaces : q.records.map LineRecord.place = p.records.map LineRecord.place :=
    congrArg Layout.places hlayout
  have hlength : q.records.length = p.records.length := by
    rw [← List.length_map LineRecord.place, hplaces, List.length_map]
  refine ⟨?_, ?_, ?_, ?_⟩
  · rw [hlength, hcount]
    exact h.lineCount_le
  · rw [hlength, hcount]
    exact h.length_le
  · have hplaced : (p.records.map LineRecord.place).Pairwise fun r s => r.1 ≤ s.1 :=
      List.pairwise_map.2 h.offsets
    rw [← hplaces, List.pairwise_map] at hplaced
    exact hplaced
  · have hplaced : ∀ place ∈ p.records.map LineRecord.place,
        ∃ line, Text.slice? p.text place.1 place.2 = some line :=
      List.forall_mem_map.2 h.readable
    rw [← hplaces, ← htext, List.forall_mem_map] at hplaced
    exact hplaced

/-- Records may be put at the end of the text, as long as they are lines. -/
theorem padded (h : p.InBounds) (count : Nat) : (View.padTo { page := p } count).page.InBounds := by
  obtain ⟨hle, hlength, hoffsets, hreadable⟩ := h
  have hends : ∀ r ∈ p.records, r.offset ≤ Text.byteLength p.text := fun r hr =>
    (boundaries ⟨hle, hlength, hoffsets, hreadable⟩ hr).1.le_byteLength
  refine ⟨?_, ?_, ?_, ?_⟩
  · simp only [View.padTo, List.length_append, List.length_replicate]
    omega
  · simp only [View.padTo, List.length_append, List.length_replicate]
    omega
  · refine List.pairwise_append.2 ⟨hoffsets, ?_, ?_⟩
    · exact List.pairwise_replicate.2 (.inr (Nat.le_refl _))
    · intro r hr s hs
      obtain rfl := List.eq_of_mem_replicate hs
      exact hends r hr
  · intro r hr
    rcases List.mem_append.1 hr with hold | hnew
    · exact hreadable r hold
    · obtain rfl := List.eq_of_mem_replicate hnew
      exact ⟨[], LineRecord.text?_emptyAt_byteLength p.text⟩

end InBounds

end Page

namespace View

/-! ## Lines that can be accessed -/

namespace Lines

/-- Every line can be accessed, in each of the ways that there are, and no other line can. -/
structure Accessible (l : Lines) : Prop where
  count_le : l.count ≤ l.records.length
  line : ∀ i < l.count, ∃ r line, l.record? i = some r ∧ r.text? l.text = some line ∧
    l.line? i = some line ∧ l.toList[i]? = some line
  beyond : ∀ i, l.count ≤ i → l.record? i = none ∧ l.line? i = none ∧ l.toList[i]? = none

/-- Records that can be read are all listed. -/
theorem getElem?_filterMap_text? {t : Text} {records : List LineRecord} (i : Nat)
    (h : ∀ r ∈ records, ∃ line, r.text? t = some line) :
    (records.filterMap (·.text? t))[i]? = records[i]?.bind (·.text? t) := by
  induction records generalizing i with
  | nil => rfl
  | cons r records ih =>
    obtain ⟨line, hline⟩ := h r List.mem_cons_self
    have htail := fun i => ih i fun s hs => h s (List.mem_cons_of_mem r hs)
    have hlisted : (r :: records).filterMap (·.text? t) =
        line :: records.filterMap (·.text? t) := List.filterMap_cons_some hline
    rw [hlisted]
    cases i with
    | zero => exact hline.symm
    | succ i => exact htail i

theorem getElem?_toList {l : Lines} (i : Nat)
    (h : ∀ r ∈ l.records, ∃ line, r.text? l.text = some line) : l.toList[i]? = l.line? i :=
  getElem?_filterMap_text? i fun r hr => h r (List.mem_of_mem_take hr)

end Lines

theorem accessible_of_inBounds {v : View} {l : Lines} (h : v.page.InBounds)
    (hl : v.lines? = some l) : l.Accessible := by
  obtain ⟨-, rfl⟩ := lines?_eq_some_iff.1 hl
  refine ⟨h.lineCount_le, fun i hi => ?_, fun i hi => ?_⟩
  · have hr : v.page.records[i]? = some _ :=
      List.getElem?_eq_getElem (Nat.lt_of_lt_of_le hi h.lineCount_le)
    obtain ⟨line, hline⟩ := h.readable _ (List.mem_of_getElem? hr)
    have hread : Lines.line? ⟨v.page.text, v.page.records, v.page.lineCount⟩ i = some line :=
      (Lines.line?_of_record hi hr).trans hline
    exact ⟨_, line, (Lines.record?_of_lt hi).trans hr, hline, hread,
      (Lines.getElem?_toList i h.readable).trans hread⟩
  · have hnone : Lines.record? ⟨v.page.text, v.page.records, v.page.lineCount⟩ i = none :=
      List.getElem?_eq_none (Nat.le_trans (List.length_take_le _ _) hi)
    have hline : Lines.line? ⟨v.page.text, v.page.records, v.page.lineCount⟩ i = none := by
      rw [Lines.line?, hnone]
      rfl
    exact ⟨hnone, hline, (Lines.getElem?_toList i h.readable).trans hline⟩

/-! ## Histories -/

/-- What is done to a view. -/
inductive Operation where
  /-- A file is read, with or without success. -/
  | read (tree : FileTree) (path : Path)
  | decode (e : Encoding) (limits : Limits) (r : LineFilter) (scanner : Comment.Scanner)
  /-- The bytes of another view are copied. -/
  | copyBytes (source : Nat)
  | adoptCommentFlags (other : Nat)
  | padTo (count : Nat)
  /-- The view is as new. -/
  | reset

/-- What an operation makes of a view, among others.  What is too large to be decoded stays as
it is. -/
def Operation.outcome (views : Nat → View) (v : View) : Operation → View
  | read tree path => (View.read tree path).1
  | decode e limits r scanner => (v.decode? e limits r scanner).getD v
  | copyBytes source => (views source).copyBytes
  | adoptCommentFlags other => v.adoptCommentFlags (views other)
  | padTo count => v.padTo count
  | reset => {}

/-- An operation on one of several views, which are told apart by their numbers. -/
structure Step where
  target : Nat
  operation : Operation

/-- The views behind a step. -/
def Step.apply (views : Nat → View) (step : Step) : Nat → View := fun i =>
  if i = step.target then step.operation.outcome views (views i) else views i

/-- The views behind a history.  At first they are all new. -/
def after (history : List Step) : Nat → View := history.foldl Step.apply fun _ => {}

theorem after_append (history : List Step) (step : Step) :
    after (history ++ [step]) = step.apply (after history) := by
  rw [after, List.foldl_append]
  rfl

/-- The view that the last step was about. -/
theorem after_append_target (history : List Step) (i : Nat) (operation : Operation) :
    after (history ++ [⟨i, operation⟩]) i =
      operation.outcome (after history) (after history i) := by
  rw [after_append]
  exact if_pos rfl

/-- A step is about one view only. -/
theorem after_append_of_ne {i j : Nat} (history : List Step) (operation : Operation) (h : j ≠ i) :
    after (history ++ [⟨i, operation⟩]) j = after history j := by
  rw [after_append]
  exact if_neg h

/-- What new views have and every operation keeps, each view has behind any history. -/
theorem forall_after {P : View → Prop} (hnew : P {})
    (houtcome : ∀ (views : Nat → View) (v : View) (operation : Operation), P v →
      P (operation.outcome views v)) (history : List Step) : ∀ i, P (after history i) := by
  have hstep : ∀ (views : Nat → View) (step : Step), (∀ i, P (views i)) →
      ∀ i, P (step.apply views i) := by
    intro views step h i
    rw [Step.apply]
    split
    · exact houtcome views (views i) step.operation (h i)
    · exact h i
  have hrun : ∀ views : Nat → View, (∀ i, P (views i)) →
      ∀ i, P (history.foldl Step.apply views i) := by
    induction history with
    | nil => exact fun _ h => h
    | cons step history ih => exact fun views h => ih _ (hstep views step h)
  exact hrun _ fun _ => hnew

/-! ## Access through a history -/

section

variable {v : View}

theorem inBounds_decode? {e : Encoding} {limits : Limits} {r : LineFilter}
    {scanner : Comment.Scanner} {decoded : View} (h : v.page.InBounds)
    (hdecode : v.decode? e limits r scanner = some decoded) : decoded.page.InBounds := by
  unfold decode? at hdecode
  split at hdecode
  · obtain rfl := Option.some.inj hdecode
    exact h
  · split at hdecode
    · rename_i hpage
      obtain rfl := Option.some.inj hdecode
      exact (Page.wellFormed_of_ofBytes hpage).inBounds
    · obtain rfl := Option.some.inj hdecode
      exact Page.inBounds_empty
    · cases hdecode

/-- What an operation makes of a view can be accessed if the view could. -/
theorem inBounds_outcome (views : Nat → View) (h : v.page.InBounds) (operation : Operation) :
    (operation.outcome views v).page.InBounds := by
  cases operation with
  | read tree path =>
    rw [Operation.outcome, View.read]
    split <;> exact Page.inBounds_empty
  | decode e limits r scanner =>
    rw [Operation.outcome]
    cases hdecode : v.decode? e limits r scanner with
    | none => exact h
    | some decoded => exact inBounds_decode? h hdecode
  | copyBytes source => exact Page.inBounds_empty
  | adoptCommentFlags other => exact h.of_layout_eq (layout_adoptCommentFlags v _)
  | padTo count => exact h.padded count
  | reset => exact Page.inBounds_empty

end

/-- Whatever was done to the views, each of them can be accessed. -/
theorem page_inBounds_after (history : List Step) : ∀ i, (after history i).page.InBounds :=
  @forall_after (·.page.InBounds) Page.inBounds_empty
    (fun views _ operation h => inBounds_outcome views h operation) history

/-! ## Main statement -/

/-- What padding makes of a view: empty records at the end of the text are appended, and nothing
else happens. -/
structure Padded (v padded : View) (count : Nat) : Prop where
  records : ∃ added, padded.page.records = v.page.records ++ added ∧
    added.length = count - v.page.lineCount ∧
    ∀ r ∈ added, r = .emptyAt (Text.byteLength v.page.text) ∧ r.text? padded.page.text = some []
  lineCount : padded.page.lineCount = max v.page.lineCount count
  rest : padded = { v with
    page := { v.page with records := padded.page.records, lineCount := padded.page.lineCount } }

theorem padded_padTo (v : View) (count : Nat) : Padded v (v.padTo count) count where
  records := by
    refine ⟨_, rfl, List.length_replicate, fun r hr => ?_⟩
    obtain rfl := List.eq_of_mem_replicate hr
    exact ⟨rfl, LineRecord.text?_emptyAt_byteLength v.page.text⟩
  lineCount := rfl
  rest := rfl

/-- **Lines are accessed within their text.**  Behind any history of several views, each view has
a record for each of its lines and at most one more; no record starts in front of the one before
it, and each record is a range of whole characters within the text.  Where two views share lines,
both have records for them.  If a view has lines, all of them can be accessed, and no other line
can.  Padding a view then appends empty records at the end of its text until there are enough
lines, and leaves everything else as it was. -/
theorem inBounds_after (history : List Step) :
    let views := after history
    (∀ i, (views i).page.InBounds ∧ ∀ r ∈ (views i).page.records,
      Text.IsBoundary (views i).page.text r.offset ∧ Text.IsBoundary (views i).page.text r.stop ∧
        r.stop ≤ Text.byteLength (views i).page.text) ∧
    (∀ i j, min (views i).page.lineCount (views j).page.lineCount ≤ (views i).page.records.length ∧
      min (views i).page.lineCount (views j).page.lineCount ≤ (views j).page.records.length) ∧
    (∀ i l, (views i).lines? = some l → l.Accessible) ∧
    ∀ i count, let padded := after (history ++ [⟨i, .padTo count⟩])
      Padded (views i) (padded i) count ∧ ∀ j, j ≠ i → padded j = views j := by
  intro views
  have hviews : ∀ i, (views i).page.InBounds := page_inBounds_after history
  refine ⟨fun i => ⟨hviews i, fun r hr => (hviews i).boundaries hr⟩, fun i j => ⟨?_, ?_⟩,
    fun i l hl => accessible_of_inBounds (hviews i) hl, fun i count => ⟨?_, fun j hj => ?_⟩⟩
  · exact Nat.le_trans (Nat.min_le_left _ _) (hviews i).lineCount_le
  · exact Nat.le_trans (Nat.min_le_right _ _) (hviews j).lineCount_le
  · rw [after_append_target]
    exact padded_padTo (views i) count
  · exact after_append_of_ne history (.padTo count) hj

end View

end TextIntake
