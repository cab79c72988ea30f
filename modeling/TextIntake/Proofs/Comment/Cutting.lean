import TextIntake.Proofs.Comment.CStyle
import TextIntake.Proofs.Comment.SingleLine

set_option autoImplicit false

/-!
# Comments are cut where they stand

Spans of bytes are cut out of a line from the last to the first, and a span that does not fit
what is left of the line then cuts nothing.  Spans that stand one behind the other, each between
two boundaries of characters, all fit when their turn comes: what is cut later stands in front of
what was cut before.  The spans that a scan finds are of this kind, so nothing but the characters
in them is taken away.

Main statements: `SafeToCut.fits_cutAll`, `SafeToCut.cutAll_eq` and `safeToCut_scan`.
-/

namespace TextIntake

open Comment (Extent Marked)

/-! ## Spans that fit a line -/

namespace Span

/-- The span lies within the line, and its ends are boundaries of characters. -/
structure Fits (s : Span) (line : Text) : Prop where
  start_le : s.start ≤ s.stop
  stop_le : s.stop ≤ Text.byteLength line
  startBoundary : Text.IsBoundary line s.start
  stopBoundary : Text.IsBoundary line s.stop

/-- A span fits a line when it is a part of it, by its bytes. -/
theorem fits_iff {s : Span} {line : Text} :
    s.Fits line ↔ ∃ before inside after, line = before ++ (inside ++ after) ∧
      Text.byteLength before = s.start ∧ s.start + Text.byteLength inside = s.stop := by
  constructor
  · rintro ⟨hle, -, ⟨before, rest, rfl, hstart⟩, hstop⟩
    obtain ⟨inside, after, rfl, hinside⟩ :=
      Text.exists_append_of_isBoundary hstop (hstart ▸ hle)
    exact ⟨before, inside, after, rfl, hstart, hstart ▸ hinside⟩
  · rintro ⟨before, inside, after, rfl, hstart, hstop⟩
    have hends : Text.byteLength (before ++ inside) = s.stop := by
      rw [Text.byteLength_append, hstart, hstop]
    have hboundary : Text.IsBoundary (before ++ (inside ++ after)) s.stop :=
      ⟨before ++ inside, after, (List.append_assoc before inside after).symm, hends⟩
    exact ⟨by omega, hboundary.le_byteLength, ⟨before, inside ++ after, rfl, hstart⟩, hboundary⟩

/-- A span that fits a line holds all bytes of a character or none. -/
theorem Fits.contains_eq {s : Span} {before after : Text} {c : Char}
    (h : s.Fits (before ++ c :: after)) {n : Nat} (hn : n < c.utf8Size) :
    s.contains (Text.byteLength before + n) = s.contains (Text.byteLength before) := by
  have hstart := h.startBoundary.not_inside
  have hstop := h.stopBoundary.not_inside
  rw [contains, contains, Bool.eq_iff_iff]
  simp only [Bool.and_eq_true, decide_eq_true_eq]
  omega

/-- A span that fits is not skipped: its bytes are gone from the line. -/
theorem Fits.byteLength_cut {s : Span} {line : Text} (h : s.Fits line) :
    Text.byteLength (s.cut line) + (s.stop - s.start) = Text.byteLength line := by
  obtain ⟨before, inside, after, rfl, hstart, hstop⟩ := fits_iff.1 h
  rw [cut_append hstart hstop]
  simp only [Text.byteLength_append]
  omega

end Span

/-! ## Spans that can be cut -/

/-- The spans stand in a line one behind the other, in increasing order. -/
structure SafeToCut (spans : List Span) (line : Text) : Prop where
  inOrder : spans.Pairwise fun s t => s.start < t.start ∧ s.stop ≤ t.start
  fits : ∀ s ∈ spans, s.Fits line

/-- Characters of code in front of a marked text move its spans. -/
theorem Comment.Marked.HasSpans.behind_code {pos : Nat} {marks : List Marked} {spans : List Span}
    (front : Text) (h : HasSpans (pos + Text.byteLength front) marks spans) :
    HasSpans pos (front.map (⟨·, false⟩) ++ marks) spans := by
  induction front generalizing pos with
  | nil => exact h
  | cons c front ih =>
    rw [Text.byteLength_cons, ← Nat.add_assoc] at h
    exact .code (ih h)

namespace SafeToCut

variable {spans front back : List Span} {s : Span} {line : Text}

theorem of_sublist (h : SafeToCut spans line) (hback : List.Sublist back spans) :
    SafeToCut back line where
  inOrder := h.inOrder.sublist hback
  fits := fun s hs => h.fits s (hback.subset hs)

/-- What is comment in a line is known from spans of this kind. -/
theorem exists_hasSpans {before after : Text} (h : SafeToCut spans (before ++ after))
    (hbehind : ∀ s ∈ spans, Text.byteLength before ≤ s.start) :
    ∃ marks, marks.map Marked.char = after ∧
      Marked.HasSpans (Text.byteLength before) marks spans := by
  induction spans generalizing before after with
  | nil =>
    refine ⟨after.map (⟨·, false⟩) ++ [], ?_, .behind_code after (.nil _)⟩
    rw [List.append_nil, Marked.map_char_map]
  | cons s spans ih =>
    obtain ⟨hfirst, -⟩ := List.pairwise_cons.1 h.inOrder
    have hs := h.fits s List.mem_cons_self
    obtain ⟨code, rest, rfl, hcode⟩ :=
      Text.exists_append_of_isBoundary hs.startBoundary (hbehind s List.mem_cons_self)
    rw [← List.append_assoc] at h
    rw [← Text.byteLength_append] at hcode
    obtain ⟨inside, rest, rfl, hinside⟩ :=
      Text.exists_append_of_isBoundary (h.fits s List.mem_cons_self).stopBoundary
        (hcode ▸ hs.start_le)
    rw [← List.append_assoc] at h
    have hstop : Text.byteLength (before ++ code ++ inside) = s.stop := by
      rw [Text.byteLength_append, hinside]
    obtain ⟨marks, rfl, hmarks⟩ := ih (h.of_sublist (List.sublist_cons_self s spans)) fun t ht => by
      rw [hstop]
      exact (hfirst t ht).2
    refine ⟨code.map (⟨·, false⟩) ++ (inside.map (⟨·, true⟩) ++ marks), ?_, ?_⟩
    · simp only [List.map_append, Marked.map_char_map]
    · refine .behind_code code ?_
      rw [hstop] at hmarks
      rw [← Text.byteLength_append, hcode]
      rw [hcode] at hinside
      exact .comment hinside hmarks

/-- The characters outside of the spans are what cutting leaves. -/
theorem cutAll_eq (h : SafeToCut spans line) :
    Span.cutAll spans line =
      Marked.kept (Marked.byPosition (Extent.spans spans).covers 0 line) := by
  have hline : SafeToCut spans ([] ++ line) := h
  obtain ⟨marks, rfl, hmarks⟩ := exists_hasSpans hline fun s _ => Nat.zero_le s.start
  have hcovers : Marked.byPosition (Extent.spans spans).covers 0 (marks.map Marked.char) = marks :=
    hmarks.byPosition_eq
  rw [hcovers]
  exact @Marked.HasSpans.cutAll_eq 0 marks spans hmarks [] rfl

/-- Each span still fits when all behind it have been cut. -/
theorem fits_cutAll (h : SafeToCut (front ++ s :: back) line) :
    s.Fits (Span.cutAll back line) := by
  have hcons : SafeToCut (s :: back) line :=
    h.of_sublist (List.sublist_append_right front (s :: back))
  obtain ⟨hfirst, -⟩ := List.pairwise_cons.1 hcons.inOrder
  obtain ⟨before, inside, after, rfl, hstart, hstop⟩ :=
    Span.fits_iff.1 (hcons.fits s List.mem_cons_self)
  have hends : Text.byteLength (before ++ inside) = s.stop := by
    rw [Text.byteLength_append, hstart, hstop]
  rw [← List.append_assoc] at hcons ⊢
  obtain ⟨marks, rfl, hmarks⟩ :=
    exists_hasSpans (hcons.of_sublist (List.sublist_cons_self s back)) fun t ht => by
      rw [hends]
      exact (hfirst t ht).2
  rw [hmarks.cutAll_eq rfl, List.append_assoc]
  exact Span.fits_iff.2 ⟨before, inside, _, rfl, hstart, hstop⟩

end SafeToCut

/-! ## The spans of a scan -/

namespace Comment.Marked.HasSpans

variable {pos : Nat} {marks : List Marked} {spans : List Span}

theorem le_start (h : HasSpans pos marks spans) : ∀ s ∈ spans, pos ≤ s.start := by
  induction h with
  | nil => simp
  | code _ ih => exact fun s hs => Nat.le_trans (Nat.le_add_right _ _) (ih s hs)
  | @comment start stop inside marks spans hstop _ ih =>
    intro s hs
    rcases List.mem_cons.1 hs with rfl | hs
    · exact Nat.le_refl start
    · have hle := ih s hs
      omega

/-- The spans of a marked text do not reach into each other. -/
theorem pairwise (h : HasSpans pos marks spans) : spans.Pairwise fun s t => s.stop ≤ t.start := by
  induction h with
  | nil => exact .nil
  | code _ ih => exact ih
  | comment _ hmarks ih => exact .cons hmarks.le_start ih

/-- The spans of a marked text fit it. -/
theorem fits (h : HasSpans pos marks spans) {before : Text}
    (hbefore : Text.byteLength before = pos) : ∀ s ∈ spans, s.Fits (before ++ marks.map char) := by
  induction h generalizing before with
  | nil => simp
  | @code pos c marks spans _ ih =>
    have hstep := @ih (before ++ [c]) (by simp [hbefore])
    rwa [List.append_assoc] at hstep
  | @comment start stop inside marks spans hstop _ ih =>
    rw [List.map_append, map_char_map]
    intro s hs
    rcases List.mem_cons.1 hs with rfl | hs
    · exact Span.fits_iff.2 ⟨before, inside, marks.map char, rfl, hbefore, hstop⟩
    · have htail := @ih (before ++ inside) (by rw [Text.byteLength_append, hbefore, hstop])
      rw [List.append_assoc] at htail
      exact htail s hs

end Comment.Marked.HasSpans

/-- In a scan no span is empty, unless the line is. -/
theorem CStyle.start_lt_of_scans {mode : Mode} {pos : Nat} {t : Text} {f : Found}
    (h : Scans mode pos t f)
    (hopen : ∀ start, mode = .block start → start < pos ∨ (start = pos ∧ t ≠ [])) :
    ∀ s ∈ f.spans, s.start < s.stop := by
  induction h with
  | done => simp
  | @unclosed start pos =>
    rcases hopen start rfl with hlt | ⟨-, hne⟩
    · intro s hs
      obtain rfl := List.mem_singleton.1 hs
      exact hlt
    · exact absurd rfl hne
  | @closed start pos t f _ ih =>
    intro s hs
    rcases List.mem_cons.1 hs with rfl | hs
    · rcases hopen start rfl with hlt | ⟨rfl, -⟩ <;> dsimp only <;> omega
    · exact ih (fun _ hmode => by cases hmode) s hs
  | @inside start pos c t f _ _ ih =>
    refine ih fun start' hmode => ?_
    have hc : 0 < c.utf8Size := c.utf8Size_pos
    rcases hopen start' hmode with hlt | ⟨rfl, -⟩
    · exact .inl (by omega)
    · exact .inl (by omega)
  | @toEnd pos t =>
    intro s hs
    obtain rfl := List.mem_singleton.1 hs
    dsimp only
    omega
  | @opened pos t f _ ih =>
    refine ih fun start hmode => ?_
    cases hmode
    exact .inl (by omega)
  | @code pos c t mode f hread hstep _ ih =>
    rw [(found_behind_code c f).1]
    refine ih fun start hmode => ?_
    exact absurd (hmode ▸ rfl) (hstep ▸ step_ne_block_of_kept hread)
  | @quoted quote escaped pos c t mode f hstep _ ih =>
    refine ih fun start hmode => ?_
    exact absurd (hmode ▸ rfl) (hstep ▸ step_ne_block_of_kept rfl)

theorem CStyle.start_lt_of_mem_scanLine (inBlock : Bool) {line : Text} (hline : line ≠ []) :
    ∀ s ∈ (scanLine inBlock line).spans, s.start < s.stop := by
  cases inBlock with
  | true =>
    have hopened := start_lt_of_scans (scans_scan (.block 0) 0 line) fun start hmode => by
      cases hmode
      exact .inr ⟨rfl, hline⟩
    exact hopened
  | false => exact start_lt_of_scans (scans_scan .code 0 line) fun _ hmode => by cases hmode

theorem CStyle.safeToCut_scanLine (inBlock : Bool) (line : Text) :
    SafeToCut (scanLine inBlock line).spans line := by
  have hspans := hasSpans_scanLine inBlock line
  have hfits := @Marked.HasSpans.fits 0 _ _ hspans [] rfl
  rw [List.nil_append, Place.map_char_readLine] at hfits
  refine ⟨?_, hfits⟩
  by_cases hline : line = []
  · -- a block comment that goes on leaves one span, and that is empty
    subst hline
    cases inBlock with
    | true => exact List.pairwise_singleton _ _
    | false => exact .nil
  · refine hspans.pairwise.imp_of_mem fun hs _ hle => ?_
    exact ⟨Nat.lt_of_lt_of_le (start_lt_of_mem_scanLine inBlock hline _ hs) hle, hle⟩

namespace Comment

/-- The spans of bytes that are taken out of a line. -/
def Extent.spansIn (line : Text) : Extent → List Span
  | spans list => list
  | tail start => [⟨start, Text.byteLength line⟩]
  | whole => [⟨0, Text.byteLength line⟩]

theorem Finding.strip_eq_cutAll (f : Finding) (line : Text) :
    f.strip line = Span.cutAll (f.extent.spansIn line) line := by
  obtain ⟨pure, extent⟩ := f
  cases extent with
  | spans list => rfl
  | tail start => rfl
  | whole =>
    have hcut : (Span.mk 0 (Text.byteLength line)).cut ([] ++ (line ++ [])) = [] ++ [] :=
      Span.cut_append rfl (Nat.zero_add _)
    rw [List.nil_append, List.append_nil] at hcut
    exact hcut.symm

theorem safeToCut_spansIn (s : Scanner) (line : Text) :
    SafeToCut ((s.scan line).1.extent.spansIn line) line := by
  have hnone : SafeToCut [] line := ⟨.nil, by simp⟩
  have hone : ∀ span : Span, span.Fits line → SafeToCut [span] line := fun span hfits =>
    ⟨List.pairwise_singleton _ _, fun _ hs => by
      obtain rfl := List.mem_singleton.1 hs
      exact hfits⟩
  cases s with
  | absent => exact hnone
  | cStyle inBlock => exact CStyle.safeToCut_scanLine inBlock line
  | hash =>
    rw [Scanner.scan]
    cases hcode : Hash.codeOfLine? line with
    | none => exact hnone
    | some code =>
      obtain ⟨⟨comment, rfl⟩, -⟩ := Hash.code?_eq_some hcode
      refine hone _ (Span.fits_iff.2 ⟨code, '#' :: comment, [], ?_, rfl, ?_⟩)
      · rw [List.append_nil]
      · exact (Text.byteLength_append code ('#' :: comment)).symm
  | batch =>
    rw [Scanner.scan]
    cases Batch.isComment line with
    | false => exact hnone
    | true =>
      refine hone _ (Span.fits_iff.2 ⟨[], line, [], ?_, rfl, Nat.zero_add _⟩)
      rw [List.nil_append, List.append_nil]

/-- **Comments are cut where they stand.**  In whatever state a scanner is, the spans that it
finds in a line are in increasing order and do not reach into each other, and each lies within
the line, between two boundaries of characters.  So it holds all bytes of a character or none.
When they are cut from the last to the first, each still fits what is left of the line, and its
bytes are gone then.  What is left in the end are the characters outside of all spans, in their
order. -/
theorem safeToCut_scan (s : Scanner) (line : Text) :
    let finding := (s.scan line).1
    let spans := finding.extent.spansIn line
    spans.Pairwise (fun one next => one.start < next.start ∧ one.stop ≤ next.start) ∧
    (∀ span ∈ spans, span.start ≤ span.stop ∧ span.stop ≤ Text.byteLength line ∧
      Text.IsBoundary line span.start ∧ Text.IsBoundary line span.stop) ∧
    (∀ span ∈ spans, ∀ before c after, line = before ++ c :: after → ∀ n < c.utf8Size,
      span.contains (Text.byteLength before + n) = span.contains (Text.byteLength before)) ∧
    (∀ front span back, spans = front ++ span :: back →
      let left := Span.cutAll back line
      span.Fits left ∧ Text.byteLength (span.cut left) + (span.stop - span.start) =
        Text.byteLength left) ∧
    finding.strip line = Span.cutAll spans line ∧
    Span.cutAll spans line =
      Marked.kept (Marked.byPosition (Extent.spans spans).covers 0 line) := by
  intro finding spans
  have hsafe : SafeToCut spans line := safeToCut_spansIn s line
  refine ⟨hsafe.inOrder, fun span hspan => ?_, ?_, ?_, finding.strip_eq_cutAll line,
    hsafe.cutAll_eq⟩
  · obtain ⟨hle, hstop, hstartBoundary, hstopBoundary⟩ := hsafe.fits span hspan
    exact ⟨hle, hstop, hstartBoundary, hstopBoundary⟩
  · rintro span hspan before c after rfl n hn
    exact (hsafe.fits span hspan).contains_eq hn
  · intro front span back hspans left
    have hfits : span.Fits left := (hspans ▸ hsafe).fits_cutAll
    exact ⟨hfits, hfits.byteLength_cut⟩

/-- The line `é*/ß"//"/*ü*//*/`, read inside a block comment: the comment in the middle still fits
when the one behind it, which the line leaves open, has been cut. -/
theorem safeToCut_scan_of_three_comments :
    let line : Text :=
      ['é', '*', '/', 'ß', '"', '/', '/', '"', '/', '*', 'ü', '*', '/', '/', '*', '/']
    let finding := ((Scanner.cStyle true).scan line).1
    let left : Text := ['é', '*', '/', 'ß', '"', '/', '/', '"', '/', '*', 'ü', '*', '/']
    finding.extent.spansIn line = [⟨0, 4⟩, ⟨10, 16⟩, ⟨16, 19⟩] ∧
      (Span.mk 10 16).Fits left ∧ (Span.mk 10 16).cut left =
        ['é', '*', '/', 'ß', '"', '/', '/', '"'] ∧
      finding.strip line = ['ß', '"', '/', '/', '"'] ∧
      finding.strip line = Marked.kept (Marked.byPosition
        (Extent.spans [⟨0, 4⟩, ⟨10, 16⟩, ⟨16, 19⟩]).covers 0 line) := by
  intro line finding left
  have hspans : finding.extent.spansIn line = [⟨0, 4⟩, ⟨10, 16⟩, ⟨16, 19⟩] := rfl
  obtain ⟨-, -, -, hcut, hstrip, hleft⟩ := safeToCut_scan (.cStyle true) line
  obtain ⟨hfits, -⟩ := hcut [⟨0, 4⟩] ⟨10, 16⟩ [⟨16, 19⟩] hspans
  exact ⟨hspans, hfits, rfl, rfl, hstrip.trans hleft⟩

end Comment

end TextIntake
