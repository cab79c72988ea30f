import TextIntake.Comment.Scanner
import TextIntake.Proofs.Text.Slice

set_option autoImplicit false

/-!
# Marked text

What is comment in a line can be shown by marking every character.  This says of each
position whether it goes, which the text that remains does not say.  A finding marks a
line by the bytes that it covers: a character is comment when its first byte is.

`HasSpans` describes the spans of a marked text from the left, one comment after the
other.  Of such spans both is known, which characters they cover and what is left when
they are cut out.

Main statements: `HasSpans.byPosition_eq` and `HasSpans.cutAll_eq`.
-/

namespace TextIntake

namespace Span

/-- Whether byte `n` lies in the span. -/
def contains (s : Span) (n : Nat) : Bool := s.start ≤ n && n < s.stop

/-- A span that fits the characters of a line takes them out. -/
theorem cut_append {s : Span} {before inside after : Text}
    (hstart : Text.byteLength before = s.start)
    (hstop : s.start + Text.byteLength inside = s.stop) :
    s.cut (before ++ (inside ++ after)) = before ++ after := by
  have hsize : s.stop - s.start = Text.byteLength inside := by omega
  rw [cut, hsize, ← hstart]
  simp only [Text.splitAtByte?_byteLength]

end Span

namespace Comment

/-- Whether byte `n` of the line belongs to the comment. -/
def Extent.covers : Extent → Nat → Bool
  | .spans list, n => list.any (·.contains n)
  | .tail start, n => start ≤ n
  | .whole, _ => true

/-- A character, and whether it is comment. -/
structure Marked where
  char : Char
  isComment : Bool
  deriving DecidableEq, Repr, Inhabited

namespace Marked

/-- The characters that are not comment. -/
def kept (marks : List Marked) : Text := (marks.filter (!·.isComment)).map char

@[simp] theorem kept_nil : kept [] = [] := rfl

@[simp] theorem kept_cons_comment (c : Char) (marks : List Marked) :
    kept (⟨c, true⟩ :: marks) = kept marks := rfl

@[simp] theorem kept_cons_code (c : Char) (marks : List Marked) :
    kept (⟨c, false⟩ :: marks) = c :: kept marks := rfl

@[simp] theorem kept_append (marks more : List Marked) :
    kept (marks ++ more) = kept marks ++ kept more := by
  simp [kept]

/-- Marking a text does not change it. -/
theorem map_char_map (isComment : Bool) (t : Text) :
    (t.map (⟨·, isComment⟩ : Char → Marked)).map char = t := by
  rw [List.map_map]
  exact List.map_id t

@[simp] theorem kept_map_comment (t : Text) : kept (t.map (⟨·, true⟩)) = [] := by
  simp [kept]

/-! ## Marks by position -/

/-- A text that starts at byte `pos`, marked by the bytes that a comment covers. -/
def byPosition (covers : Nat → Bool) : Nat → Text → List Marked
  | _, [] => []
  | pos, c :: t => ⟨c, covers pos⟩ :: byPosition covers (pos + c.utf8Size) t

theorem byPosition_append (covers : Nat → Bool) (pos : Nat) (s t : Text) :
    byPosition covers pos (s ++ t) =
      byPosition covers pos s ++ byPosition covers (pos + Text.byteLength s) t := by
  induction s generalizing pos with
  | nil => rfl
  | cons c s ih =>
    rw [List.cons_append, byPosition, byPosition, ih, Text.byteLength_cons, Nat.add_assoc]
    rfl

/-- Only the bytes of the text matter for its marks. -/
theorem byPosition_congr {covers covers' : Nat → Bool} {pos : Nat} {t : Text}
    (h : ∀ n, pos ≤ n → n < pos + Text.byteLength t → covers n = covers' n) :
    byPosition covers pos t = byPosition covers' pos t := by
  induction t generalizing pos with
  | nil => rfl
  | cons c t ih =>
    have hc : 0 < c.utf8Size := c.utf8Size_pos
    rw [Text.byteLength_cons] at h
    have hhead : covers pos = covers' pos := h pos (Nat.le_refl pos) (by omega)
    have htail : byPosition covers (pos + c.utf8Size) t =
        byPosition covers' (pos + c.utf8Size) t :=
      ih fun n hle hlt => h n (by omega) (by omega)
    rw [byPosition, byPosition, hhead, htail]

/-- Where everything is covered, everything is comment. -/
theorem byPosition_true (pos : Nat) (t : Text) :
    byPosition (fun _ => true) pos t = t.map (⟨·, true⟩) := by
  induction t generalizing pos with
  | nil => rfl
  | cons c t ih => rw [byPosition, ih, List.map_cons]

/-! ## The spans of the comments -/

/-- The spans of the comments in a marked text that starts at byte `pos`. -/
inductive HasSpans : Nat → List Marked → List Span → Prop where
  | nil (pos : Nat) : HasSpans pos [] []
  | code {pos : Nat} {c : Char} {marks : List Marked} {spans : List Span} :
    HasSpans (pos + c.utf8Size) marks spans → HasSpans pos (⟨c, false⟩ :: marks) spans
  | comment {start stop : Nat} {inside : Text} {marks : List Marked} {spans : List Span} :
    start + Text.byteLength inside = stop → HasSpans stop marks spans →
      HasSpans start (inside.map (⟨·, true⟩) ++ marks) (⟨start, stop⟩ :: spans)

namespace HasSpans

variable {pos : Nat} {marks : List Marked} {spans : List Span}

/-- In front of the text nothing is covered. -/
theorem covers_of_lt (h : HasSpans pos marks spans) {n : Nat} (hn : n < pos) :
    (Extent.spans spans).covers n = false := by
  induction h with
  | nil => rfl
  | code _ ih => exact ih (by omega)
  | @comment start stop inside marks spans hstop _ ih =>
    have hhead : (Span.mk start stop).contains n = false := by
      simp [Span.contains, Nat.not_le.2 hn]
    have htail : (Extent.spans spans).covers n = false := ih (by omega)
    simp only [Extent.covers] at htail ⊢
    rw [List.any_cons, hhead, htail]
    rfl

/-- The spans of a text cover its comments and nothing else. -/
theorem byPosition_eq (h : HasSpans pos marks spans) :
    byPosition (Extent.spans spans).covers pos (marks.map char) = marks := by
  induction h with
  | nil => rfl
  | @code pos c marks spans h ih =>
    have hhead : (Extent.spans spans).covers pos = false :=
      h.covers_of_lt (Nat.lt_add_of_pos_right c.utf8Size_pos)
    rw [List.map_cons, byPosition, hhead, ih]
  | @comment start stop inside marks spans hstop _ ih =>
    have hinside : byPosition (Extent.spans (⟨start, stop⟩ :: spans)).covers start inside =
        inside.map (⟨·, true⟩) := by
      rw [← byPosition_true start]
      refine byPosition_congr fun n hle hlt => ?_
      simp only [Extent.covers, List.any_cons, Span.contains, hle, ← hstop, hlt]
      rfl
    have hbehind : byPosition (Extent.spans (⟨start, stop⟩ :: spans)).covers stop
        (marks.map char) = marks := by
      refine Eq.trans (byPosition_congr fun n hle _ => ?_) ih
      have hout : (Span.mk start stop).contains n = false := by
        simp [Span.contains, Nat.not_lt.2 hle]
      simp only [Extent.covers, List.any_cons, hout, Bool.false_or]
    rw [List.map_append, map_char_map, byPosition_append, hstop, hinside, hbehind]

/-- Cutting the spans of a text leaves what is not comment. -/
theorem cutAll_eq (h : HasSpans pos marks spans) {before : Text}
    (hbefore : Text.byteLength before = pos) :
    Span.cutAll spans (before ++ marks.map char) = before ++ kept marks := by
  induction h generalizing before with
  | nil => rfl
  | @code pos c marks spans _ ih =>
    have hstep := @ih (before ++ [c]) (by simp [hbefore])
    simpa using hstep
  | @comment start stop inside marks spans hstop _ ih =>
    have htail := @ih (before ++ inside) (by rw [Text.byteLength_append, hbefore, hstop])
    rw [List.append_assoc, List.append_assoc] at htail
    rw [List.map_append, map_char_map, Span.cutAll_cons, htail,
      Span.cut_append hbefore hstop, kept_append, kept_map_comment, List.nil_append]

end HasSpans

end Marked

/-- A line, marked by what was found in it. -/
def Finding.mark (f : Finding) (line : Text) : List Marked :=
  Marked.byPosition f.extent.covers 0 line

end Comment

end TextIntake
