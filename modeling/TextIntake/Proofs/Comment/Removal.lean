import TextIntake.Proofs.Comment.CStyle
import TextIntake.Proofs.Comment.SingleLine

set_option autoImplicit false

/-!
# Comments are removed for good

What remains of a line holds no comment, whatever was removed from it.  The danger is in
the middle of a line: a comment goes, and what stood in front of it meets what stood
behind.  But a slash is never kept in front of a comment, so no two characters meet that
open another.

Main statement: `scan_strip`.
-/

namespace TextIntake

namespace CStyle.Place

open Comment (Marked)

/-- A literal stands between quotes. -/
def Genuine : Place → Prop
  | literal quote _ => isQuote quote = true
  | _ => True

theorem genuine_atLine (inBlock : Bool) : (atLine inBlock).Genuine := by
  cases inBlock <;> trivial

theorem Genuine.step {p : Place} (hp : p.Genuine) (c : Char) (next : Option Char) :
    (p.step c next).Genuine := by
  cases p with
  | code =>
    rw [Place.step]
    split
    · trivial
    split
    · trivial
    split
    · assumption
    · trivial
  | block =>
    rw [Place.step]
    split <;> trivial
  | literal quote escaped =>
    cases escaped with
    | true => exact hp
    | false =>
      rw [Place.step]
      split
      · exact hp
      split
      · trivial
      · exact hp
  | _ => trivial

/-- A slash that is kept has no comment behind it: in code it would have opened that
comment itself, and a literal does not end with it. -/
theorem ne_slash_of_kept {p : Place} {c d : Char} {next : Option Char} (hp : p.Genuine)
    (hc : p.isComment c (some d) = false) (hd : (p.step c (some d)).isComment d next = true) :
    c ≠ '/' := by
  rintro rfl
  cases p with
  | code =>
    simp only [isComment, beq_self_eq_true, Bool.true_and, Bool.or_eq_false_iff,
      beq_eq_false_iff_ne] at hc
    have hcode : code.step '/' (some d) = code := by simp [step, hc, isQuote]
    simp only [hcode, isComment, Bool.and_eq_true, beq_iff_eq] at hd
    exact hc.1 (congrArg some hd.1)
  | literal quote escaped =>
    have hliteral : ∃ escaped', (literal quote escaped).step '/' (some d) =
        literal quote escaped' := by
      cases escaped with
      | true => exact ⟨false, rfl⟩
      | false =>
        have hquote : '/' ≠ quote := by
          rintro rfl
          cases hp
        exact ⟨false, by simp [step, hquote]⟩
    obtain ⟨escaped', hstep⟩ := hliteral
    rw [hstep] at hd
    cases hd
  | _ => cases hc

/-- In a line that was read, no slash is kept in front of a comment. -/
theorem ne_slash_of_readLine {p : Place} (hp : p.Genuine) {t : Text} {before after : List Marked}
    {c d : Char} (h : p.readLine t = before ++ ⟨c, false⟩ :: ⟨d, true⟩ :: after) : c ≠ '/' := by
  induction before generalizing p t with
  | nil =>
    match t with
    | [] => cases h
    | [e] => cases (List.cons.inj h).2
    | e :: e' :: t =>
      simp only [readLine, List.nil_append, List.cons.injEq, Marked.mk.injEq] at h
      obtain ⟨⟨rfl, hc⟩, ⟨rfl, hd⟩, _⟩ := h
      exact ne_slash_of_kept hp hc hd
  | cons m before ih =>
    cases t with
    | nil => cases h
    | cons e t =>
      have htail := (List.cons.inj h).2
      exact ih (hp.step e t.head?) htail

end CStyle.Place

namespace Comment

/-- Once what is comment has gone, the two characters stand side by side. -/
def Marked.Joins (marks : List Marked) (c d : Char) : Prop :=
  ∃ before gap after, gap ≠ [] ∧ (∀ m ∈ gap, m.isComment = true) ∧
    marks = before ++ ⟨c, false⟩ :: (gap ++ ⟨d, false⟩ :: after)

/-- A scanner of the same syntax in front of its first line. -/
def Scanner.fresh : Scanner → Scanner
  | cStyle _ => cStyle false
  | s => s

open CStyle (Place)

/-- Nothing is found in a line that the reader passes without a comment. -/
theorem scan_cStyle_of_readLine {line : Text}
    (hread : Place.code.readLine line = line.map (⟨·, false⟩))
    (hafter : Place.code.afterLine line ≠ .block) :
    (Scanner.cStyle false).scan line = ({}, .cStyle false) := by
  have hcomment : (CStyle.scanLine false line).hasComment = false := by
    have hmarks : (Place.atLine false).readLine line = line.map (⟨·, false⟩) := hread
    rw [CStyle.hasComment_scanLine, hmarks]
    simp
  have hspans : (CStyle.scanLine false line).spans = [] :=
    CStyle.spans_eq_nil_of_scans (CStyle.scans_scan .code 0 line) Place.noConfusion hcomment
  have hblock : (CStyle.scanLine false line).inBlock = false :=
    (CStyle.inBlock_scanLine false line).trans (beq_false_of_ne hafter)
  simp only [Scanner.scan, hcomment, hspans, hblock, Bool.false_and]

/-- A fresh scanner finds nothing in what remains of a line. -/
theorem scan_fresh_strip (s : Scanner) (line : Text) :
    s.fresh.scan ((s.scan line).1.strip line) = ({}, s.fresh) := by
  cases s with
  | absent => rfl
  | cStyle inBlock =>
    have hresume : (Place.atLine inBlock).resume = .code := by cases inBlock <;> rfl
    obtain ⟨hread, hafter⟩ := Place.readLine_kept (.atLine inBlock) line
    rw [hresume] at hread hafter
    rw [strip_scan_cStyle]
    refine scan_cStyle_of_readLine hread ?_
    rw [hafter]
    cases (Place.atLine inBlock).afterLine line <;> exact Place.noConfusion
  | hash =>
    rcases scan_hash_cases line with hnone | ⟨code, _, _, hcode, _, hstrip⟩
    · rw [hnone]
      exact hnone
    · rw [hstrip]
      simp only [Scanner.fresh, Scanner.scan, hcode]
  | batch =>
    rcases scan_batch_cases line with hnone | ⟨_, _, hstrip⟩
    · rw [hnone]
      exact hnone
    · rw [hstrip]
      rfl

/-- Characters that meet because a C-style comment between them went do not open another. -/
theorem not_opens_of_joins {inBlock : Bool} {line : Text} {c d : Char}
    (h : Marked.Joins (((Scanner.cStyle inBlock).scan line).1.mark line) c d) :
    ¬ (c = '/' ∧ (d = '/' ∨ d = '*')) := by
  obtain ⟨before, gap, after, hgap, hcomment, hmarks⟩ := h
  obtain ⟨⟨e, isComment⟩, gap, rfl⟩ := List.exists_cons_of_ne_nil hgap
  obtain rfl : isComment = true := hcomment _ List.mem_cons_self
  rw [mark_scan_cStyle] at hmarks
  intro hopens
  exact Place.ne_slash_of_readLine (Place.genuine_atLine inBlock) hmarks hopens.1

/-- **Nothing is left.**  In what remains of a line once its comments are removed, in
whatever state that was, a fresh scanner finds nothing: the line is not nothing but
comment, stripping it again changes nothing, and no block comment is open behind it.
Nor does the removal of a C-style comment let two characters meet that open another. -/
theorem scan_strip (s : Scanner) (line : Text) :
    let left := (s.scan line).1.strip line
    s.fresh.scan left = ({}, s.fresh) ∧ (s.fresh.scan left).1.strip left = left ∧
      ∀ inBlock, s = .cStyle inBlock → ∀ c d, Marked.Joins ((s.scan line).1.mark line) c d →
        ¬ (c = '/' ∧ (d = '/' ∨ d = '*')) := by
  intro left
  have hfresh : s.fresh.scan left = ({}, s.fresh) := scan_fresh_strip s line
  refine ⟨hfresh, ?_, ?_⟩
  · rw [hfresh]
    rfl
  · rintro inBlock rfl c d hjoins
    exact not_opens_of_joins hjoins

/-- The line `*/"/"/*b*/* //`, read inside a block comment: the literal with its slash and
the star meet. -/
theorem scan_strip_of_literal_before_comment :
    let line : Text := ['*', '/', '"', '/', '"', '/', '*', 'b', '*', '/', '*', ' ', '/', '/']
    let left : Text := ['"', '/', '"', '*', ' ']
    ((Scanner.cStyle true).scan line).1.strip line = left ∧
      (Scanner.cStyle false).scan left = ({}, .cStyle false) ∧
      Marked.Joins (((Scanner.cStyle true).scan line).1.mark line) '"' '*' ∧
      ¬ ('"' = '/' ∧ ('*' = '/' ∨ '*' = '*')) := by
  intro line left
  obtain ⟨hfresh, _, hjoins⟩ := scan_strip (.cStyle true) line
  have hmeet : Marked.Joins (((Scanner.cStyle true).scan line).1.mark line) '"' '*' :=
    ⟨[⟨'*', true⟩, ⟨'/', true⟩, ⟨'"', false⟩, ⟨'/', false⟩],
      ['/', '*', 'b', '*', '/'].map (⟨·, true⟩), [⟨' ', false⟩, ⟨'/', true⟩, ⟨'/', true⟩],
      by decide, by decide, rfl⟩
  exact ⟨rfl, hfresh, hmeet, hjoins true rfl '"' '*' hmeet⟩

end Comment

end TextIntake
