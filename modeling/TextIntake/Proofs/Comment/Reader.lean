import TextIntake.Comment.CStyle
import TextIntake.Proofs.Comment.Marking

set_option autoImplicit false

/-!
# Reading C-style comments character by character

A reader goes through a text one character at a time, and looks at one more.  It
knows in which of six places it stands, and from the place and the two characters it
tells whether the character is comment and where it stands next.  At a line feed
only an open block comment goes on.

The same reader reads a single line, where a line feed means nothing.  Reading a line
again without its comments, from code on, meets no comment any more: a slash that
was kept in front of a removed character would have opened a comment itself.

Main statements: `readText_line`, `readText_line_append` and `readLine_kept`.
-/

namespace TextIntake.CStyle

open Comment (Marked)

/-- Where in a text the reader stands. -/
inductive Place where
  | code
  /-- behind `//` -/
  | lineComment
  /-- between the two characters of `/*` -/
  | opening
  /-- behind `/*` -/
  | block
  /-- between the two characters of `*/` -/
  | closing
  /-- inside a literal; `escaped` when a backslash stands in front -/
  | literal (quote : Char) (escaped : Bool)
  deriving DecidableEq, Repr, Inhabited

namespace Place

/-! ## One character -/

/-- Whether a character of a line is comment, given the character behind it. -/
def isComment : Place → Char → Option Char → Bool
  | code, c, next => c == '/' && (next == some '/' || next == some '*')
  | literal _ _, _, _ => false
  | lineComment, _, _ | opening, _, _ | block, _, _ | closing, _, _ => true

/-- The place behind a character of a line, given the character behind it. -/
def step : Place → Char → Option Char → Place
  | code, c, next =>
    if c = '/' ∧ next = some '/' then lineComment
    else if c = '/' ∧ next = some '*' then opening
    else if isQuote c then literal c false
    else code
  | lineComment, _, _ => lineComment
  | opening, _, _ => block
  | block, c, next => if c = '*' ∧ next = some '/' then closing else block
  | closing, _, _ => code
  | literal quote true, _, _ => literal quote false
  | literal quote false, c, _ =>
    if c = '\\' then literal quote true
    else if c = quote then code
    else literal quote false

/-- The place behind a line feed. -/
def newLine : Place → Place
  | block => block
  | _ => code

/-- The place at the start of a line, by whether a block comment is open there. -/
def atLine (inBlock : Bool) : Place := if inBlock then block else code

/-! ## Lines and texts -/

/-- A line as it is read from a place on. -/
def readLine : Place → Text → List Marked
  | _, [] => []
  | p, c :: t => ⟨c, p.isComment c t.head?⟩ :: readLine (p.step c t.head?) t

/-- The place behind a line. -/
def afterLine : Place → Text → Place
  | p, [] => p
  | p, c :: t => afterLine (p.step c t.head?) t

/-- A text of many lines as it is read from a place on. -/
def readText : Place → Text → List Marked
  | _, [] => []
  | p, c :: t =>
    if c = '\n' then ⟨c, p == block⟩ :: readText p.newLine t
    else ⟨c, p.isComment c t.head?⟩ :: readText (p.step c t.head?) t

/-- The place behind a text of many lines. -/
def afterText : Place → Text → Place
  | p, [] => p
  | p, c :: t =>
    if c = '\n' then afterText p.newLine t else afterText (p.step c t.head?) t

/-- Reading marks the characters of a line and leaves them as they are. -/
theorem map_char_readLine (p : Place) (t : Text) : (p.readLine t).map Marked.char = t := by
  induction t generalizing p with
  | nil => rfl
  | cons c t ih => rw [readLine, List.map_cons, ih]

/-! ## Where comments open and close -/

theorem readLine_lineComment (t : Text) :
    lineComment.readLine t = t.map (⟨·, true⟩) ∧ lineComment.afterLine t = lineComment := by
  induction t with
  | nil => exact ⟨rfl, rfl⟩
  | cons c t ih =>
    obtain ⟨hread, hafter⟩ := ih
    have hstep : lineComment.step c t.head? = lineComment := rfl
    rw [readLine, afterLine, hstep, hread, hafter]
    exact ⟨rfl, rfl⟩

theorem readLine_toEnd (t : Text) :
    code.readLine ('/' :: '/' :: t) = ('/' :: '/' :: t).map (⟨·, true⟩) := by
  rw [List.map_cons, List.map_cons, ← (readLine_lineComment t).1]
  rfl

theorem readLine_opened (t : Text) :
    code.readLine ('/' :: '*' :: t) = ['/', '*'].map (⟨·, true⟩) ++ block.readLine t := rfl

theorem readLine_closed (t : Text) :
    block.readLine ('*' :: '/' :: t) = ['*', '/'].map (⟨·, true⟩) ++ code.readLine t := rfl

theorem step_block_of_not_pair {c : Char} {next : Option Char}
    (h : ¬ (c = '*' ∧ next = some '/')) : block.step c next = block := if_neg h

/-! ## A line inside a text -/

/-- A line feed behind a character tells as little as the end of the text. -/
theorem isComment_lineFeed (p : Place) (c : Char) :
    p.isComment c (some '\n') = p.isComment c none := by
  cases p <;> simp [isComment]

theorem step_lineFeed (p : Place) (c : Char) : p.step c (some '\n') = p.step c none := by
  cases p with
  | literal quote escaped => cases escaped <;> rfl
  | _ => simp [step]

theorem head?_append_of_ends {t rest : Text} (hrest : rest.head? = none ∨ rest.head? = some '\n') :
    (t ++ rest).head? = t.head? ∨ (t.head? = none ∧ (t ++ rest).head? = some '\n') := by
  cases t with
  | nil =>
    rcases hrest with hrest | hrest
    · exact .inl hrest
    · exact .inr ⟨rfl, hrest⟩
  | cons c t => exact .inl rfl

/-- What stands behind the end of a line makes no difference to its last character. -/
theorem isComment_append {t rest : Text} (hrest : rest.head? = none ∨ rest.head? = some '\n')
    (p : Place) (c : Char) : p.isComment c (t ++ rest).head? = p.isComment c t.head? := by
  rcases head?_append_of_ends hrest with hhead | ⟨hnone, hfeed⟩
  · rw [hhead]
  · rw [hnone, hfeed, isComment_lineFeed]

theorem step_append {t rest : Text} (hrest : rest.head? = none ∨ rest.head? = some '\n')
    (p : Place) (c : Char) : p.step c (t ++ rest).head? = p.step c t.head? := by
  rcases head?_append_of_ends hrest with hhead | ⟨hnone, hfeed⟩
  · rw [hhead]
  · rw [hnone, hfeed, step_lineFeed]

section

variable {line : Text}

/-- A line inside a text, in front of a line feed or the end, is read as if it stood alone. -/
theorem readText_append {rest : Text} (hline : '\n' ∉ line)
    (hrest : rest.head? = none ∨ rest.head? = some '\n') (p : Place) :
    p.readText (line ++ rest) = p.readLine line ++ (p.afterLine line).readText rest ∧
      p.afterText (line ++ rest) = (p.afterLine line).afterText rest := by
  induction line generalizing p with
  | nil => exact ⟨rfl, rfl⟩
  | cons c line ih =>
    rw [List.mem_cons, not_or] at hline
    obtain ⟨hread, hafter⟩ := ih hline.2 (p.step c line.head?)
    have hfeed : c ≠ '\n' := Ne.symm hline.1
    rw [List.cons_append, readText, afterText, if_neg hfeed, if_neg hfeed, isComment_append hrest,
      step_append hrest, hread, hafter]
    exact ⟨rfl, rfl⟩

/-- A text of one line is read as that line. -/
theorem readText_line (hline : '\n' ∉ line) (p : Place) :
    p.readText line = p.readLine line ∧ p.afterText line = p.afterLine line := by
  obtain ⟨hread, hafter⟩ := @readText_append line [] hline (.inl rfl) p
  rw [List.append_nil] at hread hafter
  exact ⟨hread.trans (List.append_nil _), hafter⟩

/-- Behind a line in front of further ones the line feed is read. -/
theorem readText_line_append (hline : '\n' ∉ line) (p : Place) (rest : Text) :
    p.readText (line ++ '\n' :: rest) =
        p.readLine line ++
          ⟨'\n', p.afterLine line == block⟩ :: (p.afterLine line).newLine.readText rest ∧
      p.afterText (line ++ '\n' :: rest) = (p.afterLine line).newLine.afterText rest :=
  readText_append hline (.inr rfl) p

end

/-! ## Reading a line without its comments -/

/-- Where the reader stands once the comments are gone: outside of them. -/
def resume : Place → Place
  | literal quote escaped => literal quote escaped
  | _ => code

/-- A comment begins and ends in code. -/
theorem resume_step_of_isComment {p : Place} {c : Char} {next : Option Char}
    (h : p.isComment c next = true) : (p.step c next).resume = p.resume := by
  cases p with
  | code =>
    simp only [isComment, Bool.and_eq_true, beq_iff_eq, Bool.or_eq_true] at h
    obtain ⟨rfl, rfl | rfl⟩ := h <;> rfl
  | block =>
    simp only [step]
    split <;> rfl
  | literal quote escaped => cases h
  | _ => rfl

/-- In front of anything but a slash nothing is removed. -/
theorem head?_kept_of_ne_slash {t : Text} (h : t.head? ≠ some '/') :
    (Marked.kept (code.readLine t)).head? = t.head? := by
  cases t with
  | nil => rfl
  | cons c t =>
    have hc : code.isComment c t.head? = false := by
      have : c ≠ '/' := fun hc => h (congrArg some hc)
      simp [isComment, this]
    rw [readLine, hc]
    rfl

/-- The places in front of and behind a character that is kept lie outside of comments. -/
theorem resume_eq_of_kept {p : Place} {c : Char} {next : Option Char}
    (h : p.isComment c next = false) :
    p.resume = p ∧ (p.step c next).resume = p.step c next := by
  cases p with
  | code =>
    refine ⟨rfl, ?_⟩
    have hnext : ¬ (c = '/' ∧ next = some '/') ∧ ¬ (c = '/' ∧ next = some '*') := by
      constructor <;> rintro ⟨rfl, rfl⟩ <;> cases h
    rw [step, if_neg hnext.1, if_neg hnext.2]
    split <;> rfl
  | literal quote escaped =>
    refine ⟨rfl, ?_⟩
    cases escaped with
    | true => rfl
    | false =>
      rw [step]
      split
      · rfl
      split <;> rfl
  | _ => cases h

/-- A character that is kept reads the same once the comments behind it are gone. -/
theorem read_of_kept {p : Place} {c : Char} {t kept : Text} (h : p.isComment c t.head? = false)
    (hkept : Marked.kept ((p.step c t.head?).readLine t) = kept) :
    p.isComment c kept.head? = false ∧ p.step c kept.head? = p.step c t.head? := by
  cases p with
  | literal quote escaped => cases escaped <;> exact ⟨rfl, rfl⟩
  | code =>
    by_cases hc : c = '/'
    · -- the slash is kept, so no slash stands behind it
      subst hc
      simp only [isComment, beq_self_eq_true, Bool.true_and, Bool.or_eq_false_iff,
        beq_eq_false_iff_ne] at h
      have hstep : code.step '/' t.head? = code := by simp [step, h, isQuote]
      have hhead : kept.head? = t.head? := by
        rw [← hkept, hstep, head?_kept_of_ne_slash h.1]
      rw [hhead]
      exact ⟨by simp [isComment, h], rfl⟩
    · simp [isComment, step, hc]
  | _ => cases h

/-- **Nothing new.**  A line without its comments holds none, and behind it the reader
stands where it stood behind the line, unless that was inside a comment. -/
theorem readLine_kept (p : Place) (t : Text) :
    p.resume.readLine (Marked.kept (p.readLine t)) =
        (Marked.kept (p.readLine t)).map (⟨·, false⟩) ∧
      p.resume.afterLine (Marked.kept (p.readLine t)) = (p.afterLine t).resume := by
  induction t generalizing p with
  | nil => exact ⟨rfl, rfl⟩
  | cons c t ih =>
    obtain ⟨hread, hafter⟩ := ih (p.step c t.head?)
    cases hcomment : p.isComment c t.head? with
    | true =>
      -- the character is gone, and the reader waits where it was
      rw [resume_step_of_isComment hcomment] at hread hafter
      rw [readLine, hcomment, Marked.kept_cons_comment]
      exact ⟨hread, hafter⟩
    | false =>
      obtain ⟨hplace, hnext⟩ := resume_eq_of_kept hcomment
      obtain ⟨hkept, hstep⟩ := read_of_kept hcomment rfl
      rw [hnext] at hread hafter
      rw [readLine, hcomment, Marked.kept_cons_code, hplace, readLine, afterLine, hkept, hstep,
        hread, hafter]
      exact ⟨rfl, rfl⟩

end Place

end TextIntake.CStyle
