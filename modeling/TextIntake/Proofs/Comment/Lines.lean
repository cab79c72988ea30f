import TextIntake.Proofs.Comment.CStyle

set_option autoImplicit false

/-!
# Scanning line after line

A scanner reads the lines of a text one after the other and carries over only whether
a block comment is open.  For C-style comments that is enough: line by line it finds
what the reader finds in one go through the lines joined by line feeds.

Main statement: `markLines_eq_readText`.
-/

namespace TextIntake.Comment

namespace Scanner

/-- What is found in each of the lines. -/
def findings : Scanner → List Text → List Finding
  | _, [] => []
  | s, line :: lines => (s.scan line).1 :: findings (s.scan line).2 lines

/-- The scanner behind the last of the lines. -/
def after : Scanner → List Text → Scanner
  | s, [] => s
  | s, line :: lines => after (s.scan line).2 lines

/-- Whether a block comment is open. -/
def inBlock : Scanner → Bool
  | cStyle inBlock => inBlock
  | absent | hash | batch => false

/-- The lines joined by line feeds, marked by what is found in each of them; a line feed
is comment when a block comment is open there. -/
def markLines : Scanner → List Text → List Marked
  | _, [] => []
  | s, [line] => (s.scan line).1.mark line
  | s, line :: lines =>
    (s.scan line).1.mark line ++
      ⟨'\n', (s.scan line).2.inBlock⟩ :: markLines (s.scan line).2 lines

theorem markLines_cons_cons (s : Scanner) (line next : Text) (lines : List Text) :
    s.markLines (line :: next :: lines) =
      (s.scan line).1.mark line ++
        ⟨'\n', (s.scan line).2.inBlock⟩ :: (s.scan line).2.markLines (next :: lines) := rfl

end Scanner

open CStyle

/-- A scanner of C-style lines stands behind a line where the reader stands. -/
theorem scan_cStyle_snd (inBlock : Bool) (line : Text) :
    ((Scanner.cStyle inBlock).scan line).2 =
      .cStyle ((Place.atLine inBlock).afterLine line == .block) :=
  congrArg Scanner.cStyle (inBlock_scanLine inBlock line)

theorem newLine_eq_atLine (p : Place) : p.newLine = .atLine (p == .block) := by
  cases p <;> rfl

/-- Read line by line or as one text, from the same place on: the same characters are
comment, and behind the last line the same block comment is open. -/
theorem readText_intercalate {lines : List Text} (hlines : ∀ line ∈ lines, '\n' ∉ line)
    (inBlock : Bool) :
    (Place.atLine inBlock).readText (['\n'].intercalate lines) =
        (Scanner.cStyle inBlock).markLines lines ∧
      (Scanner.cStyle inBlock).after lines =
        .cStyle ((Place.atLine inBlock).afterText (['\n'].intercalate lines) == .block) := by
  induction lines generalizing inBlock with
  | nil => cases inBlock <;> exact ⟨rfl, rfl⟩
  | cons line lines ih =>
    have hline : '\n' ∉ line := hlines line List.mem_cons_self
    have hmark := mark_scan_cStyle inBlock line
    have hscan := scan_cStyle_snd inBlock line
    cases lines with
    | nil =>
      obtain ⟨hread, hafter⟩ := Place.readText_line hline (.atLine inBlock)
      rw [List.intercalate_singleton, hread, hafter, Scanner.markLines, hmark, Scanner.after, hscan]
      exact ⟨rfl, rfl⟩
    | cons next lines =>
      obtain ⟨hread, hafter⟩ := Place.readText_line_append hline (.atLine inBlock)
        (['\n'].intercalate (next :: lines))
      have hlines' : ∀ line ∈ next :: lines, '\n' ∉ line := fun line' hline' =>
        hlines line' (List.mem_cons_of_mem line hline')
      obtain ⟨hmarks, hbehind⟩ := ih hlines' ((Place.atLine inBlock).afterLine line == .block)
      rw [List.intercalate_cons_cons, List.append_assoc, List.singleton_append, hread, hafter,
        newLine_eq_atLine, hmarks, Scanner.markLines_cons_cons, hmark, Scanner.after, hscan,
        hbehind]
      exact ⟨rfl, rfl⟩

/-- **One reading for all lines.**  Lines scanned one after the other from the start of a
text are marked as the reader marks them in one go through the text, and of each line
stripping takes away what is marked.  Behind any number of lines a block comment is open
when the reader stands in one. -/
theorem markLines_eq_readText (lines : List Text) (hlines : ∀ line ∈ lines, '\n' ∉ line) :
    (Scanner.cStyle false).markLines lines = Place.code.readText (['\n'].intercalate lines) ∧
      (∀ (inBlock : Bool) (line : Text),
        let finding := ((Scanner.cStyle inBlock).scan line).1
        finding.strip line = Marked.kept (finding.mark line)) ∧
      ∀ count, ((Scanner.cStyle false).after (lines.take count)).inBlock =
        (Place.code.afterText (['\n'].intercalate (lines.take count)) == .block) := by
  refine ⟨(readText_intercalate hlines false).1.symm, ?_, ?_⟩
  · intro inBlock line finding
    rw [mark_scan_cStyle, strip_scan_cStyle]
  · intro count
    have htake : ∀ line ∈ lines.take count, '\n' ∉ line := fun line hline =>
      hlines line (List.mem_of_mem_take hline)
    have hafter := (readText_intercalate htake false).2
    rw [hafter]
    rfl

/-- The lines `a/*/`, an empty one, `*//b` and `'\'/*'`: the first comment opens with a
slash that does not close it, and the quoted one does not open. -/
theorem markLines_of_overlapping_comments :
    let lines : List Text :=
      [['a', '/', '*', '/'], [], ['*', '/', '/', 'b'], ['\'', '\\', '\'', '/', '*', '\'']]
    (∀ line ∈ lines, '\n' ∉ line) ∧
      (Scanner.cStyle false).markLines lines =
        Place.code.readText (['\n'].intercalate lines) ∧
      (Scanner.cStyle false).after (lines.take 2) = .cStyle true ∧
      ((Scanner.cStyle false).after (lines.take 2)).inBlock =
        (Place.code.afterText (['\n'].intercalate (lines.take 2)) == .block) :=
  have h := markLines_eq_readText
    [['a', '/', '*', '/'], [], ['*', '/', '/', 'b'], ['\'', '\\', '\'', '/', '*', '\'']] (by decide)
  ⟨by decide, h.1, rfl, h.2.2 2⟩

end TextIntake.Comment
