import TextIntake.Proofs.Comment.Marking

set_option autoImplicit false

/-!
# Comments within one line

A hash comment reaches to the end of its line, and a batch comment is a whole line.  A
scan of such a line either finds nothing or tells what stands in front of the comment;
that part holds no comment of its own.

Main statements: `scan_hash_cases` and `scan_batch_cases`.
-/

namespace TextIntake

namespace Hash

/-- A character either opens the comment or is passed by, whatever stands behind it. -/
theorem code?_cons (mode : Mode) (c : Char) :
    (mode = .code ∧ c = '#') ∨
      ∃ mode', ∀ t, code? mode (c :: t) = (code? mode' t).map (c :: ·) := by
  cases mode with
  | code =>
    by_cases hhash : c = '#'
    · exact .inl ⟨rfl, hhash⟩
    by_cases hquote : c = '"' ∨ c = '\''
    · exact .inr ⟨.quoted c false, fun t => by rw [code?, if_neg hhash, if_pos hquote]⟩
    · exact .inr ⟨.code, fun t => by rw [code?, if_neg hhash, if_neg hquote]⟩
  | quoted quote escaped =>
    cases escaped with
    | true => exact .inr ⟨.quoted quote false, fun t => rfl⟩
    | false =>
      by_cases hescape : c = '\\'
      · exact .inr ⟨.quoted quote true, fun t => by rw [code?, if_pos hescape]⟩
      by_cases hquote : c = quote
      · exact .inr ⟨.code, fun t => by rw [code?, if_neg hescape, if_pos hquote]⟩
      · exact .inr ⟨.quoted quote false, fun t => by rw [code?, if_neg hescape, if_neg hquote]⟩

/-- Behind the code stands the hash that opens the comment, and the code has none: on
the way to the hash the scan has passed no other. -/
theorem code?_eq_some {mode : Mode} {line code : Text} (h : code? mode line = some code) :
    (∃ comment, line = code ++ '#' :: comment) ∧ code? mode code = none := by
  induction line generalizing mode code with
  | nil => cases mode <;> cases h
  | cons c t ih =>
    rcases code?_cons mode c with ⟨rfl, rfl⟩ | ⟨mode', hstep⟩
    · obtain rfl : [] = code := Option.some.inj h
      exact ⟨⟨t, rfl⟩, rfl⟩
    · rw [hstep] at h
      obtain ⟨rest, hrest, rfl⟩ := Option.map_eq_some_iff.1 h
      obtain ⟨⟨comment, rfl⟩, hnone⟩ := ih hrest
      exact ⟨⟨comment, rfl⟩, by rw [hstep, hnone]; rfl⟩

end Hash

namespace Comment

/-- What a hash line is found to be: a line without a comment, or one whose comment is
all that stripping takes away. -/
theorem scan_hash_cases (line : Text) :
    Scanner.hash.scan line = ({}, .hash) ∨
      ∃ code comment, line = code ++ '#' :: comment ∧ Hash.codeOfLine? code = none ∧
        (Scanner.hash.scan line).1.pure = Text.isBlank code ∧
        (Scanner.hash.scan line).1.strip line = code := by
  simp only [Scanner.scan]
  cases hcode : Hash.codeOfLine? line with
  | none => exact .inl rfl
  | some code =>
    obtain ⟨⟨comment, rfl⟩, hnone⟩ := Hash.code?_eq_some hcode
    refine .inr ⟨code, comment, rfl, hnone, rfl, ?_⟩
    have hcut : (Span.mk (Text.byteLength code) (Text.byteLength (code ++ '#' :: comment))).cut
        (code ++ ('#' :: comment ++ [])) = code ++ [] :=
      Span.cut_append rfl (Text.byteLength_append code ('#' :: comment)).symm
    rwa [List.append_nil, List.append_nil] at hcut

/-- What a batch line is found to be: no comment, or nothing else. -/
theorem scan_batch_cases (line : Text) :
    Scanner.batch.scan line = ({}, .batch) ∨
      line ≠ [] ∧ (Scanner.batch.scan line).1.pure = true ∧
        (Scanner.batch.scan line).1.strip line = [] := by
  simp only [Scanner.scan]
  cases hcomment : Batch.isComment line with
  | false => exact .inl rfl
  | true =>
    refine .inr ⟨?_, rfl, rfl⟩
    rintro rfl
    cases hcomment

end Comment

end TextIntake
