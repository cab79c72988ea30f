import TextIntake.Proofs.Comment.Reader

set_option autoImplicit false

/-!
# What a scan of a C-style line finds

The scan collects spans of bytes and takes two characters at a time where a comment
opens or closes.  `Scans` lists its steps in terms of the reader; each part of what the
scan finds then follows by induction on them: its spans are those of the characters
that the reader takes for comment, and its flags tell whether there are characters of
either kind.

Main statements: `scans_scan`, `hasSpans_of_scans`, `inBlock_of_scans`,
`hasCode_of_scans` and `hasComment_of_scans`.
-/

namespace TextIntake.CStyle

open Comment (Marked)

/-- Where the reader stands when the scan is in a mode. -/
def Mode.place : Mode → Place
  | code => .code
  | block _ => .block
  | quoted quote escaped => .literal quote escaped

/-- What a scan finds in the rest of a line, by its first step. -/
inductive Scans : Mode → Nat → Text → Found → Prop where
  /-- the line ends outside of a block comment -/
  | done {mode : Mode} {pos : Nat} : mode.place ≠ .block → Scans mode pos [] {}
  /-- the line ends inside a block comment -/
  | unclosed {start pos : Nat} :
    Scans (.block start) pos [] { spans := [⟨start, pos⟩], inBlock := true }
  /-- a block comment closes -/
  | closed {start pos : Nat} {t : Text} {f : Found} : Scans .code (pos + 2) t f →
      Scans (.block start) pos ('*' :: '/' :: t) (f.withSpan ⟨start, pos + 2⟩)
  /-- a block comment goes on -/
  | inside {start pos : Nat} {c : Char} {t : Text} {f : Found} :
    ¬ (c = '*' ∧ t.head? = some '/') → Scans (.block start) (pos + c.utf8Size) t f →
      Scans (.block start) pos (c :: t) f
  /-- a comment takes the rest of the line -/
  | toEnd {pos : Nat} {t : Text} :
    Scans .code pos ('/' :: '/' :: t)
      { spans := [⟨pos, pos + 2 + Text.byteLength t⟩], hasComment := true }
  /-- a block comment opens -/
  | opened {pos : Nat} {t : Text} {f : Found} : Scans (.block pos) (pos + 2) t f →
      Scans .code pos ('/' :: '*' :: t) f.withComment
  /-- a character of code -/
  | code {pos : Nat} {c : Char} {t : Text} {mode : Mode} {f : Found} :
    Place.code.isComment c t.head? = false → mode.place = Place.code.step c t.head? →
      Scans mode (pos + c.utf8Size) t f →
      Scans .code pos (c :: t) (if Character.isBlank c then f else f.withCode)
  /-- a character of a literal -/
  | quoted {quote : Char} {escaped : Bool} {pos : Nat} {c : Char} {t : Text} {mode : Mode}
      {f : Found} :
    mode.place = (Place.literal quote escaped).step c t.head? →
      Scans mode (pos + c.utf8Size) t f → Scans (.quoted quote escaped) pos (c :: t) f

theorem isBlank_of_isQuote {c : Char} (h : isQuote c = true) : Character.isBlank c = false := by
  simp only [isQuote, Bool.or_eq_true, beq_iff_eq] at h
  rcases h with rfl | rfl <;> rfl

/-- That a pair of characters does not stand in front, in the words of the reader. -/
theorem not_pair {c d e : Char} {t : Text} (h : ∀ t', c = d → t = e :: t' → False) :
    ¬ (c = d ∧ t.head? = some e) := by
  rintro ⟨hc, ht⟩
  obtain ⟨t', rfl⟩ := List.head?_eq_some_iff.1 ht
  exact h t' hc rfl

/-- Blanks are neither quotes nor slashes. -/
theorem step_code_of_isBlank {c : Char} {next : Option Char} (h : Character.isBlank c = true) :
    Place.code.step c next = .code := by
  have hslash : c ≠ '/' := by
    rintro rfl
    cases h
  have hquote : ¬ isQuote c = true := by
    intro hquote
    rw [isBlank_of_isQuote hquote] at h
    cases h
  simp [Place.step, hslash, hquote]

/-- A character of code changes nothing but the flag for code. -/
theorem found_behind_code (c : Char) (f : Found) :
    let found := if Character.isBlank c then f else f.withCode
    found.spans = f.spans ∧ found.inBlock = f.inBlock ∧ found.hasComment = f.hasComment := by
  dsimp only
  split <;> exact ⟨rfl, rfl, rfl⟩

section

variable {pos : Nat} {c : Char} {t : Text} {f : Found}

/-- Where no comment opens, the reader goes on in code or in a literal. -/
theorem read_of_not_pair (hline : ¬ (c = '/' ∧ t.head? = some '/'))
    (hblock : ¬ (c = '/' ∧ t.head? = some '*')) :
    Place.code.isComment c t.head? = false ∧
      Place.code.step c t.head? = if isQuote c then .literal c false else .code := by
  refine ⟨?_, by rw [Place.step, if_neg hline, if_neg hblock]⟩
  simp only [Place.isComment, Bool.and_eq_false_imp, beq_iff_eq, Bool.or_eq_false_iff,
    beq_eq_false_iff_ne]
  exact fun hc => ⟨fun h => hline ⟨hc, h⟩, fun h => hblock ⟨hc, h⟩⟩

theorem Scans.quote (hline : ¬ (c = '/' ∧ t.head? = some '/'))
    (hblock : ¬ (c = '/' ∧ t.head? = some '*')) (hquote : isQuote c = true)
    (h : Scans (.quoted c false) (pos + c.utf8Size) t f) : Scans .code pos (c :: t) f.withCode := by
  obtain ⟨hread, hstep⟩ := read_of_not_pair hline hblock
  rw [if_pos hquote] at hstep
  have hscans := @Scans.code pos c t (.quoted c false) f hread hstep.symm h
  rwa [isBlank_of_isQuote hquote] at hscans

theorem Scans.plain (hline : ¬ (c = '/' ∧ t.head? = some '/'))
    (hblock : ¬ (c = '/' ∧ t.head? = some '*')) (hquote : ¬ isQuote c = true)
    (h : Scans .code (pos + c.utf8Size) t f) :
    Scans .code pos (c :: t) (if Character.isBlank c then f else f.withCode) := by
  obtain ⟨hread, hstep⟩ := read_of_not_pair hline hblock
  rw [if_neg hquote] at hstep
  exact @Scans.code pos c t .code f hread hstep.symm h

end

/-- The steps of a scan are those listed. -/
theorem scans_scan (mode : Mode) (pos : Nat) (t : Text) : Scans mode pos t (scan mode pos t) := by
  fun_induction scan mode pos t with
  | case1 => exact .unclosed
  | case2 mode pos hmode =>
    refine .done fun hplace => ?_
    cases mode with
    | block start => exact hmode start rfl
    | _ => cases hplace
  | case3 start pos t ih => exact .closed ih
  | case4 start pos c t hpair ih => exact .inside (not_pair hpair) ih
  | case5 quote pos c t ih => exact .quoted rfl ih
  | case6 quote pos t ih => exact .quoted rfl ih
  | case7 pos c t hescape ih => exact .quoted (by simp [Place.step, hescape, Mode.place]) ih
  | case8 quote pos c t hescape hquote ih =>
    exact .quoted (by simp [Place.step, hescape, hquote, Mode.place]) ih
  | case9 pos t => exact .toEnd
  | case10 pos t ih => exact .opened ih
  | case11 pos c t hline hblock hquote ih =>
    exact .quote (not_pair hline) (not_pair hblock) hquote ih
  | case12 pos c t hline hblock hquote hblank ih =>
    have hscans := Scans.plain (not_pair hline) (not_pair hblock) hquote ih
    rwa [if_pos hblank] at hscans
  | case13 pos c t hline hblock hquote hblank ih =>
    have hscans := Scans.plain (not_pair hline) (not_pair hblock) hquote ih
    rwa [if_neg hblank] at hscans

/-! ## Spans -/

/-- The part `inside` of a line, from byte `start` up to `pos`, is what a mode has left in
an open block comment. -/
inductive Mode.LeftOpen : Mode → Nat → Text → Nat → Prop where
  | block {start pos : Nat} (inside : Text) : start + Text.byteLength inside = pos →
      LeftOpen (.block start) start inside pos
  | outside {mode : Mode} {pos : Nat} : mode.place ≠ .block → LeftOpen mode pos [] pos

theorem step_ne_block_of_kept {p : Place} {c : Char} {next : Option Char}
    (h : p.isComment c next = false) : p.step c next ≠ .block := by
  intro hblock
  have hresume := (Place.resume_eq_of_kept h).2
  rw [hblock] at hresume
  cases hresume

/-- The spans are those of the characters that the reader takes for comment.  A block
comment becomes a span only where it closes, so what the scan has passed of it is kept in
front of the rest of the line until then. -/
theorem hasSpans_of_scans {mode : Mode} {front pos : Nat} {inside t : Text} {f : Found}
    (h : Scans mode pos t f) (hopen : mode.LeftOpen front inside pos) :
    Marked.HasSpans front (inside.map (⟨·, true⟩) ++ mode.place.readLine t) f.spans := by
  induction h generalizing front inside with
  | done hmode =>
    cases hopen with
    | block => exact absurd rfl hmode
    | outside => exact .nil _
  | unclosed =>
    cases hopen with
    | block _ hpos => exact .comment hpos (.nil _)
    | outside hmode => exact absurd rfl hmode
  | @closed start pos t f _ ih =>
    cases hopen with
    | block _ hpos =>
      have hstop : start + Text.byteLength (inside ++ ['*', '/']) = pos + 2 := by
        rw [Text.byteLength_append, ← Nat.add_assoc, hpos]
        rfl
      rw [Mode.place, Place.readLine_closed, ← List.append_assoc, ← List.map_append]
      exact .comment hstop (ih (.outside Place.noConfusion))
    | outside hmode => exact absurd rfl hmode
  | @inside start pos c t f hpair _ ih =>
    cases hopen with
    | block _ hpos =>
      have hopen' : (Mode.block start).LeftOpen start (inside ++ [c]) (pos + c.utf8Size) :=
        .block _ (by rw [Text.byteLength_append, ← Nat.add_assoc, hpos]; rfl)
      have hspans := ih hopen'
      rw [List.map_append, List.append_assoc] at hspans
      rw [Mode.place, Place.readLine, Place.step_block_of_not_pair hpair]
      exact hspans
    | outside hmode => exact absurd rfl hmode
  | @toEnd pos t =>
    cases hopen with
    | outside =>
      have hstop : pos + Text.byteLength ('/' :: '/' :: t) = pos + 2 + Text.byteLength t := by
        have hslash : '/'.utf8Size = 1 := rfl
        simp only [Text.byteLength_cons, hslash]
        omega
      have hspans := Marked.HasSpans.comment hstop (.nil _)
      rwa [List.append_nil, ← Place.readLine_toEnd] at hspans
  | @opened pos t f _ ih =>
    cases hopen with
    | outside =>
      rw [Mode.place, Place.readLine_opened]
      exact ih (.block ['/', '*'] rfl)
  | @code pos c t mode f hread hstep _ ih =>
    cases hopen with
    | outside =>
      have hne : mode.place ≠ .block := hstep ▸ step_ne_block_of_kept hread
      rw [Mode.place, Place.readLine, hread, ← hstep, (found_behind_code c f).1]
      exact .code (ih (.outside hne))
  | @quoted quote escaped pos c t mode f hstep _ ih =>
    cases hopen with
    | outside =>
      have hne : mode.place ≠ .block := hstep ▸ step_ne_block_of_kept rfl
      rw [Mode.place, Place.readLine, ← hstep]
      exact .code (ih (.outside hne))

/-! ## Flags -/

section

variable {mode : Mode} {pos : Nat} {t : Text} {f : Found}

/-- A block comment is open behind the line when the reader stands in one. -/
theorem inBlock_of_scans (h : Scans mode pos t f) :
    f.inBlock = (mode.place.afterLine t == .block) := by
  induction h with
  | done hmode => exact (beq_false_of_ne hmode).symm
  | unclosed => rfl
  | closed _ ih => exact ih
  | inside hpair _ ih =>
    rw [Mode.place, Place.afterLine, Place.step_block_of_not_pair hpair]
    exact ih
  | @toEnd pos t =>
    have hafter : Place.code.afterLine ('/' :: '/' :: t) = .lineComment :=
      (Place.readLine_lineComment t).2
    rw [Mode.place, hafter]
    rfl
  | opened _ ih => exact ih
  | @code pos c t mode f _ hstep _ ih =>
    rw [Mode.place, Place.afterLine, ← hstep, (found_behind_code c f).2.1]
    exact ih
  | quoted hstep _ ih =>
    rw [Mode.place, Place.afterLine, ← hstep]
    exact ih

/-- There is code in a line that begins outside of literals when something remains of it
that is not blank. -/
theorem hasCode_of_scans (h : Scans mode pos t f)
    (hmode : mode.place = .code ∨ mode.place = .block) :
    f.hasCode = !Text.isBlank (Marked.kept (mode.place.readLine t)) := by
  induction h with
  | done => rfl
  | unclosed => rfl
  | closed _ ih => exact ih (.inl rfl)
  | inside hpair _ ih =>
    rw [Mode.place, Place.readLine, Place.step_block_of_not_pair hpair]
    exact ih (.inr rfl)
  | toEnd =>
    rw [Mode.place, Place.readLine_toEnd, Marked.kept_map_comment]
    rfl
  | opened _ ih => exact ih (.inr rfl)
  | @code pos c t mode f hread hstep _ ih =>
    rw [Mode.place, Place.readLine, hread, Marked.kept_cons_code]
    cases hblank : Character.isBlank c with
    | true =>
      -- no literal begins with a blank, so what is known of the rest applies
      have hplace : mode.place = .code := hstep.trans (step_code_of_isBlank hblank)
      have hcode := ih (.inl hplace)
      rw [hstep] at hcode
      rw [if_pos rfl, hcode, Text.isBlank, Text.isBlank, List.all_cons, hblank, Bool.true_and]
    | false =>
      rw [Text.isBlank, List.all_cons, hblank]
      rfl
  | quoted => rcases hmode with hmode | hmode <;> cases hmode

/-- A comment begins in a line, or in the rest of one behind code, when a character of it
is comment. -/
theorem hasComment_of_scans (h : Scans mode pos t f) (hmode : mode.place ≠ .block) :
    f.hasComment = (mode.place.readLine t).any Marked.isComment := by
  induction h with
  | done => rfl
  | unclosed => exact absurd rfl hmode
  | closed => exact absurd rfl hmode
  | inside => exact absurd rfl hmode
  | toEnd => rfl
  | opened => rfl
  | @code pos c t mode f hread hstep _ ih =>
    rw [Mode.place, Place.readLine, hread, ← hstep, (found_behind_code c f).2.2]
    exact ih (hstep ▸ step_ne_block_of_kept hread)
  | quoted hstep _ ih =>
    rw [Mode.place, Place.readLine, ← hstep]
    exact ih (hstep ▸ step_ne_block_of_kept rfl)

/-- Without comment there are no spans. -/
theorem spans_eq_nil_of_scans (h : Scans mode pos t f) (hmode : mode.place ≠ .block)
    (hcomment : f.hasComment = false) : f.spans = [] := by
  induction h with
  | done => rfl
  | unclosed => exact absurd rfl hmode
  | closed => exact absurd rfl hmode
  | inside => exact absurd rfl hmode
  | toEnd => cases hcomment
  | opened => cases hcomment
  | @code pos c t mode f hread hstep _ ih =>
    obtain ⟨hspans, _, hflag⟩ := found_behind_code c f
    rw [hflag] at hcomment
    rw [hspans]
    exact ih (hstep ▸ step_ne_block_of_kept hread) hcomment
  | quoted hstep _ ih => exact ih (hstep ▸ step_ne_block_of_kept rfl) hcomment

end

/-! ## Whole lines -/

section

variable (inBlock : Bool) (line : Text)

theorem hasSpans_scanLine :
    Marked.HasSpans 0 ((Place.atLine inBlock).readLine line) (scanLine inBlock line).spans := by
  cases inBlock with
  | true => exact hasSpans_of_scans (scans_scan (.block 0) 0 line) (.block [] rfl)
  | false => exact hasSpans_of_scans (scans_scan .code 0 line) (.outside Place.noConfusion)

theorem inBlock_scanLine :
    (scanLine inBlock line).inBlock = ((Place.atLine inBlock).afterLine line == .block) := by
  cases inBlock with
  | true => exact inBlock_of_scans (scans_scan (.block 0) 0 line)
  | false => exact inBlock_of_scans (scans_scan .code 0 line)

theorem hasCode_scanLine :
    (scanLine inBlock line).hasCode =
      !Text.isBlank (Marked.kept ((Place.atLine inBlock).readLine line)) := by
  cases inBlock with
  | true => exact hasCode_of_scans (scans_scan (.block 0) 0 line) (.inr rfl)
  | false => exact hasCode_of_scans (scans_scan .code 0 line) (.inl rfl)

theorem hasComment_scanLine :
    (scanLine inBlock line).hasComment =
      (inBlock || ((Place.atLine inBlock).readLine line).any Marked.isComment) := by
  cases inBlock with
  | true => rfl
  | false => exact hasComment_of_scans (scans_scan .code 0 line) Place.noConfusion

end

end TextIntake.CStyle

namespace TextIntake.Comment

open CStyle

/-- A finding in a C-style line marks what the reader takes for comment, and stripping
takes away just that. -/
theorem mark_scan_cStyle (inBlock : Bool) (line : Text) :
    ((Scanner.cStyle inBlock).scan line).1.mark line = (Place.atLine inBlock).readLine line := by
  have hmarks := (hasSpans_scanLine inBlock line).byPosition_eq
  rwa [Place.map_char_readLine] at hmarks

theorem strip_scan_cStyle (inBlock : Bool) (line : Text) :
    ((Scanner.cStyle inBlock).scan line).1.strip line =
      Marked.kept ((Place.atLine inBlock).readLine line) := by
  have hcut := @Marked.HasSpans.cutAll_eq 0 _ _ (hasSpans_scanLine inBlock line) [] rfl
  rwa [Place.map_char_readLine] at hcut

end TextIntake.Comment
