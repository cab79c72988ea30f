import TextIntake.Proofs.Line.Rewriting

set_option autoImplicit false

/-!
# What becomes of a document

A document is refused as too large, refused as binary, or split.  Which of these it is
depends on its lines alone: on how many there are, and on where the first binary character
stands among them.  A binary character is told by what stands around it, since a NUL is
none when it pads a carriage return and its line feed.  Lines are meant here as they are
written, whatever stands in them; every text has exactly one such list of lines.

Main statements: `binaryWithin_iff` and `ofBytes_verdict`.
-/

namespace TextIntake

/-- Cuts a text that is written in two ways, in front of the character `c`. -/
theorem Text.append_cons_eq_append {before after front rest : Text} {c : Char}
    (h : before ++ c :: after = front ++ rest) :
    (∃ inside, before ++ c :: inside = front ∧ after = inside ++ rest) ∨
      ∃ more, before = front ++ more ∧ more ++ c :: after = rest := by
  rcases List.append_eq_append_iff.1 h with ⟨more, hfront, hrest⟩ | ⟨more, hbefore, hrest⟩
  · cases more with
    | nil => exact .inr ⟨[], by simpa using hfront.symm, hrest⟩
    | cons d inside =>
      obtain ⟨rfl, rfl⟩ := List.cons.inj hrest
      exact .inl ⟨inside, hfront.symm, rfl⟩
  · exact .inr ⟨more, hbefore, hrest.symm⟩

/-- The characters that terminators are made of. -/
theorem Terminator.mem_chars {c : Char} (terminator : Terminator) (h : c ∈ terminator.chars) :
    c = '\n' ∨ c = '\r' ∨ c = '\x00' ∧ ∃ padding, terminator = carriageLineFeed padding := by
  cases terminator with
  | lineFeed => exact .inl (List.mem_singleton.1 h)
  | carriageReturn => exact .inr (.inl (List.mem_singleton.1 h))
  | endOfText => exact absurd h List.not_mem_nil
  | carriageLineFeed padding =>
    rw [chars, List.mem_cons, List.mem_append, List.mem_replicate, List.mem_singleton] at h
    rcases h with h | ⟨_, h⟩ | h
    · exact .inr (.inl h)
    · exact .inr (.inr ⟨h, padding, rfl⟩)
    · exact .inl h

namespace RawLine

/-! ## Binary characters by what stands around them -/

/-- A NUL between `before` and `after` is one of those, up to four, that stand between a
carriage return and a line feed. -/
def PadsBetween (before after : Text) : Prop :=
  ∃ m n, m + n < Terminator.maxPadding ∧ '\r' :: List.replicate m '\x00' <:+ before ∧
    Terminator.paddedLineFeed n <+: after

/-- The character `c` between `before` and `after` shows that the content is not text. -/
def BinaryBetween (before : Text) (c : Char) (after : Text) : Prop :=
  Character.isNoncharacter c = true ∨ (c = '\x00' ∧ ¬ PadsBetween before after)

/-- In the text of the lines a binary character stands within the first `limit` of them. -/
def BinaryWithin (limit : Nat) (lines : List RawLine) : Prop :=
  ∃ before c after, before ++ c :: after = written lines ∧
    before.length < (written (lines.take limit)).length ∧ BinaryBetween before c after

variable {line : RawLine} {lines : List RawLine} {before after : Text} {c : Char} {limit : Nat}

theorem BinaryBetween.isBinary (h : BinaryBetween before c after) : isBinary c = true := by
  rcases h with h | ⟨rfl, _⟩
  · rw [RawLine.isBinary, h, Bool.or_true]
  · rfl

/-- What stands further in front does not undo padding. -/
theorem PadsBetween.append (front : Text) (h : PadsBetween before after) :
    PadsBetween (front ++ before) after := by
  obtain ⟨m, n, hmn, hbefore, hafter⟩ := h
  exact ⟨m, n, hmn, hbefore.trans (List.suffix_append front before), hafter⟩

/-- A NUL that pads a carriage return and its line feed is not binary. -/
theorem padsBetween_of_terminator {padding : Nat} {front inside : Text} (content rest : Text)
    (hle : padding ≤ Terminator.maxPadding)
    (hchars : front ++ '\x00' :: inside = (Terminator.carriageLineFeed padding).chars) :
    PadsBetween (content ++ front) (inside ++ rest) := by
  cases front with
  | nil => cases hchars
  | cons d front =>
    obtain ⟨rfl, htail⟩ := List.cons.inj hchars
    rcases Text.append_cons_eq_append htail with ⟨zeros, hzeros, rfl⟩ | ⟨more, rfl, hmore⟩
    · obtain ⟨hcount, hfront, hbehind⟩ := List.append_eq_replicate_iff.1 hzeros
      rw [List.length_cons, List.replicate_succ, List.cons.injEq] at hbehind
      obtain ⟨_, hbehind⟩ := hbehind
      refine ⟨front.length, zeros.length, ?_, ?_, ?_⟩
      · rw [List.length_cons] at hcount
        omega
      · rw [← hfront]
        exact List.suffix_append content _
      · rw [Terminator.paddedLineFeed, ← hbehind]
        exact List.prefix_append _ rest
    · have hnul : '\x00' ∈ ['\n'] := by
        rw [← hmore]
        exact List.mem_append_right more List.mem_cons_self
      exact absurd (List.mem_singleton.1 hnul) (by decide)

/-- No character of a terminator is binary. -/
theorem not_binaryBetween_of_terminator {front inside content rest : Text}
    {terminator : Terminator} (hends : terminator.EndsBefore rest)
    (hchars : front ++ c :: inside = terminator.chars) :
    ¬ BinaryBetween (content ++ front) c (inside ++ rest) := by
  intro hbinary
  have hc : c ∈ terminator.chars := by
    rw [← hchars]
    exact List.mem_append_right front List.mem_cons_self
  rcases terminator.mem_chars hc with rfl | rfl | ⟨rfl, padding, rfl⟩
  · exact absurd hbinary.isBinary Bool.false_ne_true
  · exact absurd hbinary.isBinary Bool.false_ne_true
  · rcases hbinary with hbinary | ⟨_, hpads⟩
    · exact absurd hbinary Bool.false_ne_true
    · exact hpads (padsBetween_of_terminator content rest hends hchars)

/-- A binary character among the first lines stands inside one of them. -/
theorem any_hasBinary_of_binaryWithin (h : Ended lines) (hbinary : BinaryWithin limit lines) :
    (lines.take limit).any hasBinary = true := by
  induction lines generalizing limit with
  | nil =>
    obtain ⟨before, c, after, _, hlength, _⟩ := hbinary
    simp at hlength
  | cons line lines ih =>
    obtain ⟨before, c, after, htext, hlength, hbetween⟩ := hbinary
    obtain ⟨_, hfront, hlines⟩ := h
    obtain ⟨_, hends⟩ := (endsInFrontOf_iff hlines).1 hfront
    cases limit with
    | zero => simp at hlength
    | succ limit =>
      rw [List.take_succ_cons, written_cons] at hlength
      rw [List.take_succ_cons, List.any_cons, Bool.or_eq_true]
      rcases Text.append_cons_eq_append htext with ⟨inside, hinside, rfl⟩ | ⟨more, rfl, hmore⟩
      · left
        rcases Text.append_cons_eq_append hinside with ⟨rest, hcontent, _⟩ | ⟨more, rfl, hmore⟩
        · exact List.any_eq_true.2 ⟨c, by rw [← hcontent]; simp, hbetween.isBinary⟩
        · exact absurd hbetween (not_binaryBetween_of_terminator hends hmore)
      · right
        refine ih hlines ⟨more, c, after, hmore, ?_, ?_⟩
        · rw [List.length_append, List.length_append] at hlength
          omega
        · exact hbetween.imp_right fun ⟨hc, hpads⟩ => ⟨hc, fun h => hpads (h.append line.chars)⟩

theorem paddedLineFeed_add (m n : Nat) :
    Terminator.paddedLineFeed (m + n) =
      List.replicate m '\x00' ++ Terminator.paddedLineFeed n := by
  rw [Terminator.paddedLineFeed, Terminator.paddedLineFeed, ← List.replicate_append_replicate,
    List.append_assoc]

/-- A terminator in which only NULs follow a carriage return is the carriage return alone. -/
theorem eq_carriageReturn_of_zeros {terminator : Terminator} {front : Text} {n : Nat}
    (h : front ++ '\r' :: List.replicate n '\x00' = terminator.chars) :
    terminator = .carriageReturn ∧ n = 0 := by
  cases terminator with
  | lineFeed =>
    cases front <;> simp [Terminator.chars] at h
  | carriageReturn =>
    cases front with
    | nil => simpa [Terminator.chars] using h
    | cons d front => simp [Terminator.chars] at h
  | endOfText => simp [Terminator.chars] at h
  | carriageLineFeed padding =>
    have hfeed : '\n' ∈ front := by
      have hmem : '\n' ∈ (Terminator.carriageLineFeed padding).chars := by simp [Terminator.chars]
      rw [← h] at hmem
      simpa using hmem
    cases front with
    | nil => cases hfeed
    | cons d front =>
      obtain ⟨rfl, htail⟩ := List.cons.inj h
      have hreturn : '\r' ∈ List.replicate padding '\x00' ++ ['\n'] := by
        rw [← htail]
        exact List.mem_append_right front List.mem_cons_self
      simp at hreturn

/-- Padding does not reach back over the end of a line: it would be part of that end. -/
theorem PadsBetween.of_append (h : Ended (line :: lines))
    (htext : before ++ '\x00' :: after = written lines)
    (hpads : PadsBetween (line.chars ++ before) after) : PadsBetween before after := by
  obtain ⟨m, n, hmn, ⟨front, hfront⟩, behind, rfl⟩ := hpads
  obtain ⟨hkeeps, hends, _⟩ := h
  rcases Text.append_cons_eq_append hfront with ⟨inside, hinside, hzeros⟩ | ⟨more, _, hmore⟩
  · exfalso
    obtain ⟨hcount, hinside', hbefore⟩ := List.append_eq_replicate_iff.1 hzeros.symm
    rw [hinside'] at hinside
    rcases Text.append_cons_eq_append hinside with ⟨_, hcontent, _⟩ | ⟨more, _, hmore⟩
    · have hreturn : '\r' ∈ line.content := by
        rw [← hcontent]
        exact List.mem_append_right front List.mem_cons_self
      exact (hkeeps _ hreturn).2 rfl
    · obtain ⟨hterminator, hnone⟩ := eq_carriageReturn_of_zeros hmore
      rw [EndsInFrontOf, hterminator] at hends
      refine hends ⟨before.length + (1 + n), by omega, behind, ?_⟩
      rw [paddedLineFeed_add, ← hbefore, paddedLineFeed_add, ← htext]
      simp
  · exact ⟨m, n, hmn, ⟨more, hmore⟩, behind, rfl⟩

/-- A binary character inside one of the first lines is one of the text. -/
theorem binaryWithin_of_any_hasBinary (h : Ended lines)
    (hbinary : (lines.take limit).any hasBinary = true) : BinaryWithin limit lines := by
  induction lines generalizing limit with
  | nil => simp at hbinary
  | cons line lines ih =>
    cases limit with
    | zero => simp at hbinary
    | succ limit =>
      rw [List.take_succ_cons, List.any_cons, Bool.or_eq_true] at hbinary
      rcases hbinary with hbinary | hbinary
      · obtain ⟨c, hc, hbinary⟩ := List.any_eq_true.1 hbinary
        obtain ⟨before, inside, hcontent⟩ := List.append_of_mem hc
        refine ⟨before, c, inside ++ line.terminator.chars ++ written lines, ?_, ?_, ?_⟩
        · simp [chars, hcontent]
        · simp [chars, hcontent]
        · rcases Bool.or_eq_true_iff.1 hbinary with hnul | hnon
          · right
            refine ⟨by simpa using hnul, ?_⟩
            rintro ⟨m, n, _, hsuffix, _⟩
            have hreturn : '\r' ∈ line.content := by
              rw [hcontent]
              exact List.mem_append_left _ (hsuffix.subset List.mem_cons_self)
            exact (h.1 _ hreturn).2 rfl
          · exact .inl hnon
      · obtain ⟨before, c, after, htext, hlength, hbetween⟩ := ih h.2.2 hbinary
        refine ⟨line.chars ++ before, c, after, ?_, ?_, ?_⟩
        · rw [List.append_assoc, htext, written_cons]
        · rw [List.take_succ_cons, written_cons, List.length_append, List.length_append]
          omega
        · rcases hbetween with hnon | ⟨rfl, hpads⟩
          · exact .inl hnon
          · exact .inr ⟨rfl, fun hmore => hpads (hmore.of_append h htext)⟩

theorem binaryWithin_iff (h : Ended lines) :
    BinaryWithin limit lines ↔ (lines.take limit).any hasBinary = true :=
  ⟨any_hasBinary_of_binaryWithin h, binaryWithin_of_any_hasBinary h⟩

/-! ## Replaced characters -/

/-- U+FFFD ends no line, so where it stands in a text it stands inside a line. -/
theorem replacement_mem_written_iff (lines : List RawLine) :
    Character.replacement ∈ written lines ↔ lines.any hasReplacement = true := by
  rw [written, List.mem_flatMap, List.any_eq_true]
  refine exists_congr fun line => and_congr_right fun _ => ?_
  rw [hasReplacement, List.contains_iff_mem, chars, List.mem_append, or_iff_left]
  intro hmem
  rcases line.terminator.mem_chars hmem with h | h | ⟨h, _⟩
  · exact absurd h (by decide)
  · exact absurd h (by decide)
  · exact absurd h (by decide)

end RawLine

/-- A malformed sequence is shown as U+FFFD. -/
theorem Decoded.replacement_mem_text {d : Decoded} (h : d.hasErrors = true) :
    Character.replacement ∈ d.text := by
  obtain ⟨piece, hpiece, hnone⟩ := List.any_eq_true.1 h
  rw [Option.isNone_iff_eq_none] at hnone
  subst hnone
  exact List.mem_map.2 ⟨none, hpiece, rfl⟩

namespace Page

/-! ## Documents -/

/-- A split, decided by the lines of the document. -/
theorem ofBytes_of_written {e : Encoding} {bs : Bytes} {lines : List RawLine}
    (h : RawLine.Ended lines) (hwritten : RawLine.written lines = e.decodeText (e.unmarked bs))
    (limits : Limits) (r : LineFilter) (scanner : Comment.Scanner) :
    ofBytes e limits r scanner bs =
      if limits.maxBytes < (e.unmarked bs).length then .error .tooLarge
      else if (lines.take limits.maxLines).any RawLine.hasBinary then .error .binary
      else if limits.maxLines < lines.length then .error .tooLarge
      else .ok (ofRaws r scanner lines, scanner.after (lines.map RawLine.content)) := by
  rw [ofBytes_eq_map, rawLines, payload_eq_unmarked, ← hwritten, RawLine.cut_written h]
  split
  · rfl
  split
  · rfl
  split
  · rfl
  · rfl

/-- **The outcome of a split.**  The text behind the marker is written as one list of lines.
A document is too large when it has too many bytes, or too many lines and nothing binary in
those that may be read; it is binary when something binary stands in these; and otherwise it
is split into all its lines.  What is split is noted as incomplete when U+FFFD stands
anywhere in the text, and so whenever something could not be decoded, whatever becomes of the
line afterwards. -/
theorem ofBytes_verdict (e : Encoding) (limits : Limits) (r : LineFilter)
    (scanner : Comment.Scanner) (bs : Bytes) :
    ∃ lines,
      (∀ others, RawLine.Ended others ∧
        RawLine.written others = e.decodeText (e.unmarked bs) ↔ others = lines) ∧
      (ofBytes e limits r scanner bs = .error .tooLarge ↔
        limits.maxBytes < (e.unmarked bs).length ∨
          limits.maxLines < lines.length ∧ ¬ RawLine.BinaryWithin limits.maxLines lines) ∧
      (ofBytes e limits r scanner bs = .error .binary ↔
        (e.unmarked bs).length ≤ limits.maxBytes ∧
          RawLine.BinaryWithin limits.maxLines lines) ∧
      ((∃ page scanner', ofBytes e limits r scanner bs = .ok (page, scanner')) ↔
        (e.unmarked bs).length ≤ limits.maxBytes ∧ lines.length ≤ limits.maxLines ∧
          ¬ RawLine.BinaryWithin limits.maxLines lines) ∧
      ∀ page scanner', ofBytes e limits r scanner bs = .ok (page, scanner') →
        page.lineCount = lines.length ∧ page.lineCount ≤ limits.maxLines ∧
          (page.incomplete = true ↔ Character.replacement ∈ e.decodeText (e.unmarked bs)) ∧
          ((e.decode (e.unmarked bs)).hasErrors = true → page.incomplete = true) := by
  obtain ⟨lines, hended, hwritten⟩ := RawLine.exists_ended (e.decodeText (e.unmarked bs))
  have hverdict := ofBytes_of_written hended hwritten limits r scanner
  refine ⟨lines, ?lines, ?tooLarge, ?binary, ?split, ?page⟩
  case lines =>
    intro others
    constructor
    · rintro ⟨hothers, htext⟩
      exact hothers.unique hended (htext.trans hwritten.symm)
    · rintro rfl
      exact ⟨hended, hwritten⟩
  case page =>
    intro page scanner' h
    obtain ⟨_, raws, hwell, htext, hmany, rfl, _⟩ := ofBytes_eq_ok_iff.1 h
    obtain rfl : raws = lines :=
      (RawLine.wellEnded_iff.1 hwell).1.unique hended (htext.trans hwritten.symm)
    have hcount : (ofRaws r scanner raws).lineCount = raws.length :=
      Line.length_ofRaws r scanner raws
    have hreplaced : (ofRaws r scanner raws).incomplete = true ↔
        Character.replacement ∈ e.decodeText (e.unmarked bs) := by
      rw [← hwritten, RawLine.replacement_mem_written_iff]
      rfl
    refine ⟨hcount, hcount ▸ hmany, hreplaced, ?_⟩
    intro herrors
    exact hreplaced.2 (Decoded.replacement_mem_text herrors)
  case tooLarge | binary | split =>
    rw [hverdict, RawLine.binaryWithin_iff hended]
    rcases Nat.lt_or_ge limits.maxBytes (e.unmarked bs).length with hbytes | hbytes
    · simp [hbytes, Nat.not_le.2 hbytes]
    by_cases hbinary : (lines.take limits.maxLines).any RawLine.hasBinary = true
    · simp [hbytes, Nat.not_lt.2 hbytes, hbinary]
    rcases Nat.lt_or_ge limits.maxLines lines.length with hmany | hmany
    · simp [hbytes, Nat.not_lt.2 hbytes, hbinary, hmany, Nat.not_le.2 hmany]
    · simp [hbytes, Nat.not_lt.2 hbytes, hbinary, hmany, Nat.not_lt.2 hmany]

/-- The document `//`, a byte that is not UTF-8, CR, two NULs, LF, behind a marker: one line of
seven bytes, of which nothing is left but the note that something could not be decoded. -/
theorem ofBytes_verdict_of_stripped_replacement :
    let bs : Bytes := [0xEF, 0xBB, 0xBF, 0x2F, 0x2F, 0xFF, 0x0D, 0x00, 0x00, 0x0A]
    let page : Page := ⟨['\n'], [⟨0, 0, some 0, true⟩, ⟨1, 0, none, false⟩], 1, .dos, true⟩
    ofBytes .utf8 ⟨1, 7⟩ ⟨true, false, false⟩ (.cStyle false) bs = .ok (page, .cStyle false) ∧
      page.lineCount ≤ 1 ∧
      (page.incomplete = true ↔
        Character.replacement ∈ Encoding.utf8.decodeText (Encoding.utf8.unmarked bs)) ∧
      (Encoding.utf8.decode (Encoding.utf8.unmarked bs)).hasErrors = true ∧
      page.incomplete = true := by
  intro bs page
  have hpage : ofBytes .utf8 ⟨1, 7⟩ ⟨true, false, false⟩ (.cStyle false) bs =
      .ok (page, .cStyle false) := rfl
  have herrors : (Encoding.utf8.decode (Encoding.utf8.unmarked bs)).hasErrors = true := rfl
  obtain ⟨_, _, _, _, _, hsplit⟩ :=
    ofBytes_verdict .utf8 ⟨1, 7⟩ ⟨true, false, false⟩ (.cStyle false) bs
  obtain ⟨_, hcount, hreplaced, hincomplete⟩ := hsplit page (.cStyle false) hpage
  exact ⟨hpage, hcount, hreplaced, herrors, hincomplete herrors⟩

end Page

end TextIntake
