import TextIntake.Proofs.Text.Inline

set_option autoImplicit false

/-!
# Where lines end

A text is written as a sequence of lines, each with the terminator behind it.
Not every sequence is the one that cutting finds: a lone carriage return must not
happen to stand in front of a line feed, and only the last line may go without a
terminator.  `Ended` says this from the last line backwards, in terms of the
characters alone, and every text is written as exactly one such sequence.  Its
lines are lines of text when besides no binary character stands in them, which
makes the sequence `WellEnded`.

Main statements: `cut_written`, what cutting makes of the lines that a text
consists of, and `cut_eq_ok_iff`, cutting finds exactly the well-ended sequence of
lines.
-/

namespace TextIntake

/-- A character that ends no line. -/
def Character.KeepsLine (c : Char) : Prop := c ≠ '\n' ∧ c ≠ '\r'

instance (c : Char) : Decidable (Character.KeepsLine c) := inferInstanceAs (Decidable (_ ∧ _))

namespace Terminator

/-- What a padded line feed looks like. -/
def paddedLineFeed (padding : Nat) : Text := List.replicate padding '\x00' ++ ['\n']

/-- The text begins with a line feed behind at most four NULs. -/
def BeginsPadded (t : Text) : Prop :=
  ∃ padding, padding ≤ maxPadding ∧ paddedLineFeed padding <+: t

instance (t : Text) : Decidable (BeginsPadded t) := inferInstanceAs (Decidable (∃ _, _ ≤ _ ∧ _))

/-- Whether a terminator can stand in front of `rest` and mean there what it says. -/
def EndsBefore (rest : Text) : Terminator → Prop
  | lineFeed => True
  | carriageLineFeed padding => padding ≤ maxPadding
  | carriageReturn => ¬ BeginsPadded rest
  | endOfText => rest = []

end Terminator

namespace RawLine

/-! ## Sequences of lines -/

/-- The characters of a line and of what ends it. -/
def chars (line : RawLine) : Text := line.content ++ line.terminator.chars

/-- The text that lines make up. -/
def written (lines : List RawLine) : Text := lines.flatMap chars

@[simp] theorem written_nil : written [] = [] := rfl

@[simp] theorem written_cons (line : RawLine) (lines : List RawLine) :
    written (line :: lines) = line.chars ++ written lines := rfl

/-- Whether a line can stand in front of further lines and end there as it says.  Only
the last line may go without a terminator, and then it is not empty. -/
def EndsInFrontOf (lines : List RawLine) (line : RawLine) : Prop :=
  match line.terminator with
  | .lineFeed => True
  | .carriageLineFeed padding => padding ≤ Terminator.maxPadding
  | .carriageReturn => ¬ Terminator.BeginsPadded (written lines)
  | .endOfText => lines = [] ∧ line.content ≠ []

/-- Every line ends as it says, whatever else stands in it. -/
def Ended : List RawLine → Prop
  | [] => True
  | line :: lines =>
    (∀ c ∈ line.content, Character.KeepsLine c) ∧ line.EndsInFrontOf lines ∧ Ended lines

/-- Every line is a line of text, and ends as it says. -/
def WellEnded : List RawLine → Prop
  | [] => True
  | line :: lines =>
    (∀ c ∈ line.content, Character.IsInline c) ∧ line.EndsInFrontOf lines ∧ WellEnded lines

instance : (lines : List RawLine) → (line : RawLine) → Decidable (line.EndsInFrontOf lines)
  | _, ⟨_, .lineFeed⟩ => inferInstanceAs (Decidable True)
  | _, ⟨_, .carriageLineFeed _⟩ => inferInstanceAs (Decidable (_ ≤ _))
  | _, ⟨_, .carriageReturn⟩ => inferInstanceAs (Decidable (¬ _))
  | _, ⟨_, .endOfText⟩ => inferInstanceAs (Decidable (_ ∧ _))

instance WellEnded.decidable : (lines : List RawLine) → Decidable (WellEnded lines)
  | [] => isTrue trivial
  | line :: lines =>
    -- looks at the characters of the line, not at all characters there are
    have : Decidable (∀ c ∈ line.content, Character.IsInline c) := List.decidableBAll _ _
    have := WellEnded.decidable lines
    inferInstanceAs (Decidable (_ ∧ _ ∧ _))

/-- Whether a binary character stands in a line. -/
def hasBinary (line : RawLine) : Bool := line.content.any isBinary

theorem isInline_content_iff {line : RawLine} :
    (∀ c ∈ line.content, Character.IsInline c) ↔
      (∀ c ∈ line.content, Character.KeepsLine c) ∧ line.hasBinary = false := by
  rw [hasBinary, List.any_eq_false]
  constructor
  · intro h
    refine ⟨fun c hc => ?_, fun c hc => ?_⟩
    · obtain ⟨hfeed, hreturn, _⟩ := Character.isInline_iff.1 (h c hc)
      exact ⟨hfeed, hreturn⟩
    · obtain ⟨_, _, hbinary⟩ := Character.isInline_iff.1 (h c hc)
      exact Bool.eq_false_iff.1 hbinary
  · rintro ⟨hkeeps, hbinary⟩ c hc
    obtain ⟨hfeed, hreturn⟩ := hkeeps c hc
    exact Character.isInline_iff.2 ⟨hfeed, hreturn, Bool.eq_false_iff.2 (hbinary c hc)⟩

/-- Well-ended lines are those that end as they say and hold nothing binary. -/
theorem wellEnded_iff {lines : List RawLine} :
    WellEnded lines ↔ Ended lines ∧ lines.any hasBinary = false := by
  induction lines with
  | nil => simp [WellEnded, Ended]
  | cons line lines ih =>
    rw [WellEnded, Ended, ih, isInline_content_iff, List.any_cons, Bool.or_eq_false_iff]
    constructor
    · rintro ⟨⟨hkeeps, hbinary⟩, hfront, hlines, hnone⟩
      exact ⟨⟨hkeeps, hfront, hlines⟩, hbinary, hnone⟩
    · rintro ⟨⟨hkeeps, hfront, hlines⟩, hbinary, hnone⟩
      exact ⟨⟨hkeeps, hbinary⟩, hfront, hlines, hnone⟩

theorem chars_eq_nil_iff {line : RawLine} :
    line.chars = [] ↔ line.content = [] ∧ line.terminator = .endOfText := by
  simp only [chars, List.append_eq_nil_iff]
  cases line.terminator <;> simp [Terminator.chars]

theorem EndsInFrontOf.chars_ne_nil {line : RawLine} {lines : List RawLine}
    (h : line.EndsInFrontOf lines) : line.chars ≠ [] := by
  intro hchars
  obtain ⟨hcontent, hterminator⟩ := chars_eq_nil_iff.1 hchars
  unfold EndsInFrontOf at h
  rw [hterminator] at h
  exact h.2 hcontent

theorem written_eq_nil_iff {lines : List RawLine} (h : Ended lines) :
    written lines = [] ↔ lines = [] := by
  cases lines with
  | nil => simp
  | cons line lines => simp [h.2.1.chars_ne_nil]

/-- Ending in front of lines is ending in front of their text, and not being nothing. -/
theorem endsInFrontOf_iff {line : RawLine} {lines : List RawLine} (h : Ended lines) :
    line.EndsInFrontOf lines ↔
      line.chars ≠ [] ∧ line.terminator.EndsBefore (written lines) := by
  obtain ⟨content, terminator⟩ := line
  cases terminator with
  | lineFeed => simp [EndsInFrontOf, Terminator.EndsBefore, chars, Terminator.chars]
  | carriageLineFeed padding =>
    simp [EndsInFrontOf, Terminator.EndsBefore, chars, Terminator.chars]
  | carriageReturn => simp [EndsInFrontOf, Terminator.EndsBefore, chars, Terminator.chars]
  | endOfText =>
    simp only [EndsInFrontOf, Terminator.EndsBefore, chars, Terminator.chars, List.append_nil,
      written_eq_nil_iff h]
    exact and_comm

/-! ## One line -/

theorem lineFeedAfterPadding?_eq_some_iff {budget padding : Nat} {t rest : Text} :
    lineFeedAfterPadding? budget t = some (padding, rest) ↔
      padding ≤ budget ∧ t = Terminator.paddedLineFeed padding ++ rest := by
  constructor
  · intro h
    fun_induction lineFeedAfterPadding? budget t generalizing padding with
    | case1 =>
      simp only [Option.some.injEq, Prod.mk.injEq] at h
      obtain ⟨rfl, rfl⟩ := h
      exact ⟨Nat.zero_le _, rfl⟩
    | case2 budget t ih =>
      obtain ⟨⟨padding', rest'⟩, hrest, heq⟩ := Option.map_eq_some_iff.1 h
      simp only [Prod.mk.injEq] at heq
      obtain ⟨rfl, rfl⟩ := heq
      obtain ⟨hle, rfl⟩ := ih hrest
      exact ⟨Nat.succ_le_succ hle, rfl⟩
    | case3 => cases h
  · rintro ⟨hle, rfl⟩
    induction padding generalizing budget with
    | zero => cases budget <;> rfl
    | succ padding ih =>
      cases budget with
      | zero => omega
      | succ budget =>
        have hrest := ih (Nat.le_of_succ_le_succ hle)
        show (lineFeedAfterPadding? budget (Terminator.paddedLineFeed padding ++ rest)).map _ = _
        rw [hrest]
        rfl

theorem lineFeedAfterPadding?_eq_none_iff {t : Text} :
    lineFeedAfterPadding? Terminator.maxPadding t = none ↔ ¬ Terminator.BeginsPadded t := by
  constructor
  · rintro h ⟨padding, hle, rest, rfl⟩
    have hsome : lineFeedAfterPadding? Terminator.maxPadding
        (Terminator.paddedLineFeed padding ++ rest) = some (padding, rest) :=
      lineFeedAfterPadding?_eq_some_iff.2 ⟨hle, rfl⟩
    rw [h] at hsome
    cases hsome
  · intro h
    match hsome : lineFeedAfterPadding? Terminator.maxPadding t with
    | none => rfl
    | some (padding, rest) =>
      obtain ⟨hle, rfl⟩ := lineFeedAfterPadding?_eq_some_iff.1 hsome
      exact absurd ⟨padding, hle, rest, rfl⟩ h

/-- Cuts off the first line, whatever stands in it. -/
def first : Text → RawLine × Text
  | [] => (⟨[], .endOfText⟩, [])
  | c :: t =>
    if c = '\n' then (⟨[], .lineFeed⟩, t)
    else if c = '\r' then
      match lineFeedAfterPadding? Terminator.maxPadding t with
      | some (padding, rest) => (⟨[], .carriageLineFeed padding⟩, rest)
      | none => (⟨[], .carriageReturn⟩, t)
    else (⟨c :: (first t).1.content, (first t).1.terminator⟩, (first t).2)

/-- A text begins with one line, and the first line end that stands in it ends that. -/
theorem first_eq_iff {t rest : Text} {line : RawLine} :
    first t = (line, rest) ↔
      (∀ c ∈ line.content, Character.KeepsLine c) ∧ line.terminator.EndsBefore rest ∧
        t = line.chars ++ rest := by
  constructor
  · intro h
    fun_induction first t generalizing line rest with
    | case1 =>
      obtain ⟨rfl, rfl⟩ := Prod.mk.inj h
      exact ⟨by simp, rfl, rfl⟩
    | case2 t =>
      obtain ⟨rfl, rfl⟩ := Prod.mk.inj h
      exact ⟨by simp, trivial, rfl⟩
    | case3 t padding after hpadded =>
      obtain ⟨rfl, rfl⟩ := Prod.mk.inj h
      obtain ⟨hle, rfl⟩ := lineFeedAfterPadding?_eq_some_iff.1 hpadded
      exact ⟨by simp, hle, rfl⟩
    | case4 t hpadded =>
      obtain ⟨rfl, rfl⟩ := Prod.mk.inj h
      exact ⟨by simp, lineFeedAfterPadding?_eq_none_iff.1 hpadded, rfl⟩
    | case5 c t hfeed hreturn ih =>
      obtain ⟨rfl, rfl⟩ := Prod.mk.inj h
      obtain ⟨hkeeps, hends, ht⟩ := ih rfl
      refine ⟨?_, hends, congrArg (c :: ·) ht⟩
      intro d hd
      rcases List.mem_cons.1 hd with rfl | hd
      · exact ⟨hfeed, hreturn⟩
      · exact hkeeps d hd
  · obtain ⟨content, terminator⟩ := line
    rintro ⟨hkeeps, hends, rfl⟩
    induction content with
    | nil =>
      cases terminator with
      | lineFeed => rfl
      | carriageLineFeed padding =>
        have hpadded : lineFeedAfterPadding? Terminator.maxPadding
            (Terminator.paddedLineFeed padding ++ rest) = some (padding, rest) :=
          lineFeedAfterPadding?_eq_some_iff.2 ⟨hends, rfl⟩
        show first ('\r' :: (Terminator.paddedLineFeed padding ++ rest)) = _
        simp [first, hpadded]
      | carriageReturn =>
        have hpadded := lineFeedAfterPadding?_eq_none_iff.2 hends
        show first ('\r' :: rest) = _
        simp [first, hpadded]
      | endOfText =>
        have hrest : rest = [] := hends
        rw [hrest]
        rfl
    | cons c content ih =>
      obtain ⟨hfeed, hreturn⟩ := hkeeps c List.mem_cons_self
      have htail := ih (fun d hd => hkeeps d (List.mem_cons_of_mem c hd)) hends
      show first (c :: (chars ⟨content, terminator⟩ ++ rest)) = _
      rw [first, if_neg hfeed, if_neg hreturn, htail]

/-- The cutter takes the first line if nothing binary stands in it. -/
theorem next?_eq (t : Text) :
    next? t = if (first t).1.hasBinary then none else some (first t) := by
  fun_induction first t with
  | case1 => rfl
  | case2 t => simp [next?, hasBinary]
  | case3 t padding after hpadded => simp [next?, hasBinary, hpadded]
  | case4 t hpadded => simp [next?, hasBinary, hpadded]
  | case5 c t hfeed hreturn ih =>
    rw [next?, if_neg hfeed, if_neg hreturn, ih]
    cases hbinary : isBinary c with
    | true => simp [hasBinary, hbinary]
    | false => cases htail : (first t).1.hasBinary <;> simp_all [hasBinary]

/-! ## The whole text -/

/-- Every text is written as lines that end as they say. -/
theorem exists_ended (t : Text) : ∃ lines, Ended lines ∧ written lines = t := by
  induction hlength : t.length using Nat.strongRecOn generalizing t with
  | ind n ih =>
    match t with
    | [] => exact ⟨[], trivial, rfl⟩
    | c :: t =>
      obtain ⟨⟨line, rest⟩, hfirst⟩ : ∃ found, first (c :: t) = found := ⟨_, rfl⟩
      obtain ⟨hkeeps, hends, ht⟩ := first_eq_iff.1 hfirst
      have hchars : line.chars ≠ [] := by
        intro hnil
        rw [(chars_eq_nil_iff.1 hnil).2] at hends
        have hrest : rest = [] := hends
        rw [hnil, hrest] at ht
        cases ht
      have hshorter : rest.length < n := by
        have hsum := congrArg List.length ht
        have hpositive := List.length_pos_iff.2 hchars
        rw [List.length_append, hlength] at hsum
        omega
      obtain ⟨lines, hlines, rfl⟩ := ih rest.length hshorter rest rfl
      exact ⟨line :: lines, ⟨hkeeps, (endsInFrontOf_iff hlines).2 ⟨hchars, hends⟩, hlines⟩,
        ht.symm⟩

/-- The first of lines that end as they say is the one that is cut off. -/
theorem Ended.first_written {line : RawLine} {lines : List RawLine} (h : Ended (line :: lines)) :
    first (written (line :: lines)) = (line, written lines) := by
  obtain ⟨hkeeps, hfront, hlines⟩ := h
  exact first_eq_iff.2 ⟨hkeeps, ((endsInFrontOf_iff hlines).1 hfront).2, rfl⟩

/-- No text is written in two ways as lines that end as they say. -/
theorem Ended.unique {lines more : List RawLine} (h : Ended lines) (hmore : Ended more)
    (hwritten : written lines = written more) : lines = more := by
  induction lines generalizing more with
  | nil => exact ((written_eq_nil_iff hmore).1 hwritten.symm).symm
  | cons line lines ih =>
    cases more with
    | nil => exact (written_eq_nil_iff h).1 hwritten
    | cons other more =>
      have hfirst := congrArg first hwritten
      rw [h.first_written, hmore.first_written] at hfirst
      obtain ⟨rfl, hrest⟩ := Prod.mk.inj hfirst
      rw [ih h.2.2 hmore.2.2 hrest]

/-- What cutting makes of lines.  A binary character counts in the lines that are reached,
and it counts before their number does. -/
theorem cut_written {limit : Nat} {lines : List RawLine} (h : Ended lines) :
    cut limit (written lines) =
      if (lines.take limit).any hasBinary then .error .binary
      else if limit < lines.length then .error .tooLarge
      else .ok lines := by
  induction lines generalizing limit with
  | nil => cases limit <;> rfl
  | cons line lines ih =>
    have hnext := next?_eq (written (line :: lines))
    rw [h.first_written] at hnext
    obtain ⟨c, t, ht⟩ := List.exists_cons_of_ne_nil fun hnil =>
      List.cons_ne_nil line lines ((written_eq_nil_iff h).1 hnil)
    rw [ht] at hnext ⊢
    cases limit with
    | zero => rfl
    | succ limit =>
      rw [cut, hnext, List.take_succ_cons, List.any_cons, List.length_cons]
      cases hbinary : line.hasBinary with
      | true => rfl
      | false =>
        simp only [Bool.false_or, Nat.add_lt_add_iff_right, Bool.false_eq_true, if_false,
          ih h.2.2]
        by_cases hmore : (lines.take limit).any hasBinary = true
        · rw [if_pos hmore, if_pos hmore]
        by_cases hmany : limit < lines.length
        · rw [if_neg hmore, if_neg hmore, if_pos hmany, if_pos hmany]
        · rw [if_neg hmore, if_neg hmore, if_neg hmany, if_neg hmany]

/-- Cutting finds the one way in which a text is written as well-ended lines, and
fails when there is none or when it has more lines than allowed. -/
theorem cut_eq_ok_iff {limit : Nat} {t : Text} {lines : List RawLine} :
    cut limit t = .ok lines ↔ WellEnded lines ∧ written lines = t ∧ lines.length ≤ limit := by
  constructor
  · intro h
    obtain ⟨found, hfound, rfl⟩ := exists_ended t
    rw [cut_written hfound] at h
    split at h
    · cases h
    split at h
    · cases h
    rename_i hbinary hmany
    obtain rfl := Except.ok.inj h
    have hlength := Nat.le_of_not_lt hmany
    rw [List.take_of_length_le hlength] at hbinary
    exact ⟨wellEnded_iff.2 ⟨hfound, Bool.eq_false_iff.2 hbinary⟩, rfl, hlength⟩
  · rintro ⟨hwell, rfl, hlength⟩
    obtain ⟨hended, hbinary⟩ := wellEnded_iff.1 hwell
    rw [cut_written hended, List.take_of_length_le hlength, hbinary,
      if_neg Bool.false_ne_true, if_neg (Nat.not_lt.2 hlength)]

end RawLine

end TextIntake
