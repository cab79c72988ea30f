import TextIntake.Json.Reader
import TextIntake.Json.Value

set_option autoImplicit false

/-!
# Strings, words and numbers in JSON

What is written of a scalar is read back as the scalar, whatever stands behind it.  A string
or a word has an end of its own; a number ends where a character stands that no number goes
on with.

Main statements: `string_flatMap_writeChar` and `number_toDigits`.
-/

namespace TextIntake.Json

/-! ## Blanks -/

/-- A text of blanks only. -/
def IsBlanks (b : Text) : Prop := ∀ c ∈ b, isBlank c = true

theorem isBlanks_nil : IsBlanks [] := by
  intro c hc
  cases hc

theorem dropBlanks_append {b : Text} (hb : IsBlanks b) (t : Text) :
    dropBlanks (b ++ t) = dropBlanks t :=
  List.dropWhile_append_of_pos hb

theorem dropBlanks_cons {c : Char} (hc : isBlank c = false) (t : Text) :
    dropBlanks (c :: t) = c :: t :=
  List.dropWhile_cons_of_neg (by rw [hc]; exact Bool.false_ne_true)

theorem dropBlanks_of_isBlanks {b : Text} (hb : IsBlanks b) : dropBlanks b = [] := by
  have h := dropBlanks_append hb []
  rwa [List.append_nil] at h

/-! ## What stands behind a value -/

/-- Whether a number may go on with a character. -/
def continuesNumber (c : Char) : Bool :=
  Character.isDecimalDigit c || c == '.' || c == 'e' || c == 'E'

/-- A text that can stand behind a value: a number does not go on with it. -/
def Stops (t : Text) : Prop := ∀ c, t.head? = some c → continuesNumber c = false

theorem stops_nil : Stops [] := by
  intro c hc
  cases hc

theorem stops_cons {c : Char} (hc : continuesNumber c = false) (t : Text) : Stops (c :: t) := by
  intro d hd
  obtain rfl := Option.some.inj hd
  exact hc

theorem continuesNumber_of_isBlank {c : Char} (hc : isBlank c = true) :
    continuesNumber c = false := by
  simp only [isBlank, Bool.or_eq_true, beq_iff_eq] at hc
  rcases hc with ((rfl | rfl) | rfl) | rfl <;> decide

theorem stops_append {b t : Text} (hb : IsBlanks b) (ht : Stops t) : Stops (b ++ t) := by
  cases b with
  | nil => exact ht
  | cons c b => exact stops_cons (continuesNumber_of_isBlank (hb c List.mem_cons_self)) _

/-- A step reads a value from a text, whatever blanks stand in front and whatever follows. -/
def Reads {α : Type} (step : Step α) (t : Text) (a : α) : Prop :=
  ∀ b rest, IsBlanks b → Stops rest → step (b ++ (t ++ rest)) = .ok (a, rest)

/-! ## Words -/

theorem restOfWord_append (word rest : Text) : restOfWord word (word ++ rest) = .ok rest := by
  induction word with
  | nil => rfl
  | cons c word ih => rw [List.cons_append, restOfWord, if_pos rfl, ih]

/-! ## Strings -/

section

variable {checked : Bool} {t : Text}

theorem escaped?_of_mem_shortEscapes :
    ∀ p ∈ shortEscapes, escaped? p.2 = some p.1 ∧ p.2 ≠ 'u' := by decide

/-- A letter behind a backslash is the character that it stands for. -/
theorem stringFrom_escape {letter c : Char} (hletter : letter ≠ 'u')
    (hc : escaped? letter = some c) :
    stringFrom checked .plain ('\\' :: letter :: t) = cons c (stringFrom checked .plain t) := by
  rw [stringFrom, if_neg (by decide), if_pos rfl, stringFrom, if_neg hletter, hc]

theorem hexValue?_hexDigit : ∀ n < 16, hexValue? (hexDigit n) = some n := by decide

/-- Four digits behind `\u` are a number of sixteen bits. -/
theorem stringFrom_hex {a b c d : Char} {x y z w : Nat} (ha : hexValue? a = some x)
    (hb : hexValue? b = some y) (hc : hexValue? c = some z) (hd : hexValue? d = some w) :
    stringFrom checked .plain ('\\' :: 'u' :: a :: b :: c :: d :: t) =
      match unit16 checked none (((x * 16 + y) * 16 + z) * 16 + w) with
      | .char c => cons c (stringFrom checked .plain t)
      | .firstHalf n => stringFrom checked (.half n) t
      | .wrong => .error .malformed := by
  have hlong : ¬ Text.byteLength (a :: b :: c :: d :: t) < 4 := by
    have ha := a.utf8Size_pos
    have hb := b.utf8Size_pos
    have hc := c.utf8Size_pos
    have hd := d.utf8Size_pos
    simp only [Text.byteLength_cons]
    omega
  rw [stringFrom, if_neg (by decide), if_pos rfl, stringFrom, if_pos rfl, if_neg hlong]
  simp only [stringFrom, ha, hb, hc, hd, Nat.zero_mul, Nat.zero_add]
  rfl

/-- A character is written in one of three ways: by a short escape, by its number, or as it
is. -/
theorem writeChar_cases (c : Char) :
    (∃ letter, (c, letter) ∈ shortEscapes ∧ writeChar c = ['\\', letter]) ∨
      (c.toNat < 0x20 ∧ writeChar c =
        ['\\', 'u', '0', '0', hexDigit (c.toNat / 16), hexDigit (c.toNat % 16)]) ∨
      (c ≠ '"' ∧ c ≠ '\\' ∧ ¬ c.toNat < 0x20 ∧ writeChar c = [c]) := by
  unfold writeChar
  cases hfound : shortEscapes.find? fun p => p.1 == c with
  | some found =>
    obtain ⟨d, letter⟩ := found
    obtain rfl : d = c := by simpa using List.find?_some hfound
    exact .inl ⟨letter, List.mem_of_find?_eq_some hfound, rfl⟩
  | none =>
    have hnone := List.find?_eq_none.1 hfound
    by_cases hcontrol : c.toNat < 0x20
    · exact .inr (.inl ⟨hcontrol, if_pos hcontrol⟩)
    · refine .inr (.inr ⟨?_, ?_, hcontrol, if_neg hcontrol⟩)
      · rintro rfl
        exact hnone ('"', '"') (by decide) rfl
      · rintro rfl
        exact hnone ('\\', '\\') (by decide) rfl

/-- A character that is written is read back. -/
theorem stringFrom_writeChar (c : Char) (t : Text) :
    stringFrom true .plain (writeChar c ++ t) = cons c (stringFrom true .plain t) := by
  rcases writeChar_cases c with ⟨letter, hmem, hwritten⟩ | ⟨hcontrol, hwritten⟩ |
    ⟨hquote, hbackslash, hplain, hwritten⟩
  · obtain ⟨hletter, hu⟩ := escaped?_of_mem_shortEscapes _ hmem
    rw [hwritten]
    exact stringFrom_escape hu hletter
  · have hhigh : hexValue? (hexDigit (c.toNat / 16)) = some (c.toNat / 16) :=
      hexValue?_hexDigit _ (by omega)
    have hlow : hexValue? (hexDigit (c.toNat % 16)) = some (c.toNat % 16) :=
      hexValue?_hexDigit _ (by omega)
    have hzero : hexValue? '0' = some 0 := rfl
    have hvalue : ((0 * 16 + 0) * 16 + c.toNat / 16) * 16 + c.toNat % 16 = c.toNat := by omega
    have hunit : unit16 true none c.toNat = .char c := by
      have hsecond : isSecondHalf c.toNat = false := by simp [isSecondHalf]; omega
      have hfirst : isFirstHalf c.toNat = false := by simp [isFirstHalf]; omega
      simp [unit16, hsecond, hfirst]
    rw [hwritten]
    show stringFrom true .plain ('\\' :: 'u' :: '0' :: '0' :: _ :: _ :: t) = _
    rw [stringFrom_hex hzero hzero hhigh hlow, hvalue, hunit]
  · rw [hwritten]
    show stringFrom true .plain (c :: t) = _
    rw [stringFrom, if_neg hquote, if_neg hbackslash, if_neg hplain]

/-- A string that is written is read back. -/
theorem string_flatMap_writeChar (t rest : Text) :
    string (t.flatMap writeChar ++ '"' :: rest) = .ok (t, rest) := by
  unfold string
  induction t with
  | nil => rfl
  | cons c t ih =>
    rw [List.flatMap_cons, List.append_assoc, stringFrom_writeChar, ih]
    rfl

end

/-! ## Numbers -/

/-- At least one decimal digit, and nothing else. -/
structure IsDigits (ds : Text) : Prop where
  nonempty : ds ≠ []
  digits : ∀ c ∈ ds, Character.isDecimalDigit c = true

/-- Digits without a zero in front of others. -/
structure IsWhole (ds : Text) : Prop extends IsDigits ds where
  short : ds.head? = some '0' → ds.length = 1

section

variable {ds rest : Text}

/-- A number goes on with a digit, a point or the mark of an exponent. -/
theorem continuesNumber_eq_false {c : Char} : continuesNumber c = false ↔
    Character.isDecimalDigit c = false ∧ c ≠ '.' ∧ c ≠ 'e' ∧ c ≠ 'E' := by
  simp [continuesNumber, and_assoc]

/-- Digits end where no other digit follows. -/
theorem someDigits_append (hds : IsDigits ds)
    (hrest : ∀ c, rest.head? = some c → Character.isDecimalDigit c = false) :
    someDigits (ds ++ rest) = .ok (ds, rest) := by
  have hbehind : rest.takeWhile Character.isDecimalDigit = [] ∧
      rest.dropWhile Character.isDecimalDigit = rest := by
    cases rest with
    | nil => exact ⟨rfl, rfl⟩
    | cons c rest =>
      have hc := hrest c rfl
      simp [hc]
  cases ds with
  | nil => exact absurd rfl hds.nonempty
  | cons c ds =>
    have hc := hds.digits c List.mem_cons_self
    rw [List.cons_append, someDigits, if_pos hc, ← List.cons_append,
      List.takeWhile_append_of_pos hds.digits, List.dropWhile_append_of_pos hds.digits,
      hbehind.1, hbehind.2, List.append_nil]

theorem wholeDigits_append (hds : IsWhole ds)
    (hrest : ∀ c, rest.head? = some c → Character.isDecimalDigit c = false) :
    wholeDigits (ds ++ rest) = .ok (ds, rest) := by
  have hshort : ¬ (ds.head? = some '0' ∧ 1 < ds.length) := by
    rintro ⟨hzero, hlong⟩
    have hone := hds.short hzero
    omega
  rw [wholeDigits, someDigits_append hds.toIsDigits hrest]
  exact if_neg hshort

theorem fraction_of_stops (hrest : Stops rest) : fraction rest = .ok (none, rest) := by
  unfold fraction
  split
  · rename_i t
    exact absurd rfl (continuesNumber_eq_false.1 (hrest '.' rfl)).2.1
  · rfl

theorem exponent_of_stops (hrest : Stops rest) : exponent rest = .ok (none, rest) := by
  cases rest with
  | nil => rfl
  | cons c rest =>
    obtain ⟨-, -, hlower, hupper⟩ := continuesNumber_eq_false.1 (hrest c rfl)
    refine if_neg ?_
    rintro (rfl | rfl)
    · exact hlower rfl
    · exact hupper rfl

/-- The start of a number is the start of nothing else. -/
theorem of_startsNumber {c : Char} (hc : startsNumber c = true) :
    isBlank c = false ∧ wordFrom? c = none ∧ c ≠ '[' ∧ c ≠ '\x7b' ∧ c ≠ ']' := by
  have hother : ∀ d, startsNumber d = false → c ≠ d := by
    rintro d hd rfl
    rw [hc] at hd
    cases hd
  refine ⟨?_, ?_, hother _ rfl, hother _ rfl, hother _ rfl⟩
  · simp [isBlank, hother ' ' rfl, hother '\t' rfl, hother '\n' rfl, hother '\r' rfl]
  · simp [wordFrom?, hother 'n' rfl, hother 't' rfl, hother 'f' rfl]

/-! ### Natural numbers -/

theorem isDigits_toDigits (n : Nat) : IsDigits (Nat.toDigits 10 n) where
  nonempty := Nat.toDigits_ne_nil
  digits c hc := by
    have hdigit := Nat.isDigit_of_mem_toDigits (by decide) (by decide) hc
    simpa [Character.isDecimalDigit, Char.isDigit, Char.le_def] using hdigit

theorem exists_toDigits_eq_cons (n : Nat) :
    ∃ c ds, Nat.toDigits 10 n = c :: ds ∧ Character.isDecimalDigit c = true := by
  obtain ⟨c, ds, hds⟩ := List.exists_cons_of_ne_nil (isDigits_toDigits n).nonempty
  exact ⟨c, ds, hds, (isDigits_toDigits n).digits c (by rw [hds]; exact List.mem_cons_self)⟩

/-- Only zero starts with a zero. -/
theorem head?_toDigits {n : Nat} (hn : n ≠ 0) : (Nat.toDigits 10 n).head? ≠ some '0' := by
  induction n using Nat.strongRecOn with
  | ind n ih =>
    rw [Nat.toDigits_eq_if (by decide)]
    split
    · intro hzero
      exact hn (Nat.digitChar_eq_zero.1 (Option.some.inj hzero))
    · have hquotient := ih (n / 10) (by omega) (by omega)
      obtain ⟨c, ds, hds⟩ := List.exists_cons_of_ne_nil (Nat.toDigits_ne_nil (b := 10) (n := n / 10))
      rw [hds] at hquotient ⊢
      exact hquotient

theorem isWhole_toDigits (n : Nat) : IsWhole (Nat.toDigits 10 n) where
  toIsDigits := isDigits_toDigits n
  short hzero := by
    by_cases hn : n = 0
    · rw [hn, Nat.toDigits_zero]
      rfl
    · exact absurd hzero (head?_toDigits hn)

theorem digitsValue_toDigits (n : Nat) : digitsValue (Nat.toDigits 10 n) = n := by
  have hvalue : digitsValue (Nat.toDigits 10 n) = Nat.ofDigitChars 10 (Nat.toDigits 10 n) 0 := by
    rw [Nat.ofDigitChars_eq_foldl]
    simp only [digitsValue, Nat.mul_comm]
    rfl
  rw [hvalue, Nat.ofDigitChars_ten_toDigits]

/-- A number below 2⁶⁴ that is written is read back. -/
theorem number_toDigits {n : Nat} (hn : n < 0x10000000000000000) (hrest : Stops rest) :
    number (Nat.toDigits 10 n ++ rest) = .ok (.natural n, rest) := by
  have hwhole : wholeDigits (Nat.toDigits 10 n ++ rest) = .ok (Nat.toDigits 10 n, rest) :=
    wholeDigits_append (isWhole_toDigits n) fun c hc => (continuesNumber_eq_false.1 (hrest c hc)).1
  have hfraction := fraction_of_stops hrest
  have hexponent := exponent_of_stops hrest
  have hvalue := digitsValue_toDigits n
  obtain ⟨c, ds, hds, hdigit⟩ := exists_toDigits_eq_cons n
  have hc : c ≠ '-' := by
    rintro rfl
    cases hdigit
  rw [hds] at hwhole hvalue ⊢
  rw [List.cons_append] at hwhole ⊢
  unfold number
  split
  rename_i negative t hsign
  split at hsign
  · rename_i t' hminus
    exact absurd (List.cons.inj hminus).1 hc
  · obtain ⟨rfl, rfl⟩ := Prod.mk.inj hsign
    simp only [hwhole, hfraction, hexponent, hvalue, bind, Except.bind]
    exact if_pos (by simpa using hn)

end

/-! ## Expected values -/

theorem writeString_append (t rest : Text) :
    writeString t ++ rest = '"' :: (t.flatMap writeChar ++ '"' :: rest) := by
  simp only [writeString, List.cons_append, List.append_assoc, List.nil_append]

theorem reads_textValue (t : Text) : Reads textValue (writeString t) t := by
  intro b rest hb _
  rw [textValue, dropBlanks_append hb, writeString_append, dropBlanks_cons rfl]
  exact string_flatMap_writeChar t rest

theorem reads_boolValue (value : Bool) : Reads boolValue (writeScalar (.bool value)) value := by
  intro b rest hb _
  rw [boolValue, dropBlanks_append hb]
  cases value with
  | true =>
    show (restOfWord "rue".toList ("rue".toList ++ rest)).map _ = _
    rw [restOfWord_append]
    rfl
  | false =>
    show (restOfWord "alse".toList ("alse".toList ++ rest)).map _ = _
    rw [restOfWord_append]
    rfl

theorem writeScalar_number (n : Nat) : writeScalar (.number n) = Nat.toDigits 10 n := by
  rw [writeScalar, Nat.toString_eq_ofList_toDigits, String.toList_ofList]

theorem reads_naturalValue {n : Nat} (hn : n < 0x10000000000000000) :
    Reads naturalValue (writeScalar (.number n)) n := by
  intro b rest hb hrest
  have hnumber := number_toDigits hn hrest
  rw [writeScalar_number, naturalValue, dropBlanks_append hb]
  obtain ⟨c, ds, hds, hdigit⟩ := exists_toDigits_eq_cons n
  have hc : startsNumber c = true := by rw [startsNumber, hdigit, Bool.or_true]
  rw [hds, List.cons_append] at hnumber ⊢
  rw [dropBlanks_cons (of_startsNumber hc).1]
  simp only [hc, if_true, hnumber]

section

variable {α β : Type} {step : Step α} {t : Text} {a : α}

theorem reads_optional_null : Reads (optional step) "null".toList none := by
  intro b rest hb _
  rw [optional, dropBlanks_append hb]
  show (restOfWord "ull".toList ("ull".toList ++ rest)).map _ = _
  rw [restOfWord_append]
  rfl

/-- A value that may be missing is read like one that may not, unless it starts like `null`. -/
theorem reads_optional {c : Char} (h : Reads step (c :: t) a) (hblank : isBlank c = false)
    (hnull : c ≠ 'n') : Reads (optional step) (c :: t) (some a) := by
  intro b rest hb hrest
  have hstep := h [] rest isBlanks_nil hrest
  rw [List.nil_append] at hstep
  rw [optional, dropBlanks_append hb, List.cons_append, dropBlanks_cons hblank]
  rw [List.cons_append] at hstep
  split
  · rename_i heq
    exact absurd (List.cons.inj heq).1 hnull
  · rw [hstep]
    rfl

/-- A word is read from its string. -/
theorem reads_wordValue {meaning? : String → Option α} {word : String}
    (h : meaning? word = some a) : Reads (wordValue meaning?) (writeString word.toList) a := by
  intro b rest hb hrest
  have htext := reads_textValue word.toList [] rest isBlanks_nil hrest
  rw [List.nil_append, writeString_append] at htext
  rw [wordValue, dropBlanks_append hb, writeString_append, dropBlanks_cons rfl]
  simp only [bind, Except.bind, htext, String.ofList_toList, h]

/-- A field puts what its step reads. -/
theorem reads_of {name : String} {put : β → α → β} {old new : β} (h : Reads step t a)
    (hput : put old a = new) : Reads ((Field.of name step put).read old) t new := by
  intro b rest hb hrest
  show (step (b ++ (t ++ rest))).map _ = _
  rw [h b rest hb hrest, ← hput]
  rfl

end

end TextIntake.Json
