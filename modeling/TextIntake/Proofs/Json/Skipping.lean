import TextIntake.Proofs.Json.Scalar

set_option autoImplicit false

/-!
# Skipping values

The grammar of JSON, with any blanks between the parts of a value, and with fractions,
exponents and escapes of every kind.  A value that nobody expects is skipped by a machine that
only remembers the brackets which are open; it comes to the end of every value of the grammar.

Main statements: `skipFrom_form` and `skip_append`.
-/

namespace TextIntake.Json

/-! ## The grammar -/

/-- What stands for one character inside a string.  Halves of pairs may stand alone. -/
inductive IsPiece : Text → Prop
  | plain {c : Char} (quote : c ≠ '"') (backslash : c ≠ '\\') (control : ¬ c.toNat < 0x20) :
      IsPiece [c]
  | escape {letter c : Char} (meaning : escaped? letter = some c) : IsPiece ['\\', letter]
  | hex {a b c d : Char} {x y z w : Nat} (first : hexValue? a = some x)
      (second : hexValue? b = some y) (third : hexValue? c = some z)
      (fourth : hexValue? d = some w) : IsPiece ['\\', 'u', a, b, c, d]

/-- A string behind its opening quote. -/
inductive IsQuoted : Text → Prop
  | close : IsQuoted ['"']
  | piece {p t : Text} (first : IsPiece p) (others : IsQuoted t) : IsQuoted (p ++ t)

/-- The fraction of a number, or nothing. -/
inductive IsFraction : Text → Prop
  | absent : IsFraction []
  | point {ds : Text} (digits : IsDigits ds) : IsFraction ('.' :: ds)

/-- The exponent of a number, or nothing. -/
inductive IsExponent : Text → Prop
  | absent : IsExponent []
  | power {mark : Char} {sign ds : Text} (marks : mark = 'e' ∨ mark = 'E')
      (signs : sign ∈ [[], ['+'], ['-']]) (digits : IsDigits ds) :
      IsExponent (mark :: (sign ++ ds))

/-- A number. -/
inductive IsNumber : Text → Prop
  | parts {sign whole part power : Text} (signs : sign ∈ [[], ['-']]) (digits : IsWhole whole)
      (fraction : IsFraction part) (exponent : IsExponent power) :
      IsNumber (sign ++ (whole ++ (part ++ power)))

/-- The name of a member with its colon, and any blanks around. -/
inductive IsName : Text → Prop
  | parts {b name b' : Text} (before : IsBlanks b) (quoted : IsQuoted name)
      (behind : IsBlanks b') : IsName (b ++ '"' :: (name ++ (b' ++ [':'])))

/-- A part of a text in JSON. -/
inductive Part where
  | value
  /-- what stands behind a value inside a bracket, up to the end of the bracket -/
  | behind (bracket : Bracket)
  deriving DecidableEq, Repr, Inhabited

/-- The texts in JSON, part by part. -/
inductive Form : Part → Text → Prop
  | word {t : Text} (word : t ∈ ["null".toList, "true".toList, "false".toList]) : Form .value t
  | number {t : Text} (number : IsNumber t) : Form .value t
  | string {t : Text} (quoted : IsQuoted t) : Form .value ('"' :: t)
  | emptyList {b : Text} (blanks : IsBlanks b) : Form .value ('[' :: (b ++ [']']))
  | list {b v t : Text} (blanks : IsBlanks b) (first : Form .value v)
      (others : Form (.behind .list) t) : Form .value ('[' :: (b ++ (v ++ t)))
  | emptyObject {b : Text} (blanks : IsBlanks b) : Form .value ('\x7b' :: (b ++ ['\x7d']))
  | object {name b v t : Text} (named : IsName name) (blanks : IsBlanks b)
      (first : Form .value v) (others : Form (.behind .members) t) :
      Form .value ('\x7b' :: (name ++ (b ++ (v ++ t))))
  | close {bracket : Bracket} {b : Text} (blanks : IsBlanks b) :
      Form (.behind bracket) (b ++ [bracket.closing])
  | item {b b' v t : Text} (before : IsBlanks b) (blanks : IsBlanks b') (next : Form .value v)
      (others : Form (.behind .list) t) : Form (.behind .list) (b ++ ',' :: (b' ++ (v ++ t)))
  | member {b name b' v t : Text} (before : IsBlanks b) (named : IsName name)
      (blanks : IsBlanks b') (next : Form .value v) (others : Form (.behind .members) t) :
      Form (.behind .members) (b ++ ',' :: (name ++ (b' ++ (v ++ t))))

/-- A value of JSON, without blanks around it. -/
abbrev IsValue (t : Text) : Prop := Form .value t

/-! ## Scalars -/

section

variable {t rest : Text}

theorem escaped?_u : escaped? 'u' = none := by decide

/-- Unchecked, every piece of a string is read. -/
theorem stringFrom_piece {p : Text} (h : IsPiece p) (t : Text) :
    ∃ c, stringFrom false .plain (p ++ t) = cons c (stringFrom false .plain t) := by
  cases h with
  | plain quote backslash control =>
    rename_i c
    refine ⟨c, ?_⟩
    show stringFrom false .plain (c :: t) = _
    rw [stringFrom, if_neg quote, if_neg backslash, if_neg control]
  | escape meaning =>
    refine ⟨_, stringFrom_escape ?_ meaning⟩
    rintro rfl
    rw [escaped?_u] at meaning
    cases meaning
  | hex first second third fourth => exact ⟨_, stringFrom_hex first second third fourth⟩

/-- Unchecked, every string is read to its closing quote. -/
theorem stringFrom_quoted (h : IsQuoted t) (rest : Text) :
    ∃ s, stringFrom false .plain (t ++ rest) = .ok (s, rest) := by
  induction h with
  | close => exact ⟨[], rfl⟩
  | piece first others ih =>
    rename_i p t
    obtain ⟨s, hs⟩ := ih
    obtain ⟨c, hc⟩ := stringFrom_piece first (t ++ rest)
    refine ⟨c :: s, ?_⟩
    rw [List.append_assoc, hc, hs]
    rfl

/-- A fraction ends in front of an exponent or the end of a number. -/
theorem fraction_append {part : Text} (h : IsFraction part)
    (hrest : ∀ c, rest.head? = some c → Character.isDecimalDigit c = false ∧ c ≠ '.') :
    ∃ value, fraction (part ++ rest) = .ok (value, rest) := by
  cases h with
  | absent =>
    refine ⟨none, ?_⟩
    rw [List.nil_append]
    unfold fraction
    split
    · exact absurd rfl (hrest '.' rfl).2
    · rfl
  | point digits =>
    rename_i ds
    refine ⟨some ds, ?_⟩
    show (someDigits (ds ++ rest)).map _ = _
    rw [someDigits_append digits fun c hc => (hrest c hc).1]
    rfl

theorem exponent_append {power : Text} (h : IsExponent power) (hrest : Stops rest) :
    ∃ value, exponent (power ++ rest) = .ok (value, rest) := by
  cases h with
  | absent => exact ⟨none, exponent_of_stops hrest⟩
  | power marks signs digits =>
    rename_i mark sign ds
    have hdigits : someDigits (ds ++ rest) = .ok (ds, rest) :=
      someDigits_append digits fun c hc => (continuesNumber_eq_false.1 (hrest c hc)).1
    obtain ⟨c, ds', rfl⟩ := List.exists_cons_of_ne_nil digits.nonempty
    have hc := digits.digits c List.mem_cons_self
    have hminus : c ≠ '-' := by
      rintro rfl
      cases hc
    have hplus : c ≠ '+' := by
      rintro rfl
      cases hc
    rw [List.cons_append] at hdigits
    rw [List.cons_append, exponent.eq_def]
    dsimp only
    rw [if_pos marks]
    simp only [List.mem_cons, List.not_mem_nil, or_false] at signs
    rcases signs with rfl | rfl | rfl
    · simp [hminus, hplus, hdigits, Except.map]
    · simp [hdigits, Except.map]
    · simp [hdigits, Except.map]

/-- What follows the digits of a whole number: its fraction and its exponent, or another
text. -/
theorem head?_power {power : Text} (h : IsExponent power) (hrest : Stops rest) :
    ∀ c, (power ++ rest).head? = some c → Character.isDecimalDigit c = false ∧ c ≠ '.' := by
  intro c hc
  cases h with
  | absent =>
    obtain ⟨hdigit, hpoint, -⟩ := continuesNumber_eq_false.1 (hrest c hc)
    exact ⟨hdigit, hpoint⟩
  | power marks signs digits =>
    obtain rfl := Option.some.inj hc
    rcases marks with rfl | rfl
    · decide
    · decide

theorem head?_part {part power : Text} (h : IsFraction part) (hpower : IsExponent power)
    (hrest : Stops rest) :
    ∀ c, (part ++ (power ++ rest)).head? = some c → Character.isDecimalDigit c = false := by
  intro c hc
  cases h with
  | absent => exact (head?_power hpower hrest c hc).1
  | point digits =>
    obtain rfl := Option.some.inj hc
    decide

theorem skipNumber_append (h : IsNumber t) (hrest : Stops rest) :
    skipNumber (t ++ rest) = .ok rest := by
  cases h with
  | parts signs digits fraction exponent =>
    rename_i sign whole part power
    have hwhole := wholeDigits_append digits (head?_part fraction exponent hrest)
    obtain ⟨a, hfraction⟩ := fraction_append fraction (head?_power exponent hrest)
    obtain ⟨b, hexponent⟩ := exponent_append exponent hrest
    have hunsigned : (if (sign ++ (whole ++ (part ++ (power ++ rest)))).head? = some '-' then
        (sign ++ (whole ++ (part ++ (power ++ rest)))).drop 1
        else sign ++ (whole ++ (part ++ (power ++ rest)))) =
          whole ++ (part ++ (power ++ rest)) := by
      simp only [List.mem_cons, List.not_mem_nil, or_false] at signs
      rcases signs with rfl | rfl
      · obtain ⟨c, ds, rfl⟩ := List.exists_cons_of_ne_nil digits.nonempty
        refine if_neg ?_
        intro hminus
        obtain rfl : c = '-' := Option.some.inj hminus
        exact absurd (digits.digits '-' List.mem_cons_self) (by decide)
      · exact if_pos rfl
    simp only [List.append_assoc]
    unfold skipNumber
    dsimp only
    rw [hunsigned, hwhole]
    simp only [bind, Except.bind, hfraction, hexponent, pure, Except.pure]

/-- A number starts with its sign or with a digit. -/
theorem exists_startsNumber (h : IsNumber t) :
    ∃ c t', t = c :: t' ∧ startsNumber c = true := by
  cases h with
  | parts signs digits fraction exponent =>
    simp only [List.mem_cons, List.not_mem_nil, or_false] at signs
    rcases signs with rfl | rfl
    · obtain ⟨c, ds, rfl⟩ := List.exists_cons_of_ne_nil digits.nonempty
      refine ⟨c, _, rfl, ?_⟩
      rw [startsNumber, digits.digits c List.mem_cons_self, Bool.or_true]
    · exact ⟨'-', _, rfl, rfl⟩

end

/-! ## The machine -/

/-- What is skipped behind a value. -/
def skipBehind (fuel : Nat) (brackets : List Bracket) (rest : Text) : Except Fault Text :=
  if brackets = [] then .ok rest else skipFrom fuel .more brackets rest

section

variable {b t rest : Text} {c : Char} {brackets outer : List Bracket}

/-- The machine looks at the first character that is not blank. -/
theorem skipFrom_blanks (hb : IsBlanks b) (fuel : Nat) (want : Want) (brackets : List Bracket)
    (t : Text) : skipFrom fuel want brackets (b ++ t) = skipFrom fuel want brackets t := by
  cases fuel with
  | zero => rfl
  | succ fuel => rw [skipFrom, skipFrom, dropBlanks_append hb]

theorem skipFrom_scalar (fuel : Nat) (hblank : isBlank c = false) (hlist : c ≠ '[')
    (hmembers : c ≠ '\x7b') (hskip : skipScalar c t = .ok rest) :
    skipFrom (fuel + 1) .value brackets (c :: t) = skipBehind fuel brackets rest := by
  rw [skipFrom, dropBlanks_cons hblank]
  simp only [hlist, hmembers, if_false, hskip]
  rfl

theorem skipFrom_openList (fuel : Nat) (brackets : List Bracket) (t : Text) :
    skipFrom (fuel + 1) .value brackets ('[' :: t) =
      skipFrom fuel .first (.list :: brackets) t := rfl

theorem skipFrom_openMembers (fuel : Nat) (brackets : List Bracket) (t : Text) :
    skipFrom (fuel + 1) .value brackets ('\x7b' :: t) =
      skipFrom fuel (.name true) (.members :: brackets) t := rfl

/-- The first item of a list is skipped like any value. -/
theorem skipFrom_first (fuel : Nat) (brackets : List Bracket) (hblank : isBlank c = false)
    (hclose : c ≠ ']') (t : Text) :
    skipFrom (fuel + 1) .first brackets (c :: t) =
      skipFrom (fuel + 1) .value brackets (c :: t) := by
  rw [skipFrom, skipFrom, dropBlanks_cons hblank]
  simp only [hclose, if_false]

theorem skipFrom_emptyList (fuel : Nat) (brackets : List Bracket) (rest : Text) :
    skipFrom (fuel + 1) .first brackets (']' :: rest) =
      skipBehind fuel brackets.tail rest := rfl

theorem skipFrom_emptyMembers (fuel : Nat) (brackets : List Bracket) (rest : Text) :
    skipFrom (fuel + 1) (.name true) brackets ('\x7d' :: rest) =
      skipBehind fuel brackets.tail rest := rfl

theorem skipFrom_close (fuel : Nat) (bracket : Bracket) (outer : List Bracket) (rest : Text) :
    skipFrom (fuel + 1) .more (bracket :: outer) (bracket.closing :: rest) =
      skipBehind fuel outer rest := by
  cases bracket with
  | list => rfl
  | members => rfl

theorem skipFrom_comma (fuel : Nat) (bracket : Bracket) (outer : List Bracket) (t : Text) :
    skipFrom (fuel + 1) .more (bracket :: outer) (',' :: t) =
      skipFrom fuel (if bracket = .list then .value else .name false) (bracket :: outer) t := by
  cases bracket with
  | list => rfl
  | members => rfl

theorem skipColon_append (hb : IsBlanks b) (t : Text) : skipColon (b ++ ':' :: t) = .ok t := by
  rw [skipColon, dropBlanks_append hb, dropBlanks_cons rfl]
  rfl

theorem length_pos_of_isName {name : Text} (h : IsName name) : 0 < name.length := by
  cases h with
  | parts before quoted behind =>
    simp only [List.length_append, List.length_cons]
    omega

/-- A name is skipped with its colon. -/
theorem skipFrom_name {name : Text} (hname : IsName name) (fuel : Nat) (mayClose : Bool)
    (brackets : List Bracket) (t : Text) :
    skipFrom (fuel + 1) (.name mayClose) brackets (name ++ t) =
      skipFrom fuel .value brackets t := by
  cases hname with
  | parts before quoted behind =>
    rename_i b name b'
    obtain ⟨s, hs⟩ := stringFrom_quoted quoted (b' ++ ':' :: t)
    have hcolon := skipColon_append behind t
    have htext : b ++ '"' :: (name ++ (b' ++ [':'])) ++ t =
        b ++ '"' :: (name ++ (b' ++ ':' :: t)) := by
      simp only [List.append_assoc, List.cons_append, List.nil_append]
    rw [htext, skipFrom_blanks before, skipFrom, dropBlanks_cons rfl]
    simp only [if_true, hs, Except.bind, hcolon]

/-! ## Values -/

/-- A value starts with a character that is no blank and closes no list. -/
theorem exists_cons_of_isValue (h : IsValue t) :
    ∃ c t', t = c :: t' ∧ isBlank c = false ∧ c ≠ ']' := by
  cases h with
  | word word =>
    simp only [List.mem_cons, List.not_mem_nil, or_false] at word
    rcases word with rfl | rfl | rfl
    · exact ⟨'n', _, rfl, rfl, by decide⟩
    · exact ⟨'t', _, rfl, rfl, by decide⟩
    · exact ⟨'f', _, rfl, rfl, by decide⟩
  | number number =>
    obtain ⟨c, t', rfl, hc⟩ := exists_startsNumber number
    obtain ⟨hblank, -, -, -, hclose⟩ := of_startsNumber hc
    exact ⟨c, t', rfl, hblank, hclose⟩
  | string quoted => exact ⟨'"', _, rfl, rfl, by decide⟩
  | emptyList blanks => exact ⟨'[', _, rfl, rfl, by decide⟩
  | list blanks first others => exact ⟨'[', _, rfl, rfl, by decide⟩
  | emptyObject blanks => exact ⟨'\x7b', _, rfl, rfl, by decide⟩
  | object named blanks first others => exact ⟨'\x7b', _, rfl, rfl, by decide⟩

/-- What stands behind a value inside a bracket can stand behind a value. -/
theorem stops_of_behind {bracket : Bracket} (h : Form (.behind bracket) t) (rest : Text) :
    Stops (t ++ rest) := by
  cases h with
  | close blanks =>
    rw [List.append_assoc]
    refine stops_append blanks (stops_cons ?_ _)
    cases bracket <;> rfl
  | item before blanks next others =>
    rw [List.append_assoc]
    exact stops_append before (stops_cons rfl _)
  | member before named blanks next others =>
    rw [List.append_assoc]
    exact stops_append before (stops_cons rfl _)

/-- The machine skips a part of a text in a number of steps. -/
def SkipsIn : Nat → Part → Text → Prop
  | steps, .value, t => ∀ fuel rest brackets, Stops rest →
      skipFrom (fuel + steps) .value brackets (t ++ rest) = skipBehind fuel brackets rest
  | steps, .behind bracket, t => ∀ fuel rest outer,
      skipFrom (fuel + steps) .more (bracket :: outer) (t ++ rest) = skipBehind fuel outer rest

/-- A scalar is skipped in one step. -/
theorem skipsIn_scalar {t' : Text} (hblank : isBlank c = false) (hlist : c ≠ '[')
    (hmembers : c ≠ '\x7b')
    (hskip : ∀ rest, Stops rest → skipScalar c (t' ++ rest) = .ok rest) :
    SkipsIn 1 .value (c :: t') := by
  intro fuel rest brackets hrest
  exact skipFrom_scalar fuel hblank hlist hmembers (hskip rest hrest)

theorem skipsIn_word (word : t ∈ ["null".toList, "true".toList, "false".toList]) :
    SkipsIn 1 .value t := by
  simp only [List.mem_cons, List.not_mem_nil, or_false] at word
  rcases word with rfl | rfl | rfl
  · exact skipsIn_scalar rfl (by decide) (by decide)
      fun rest _ => restOfWord_append "ull".toList rest
  · exact skipsIn_scalar rfl (by decide) (by decide)
      fun rest _ => restOfWord_append "rue".toList rest
  · exact skipsIn_scalar rfl (by decide) (by decide)
      fun rest _ => restOfWord_append "alse".toList rest

theorem skipsIn_number (number : IsNumber t) : SkipsIn 1 .value t := by
  obtain ⟨c, t', rfl, hc⟩ := exists_startsNumber number
  obtain ⟨hblank, hword, hlist, hmembers, -⟩ := of_startsNumber hc
  refine skipsIn_scalar hblank hlist hmembers fun rest hrest => ?_
  have hskip : skipNumber (c :: (t' ++ rest)) = .ok rest := skipNumber_append number hrest
  rw [skipScalar, hword]
  simp only [hc, if_true, hskip]

theorem skipsIn_string (quoted : IsQuoted t) : SkipsIn 1 .value ('"' :: t) := by
  refine skipsIn_scalar rfl (by decide) (by decide) fun rest _ => ?_
  obtain ⟨s, hs⟩ := stringFrom_quoted quoted rest
  show (stringFrom false .plain (t ++ rest)).map Prod.snd = .ok rest
  rw [hs]
  rfl

/-- A value and what stands behind it inside a bracket are skipped one after the other. -/
theorem skipFrom_behind {v : Text} {bracket : Bracket} {m n : Nat} (hm : SkipsIn m .value v)
    (hn : SkipsIn n (.behind bracket) t) (hbehind : Form (.behind bracket) t) (fuel : Nat)
    (outer : List Bracket) (rest : Text) :
    skipFrom (fuel + n + m) .value (bracket :: outer) (v ++ (t ++ rest)) =
      skipBehind fuel outer rest := by
  rw [hm (fuel + n) (t ++ rest) (bracket :: outer) (stops_of_behind hbehind rest)]
  exact hn fuel rest outer

theorem skipsIn_emptyList (blanks : IsBlanks b) : SkipsIn 2 .value ('[' :: (b ++ [']'])) := by
  intro fuel rest brackets _
  show skipFrom (fuel + 1 + 1) .value brackets ('[' :: (b ++ [']'] ++ rest)) = _
  rw [skipFrom_openList, List.append_assoc, skipFrom_blanks blanks]
  exact skipFrom_emptyList fuel (.list :: brackets) rest

theorem skipsIn_list {v : Text} {m n : Nat} (blanks : IsBlanks b) (hvalue : IsValue v)
    (hm : SkipsIn (m + 1) .value v) (hbehind : Form (.behind .list) t)
    (hn : SkipsIn n (.behind .list) t) :
    SkipsIn (n + (m + 1) + 1) .value ('[' :: (b ++ (v ++ t))) := by
  intro fuel rest brackets _
  have hboth := skipFrom_behind hm hn hbehind fuel brackets rest
  obtain ⟨c, v', rfl, hblank, hclose⟩ := exists_cons_of_isValue hvalue
  show skipFrom (fuel + (n + (m + 1)) + 1) .value brackets
    ('[' :: (b ++ (c :: v' ++ t) ++ rest)) = _
  rw [skipFrom_openList, List.append_assoc, skipFrom_blanks blanks, List.append_assoc,
    ← Nat.add_assoc, ← hboth]
  exact skipFrom_first _ _ hblank hclose _

theorem skipsIn_emptyObject (blanks : IsBlanks b) :
    SkipsIn 2 .value ('\x7b' :: (b ++ ['\x7d'])) := by
  intro fuel rest brackets _
  show skipFrom (fuel + 1 + 1) .value brackets ('\x7b' :: (b ++ ['\x7d'] ++ rest)) = _
  rw [skipFrom_openMembers, List.append_assoc, skipFrom_blanks blanks]
  exact skipFrom_emptyMembers fuel (.members :: brackets) rest

theorem skipsIn_object {name v : Text} {m n : Nat} (named : IsName name) (blanks : IsBlanks b)
    (hm : SkipsIn m .value v) (hbehind : Form (.behind .members) t)
    (hn : SkipsIn n (.behind .members) t) :
    SkipsIn (n + m + 1 + 1) .value ('\x7b' :: (name ++ (b ++ (v ++ t)))) := by
  intro fuel rest brackets _
  have hboth := skipFrom_behind hm hn hbehind fuel brackets rest
  show skipFrom (fuel + (n + m) + 1 + 1) .value brackets
    ('\x7b' :: (name ++ (b ++ (v ++ t)) ++ rest)) = _
  rw [skipFrom_openMembers, List.append_assoc, skipFrom_name named, List.append_assoc,
    skipFrom_blanks blanks, List.append_assoc, ← Nat.add_assoc]
  exact hboth

theorem skipsIn_close (bracket : Bracket) (blanks : IsBlanks b) :
    SkipsIn 1 (.behind bracket) (b ++ [bracket.closing]) := by
  intro fuel rest outer
  rw [List.append_assoc, skipFrom_blanks blanks]
  exact skipFrom_close fuel bracket outer rest

theorem skipsIn_item {b' v : Text} {m n : Nat} (before : IsBlanks b) (blanks : IsBlanks b')
    (hm : SkipsIn m .value v) (hbehind : Form (.behind .list) t)
    (hn : SkipsIn n (.behind .list) t) :
    SkipsIn (n + m + 1) (.behind .list) (b ++ ',' :: (b' ++ (v ++ t))) := by
  intro fuel rest outer
  have hboth := skipFrom_behind hm hn hbehind fuel outer rest
  show skipFrom (fuel + (n + m) + 1) .more (.list :: outer) _ = _
  rw [List.append_assoc, skipFrom_blanks before, List.cons_append, skipFrom_comma, if_pos rfl,
    List.append_assoc, skipFrom_blanks blanks, List.append_assoc, ← Nat.add_assoc]
  exact hboth

theorem skipsIn_member {name b' v : Text} {m n : Nat} (before : IsBlanks b)
    (named : IsName name) (blanks : IsBlanks b') (hm : SkipsIn m .value v)
    (hbehind : Form (.behind .members) t) (hn : SkipsIn n (.behind .members) t) :
    SkipsIn (n + m + 1 + 1) (.behind .members) (b ++ ',' :: (name ++ (b' ++ (v ++ t)))) := by
  intro fuel rest outer
  have hboth := skipFrom_behind hm hn hbehind fuel outer rest
  show skipFrom (fuel + (n + m) + 1 + 1) .more (.members :: outer) _ = _
  rw [List.append_assoc, skipFrom_blanks before, List.cons_append, skipFrom_comma,
    if_neg (by decide), List.append_assoc, skipFrom_name named, List.append_assoc,
    skipFrom_blanks blanks, List.append_assoc, ← Nat.add_assoc]
  exact hboth

/-- **Every part of a text in JSON is skipped**, in at most as many steps as it has
characters. -/
theorem skipFrom_form {part : Part} (h : Form part t) :
    ∃ steps, steps < t.length ∧ SkipsIn (steps + 1) part t := by
  -- a part takes one step for itself and those of the parts inside, which are shorter
  induction h with
  | word word =>
    refine ⟨0, ?_, skipsIn_word word⟩
    obtain ⟨c, t', rfl, -⟩ := exists_cons_of_isValue (.word word)
    exact Nat.succ_pos _
  | number number =>
    refine ⟨0, ?_, skipsIn_number number⟩
    obtain ⟨c, t', rfl, -⟩ := exists_cons_of_isValue (.number number)
    exact Nat.succ_pos _
  | string quoted => exact ⟨0, Nat.succ_pos _, skipsIn_string quoted⟩
  | emptyList blanks => exact ⟨1, by simp, skipsIn_emptyList blanks⟩
  | list blanks first others ihFirst ihOthers =>
    obtain ⟨m, hm, hfirst⟩ := ihFirst
    obtain ⟨n, hn, hothers⟩ := ihOthers
    refine ⟨_, ?_, skipsIn_list blanks first hfirst others hothers⟩
    simp only [List.length_cons, List.length_append]
    omega
  | emptyObject blanks => exact ⟨1, by simp, skipsIn_emptyObject blanks⟩
  | object named blanks first others ihFirst ihOthers =>
    obtain ⟨m, hm, hfirst⟩ := ihFirst
    obtain ⟨n, hn, hothers⟩ := ihOthers
    have hname := length_pos_of_isName named
    refine ⟨_, ?_, skipsIn_object named blanks hfirst others hothers⟩
    simp only [List.length_cons, List.length_append]
    omega
  | close blanks => exact ⟨0, by simp, skipsIn_close _ blanks⟩
  | item before blanks next others ihNext ihOthers =>
    obtain ⟨m, hm, hnext⟩ := ihNext
    obtain ⟨n, hn, hothers⟩ := ihOthers
    refine ⟨_, ?_, skipsIn_item before blanks hnext others hothers⟩
    simp only [List.length_cons, List.length_append]
    omega
  | member before named blanks next others ihNext ihOthers =>
    obtain ⟨m, hm, hnext⟩ := ihNext
    obtain ⟨n, hn, hothers⟩ := ihOthers
    have hname := length_pos_of_isName named
    refine ⟨_, ?_, skipsIn_member before named blanks hnext others hothers⟩
    simp only [List.length_cons, List.length_append]
    omega

/-- **A value is skipped to its end**, with any blanks in front, whatever stands behind it. -/
theorem skip_append {b : Text} (hb : IsBlanks b) (h : IsValue t) (hrest : Stops rest) :
    skip (b ++ (t ++ rest)) = .ok rest := by
  obtain ⟨steps, hsteps, hskips⟩ := skipFrom_form h
  obtain ⟨fuel, hfuel⟩ : ∃ fuel, (b ++ (t ++ rest)).length + 1 = fuel + (steps + 1) := by
    refine ⟨(b ++ (t ++ rest)).length - steps, ?_⟩
    simp only [List.length_append]
    omega
  rw [skip, hfuel, skipFrom_blanks hb, hskips fuel rest [] hrest]
  rfl

end

end TextIntake.Json
