import TextIntake.CommandLine.Arguments

set_option autoImplicit false

/-!
# The grammar of the command line

Arguments are read from the first to the last, and what an argument is depends on the one
before it.  They are accepted when they fall into groups: a flag with its value, a flag that
stands alone, or the input.  The groups may come in any order, and what they mean together
does not depend on it, apart from values of one flag, of which the last counts.

Main statements: `readFrom_written`, `exists_groups_of_readFrom` and `read_grammar`.
-/

namespace TextIntake.CommandLine

open Arguments

/-! ## Flags -/

/-- A flag that takes a value. -/
inductive ValuedFlag where
  | options
  | log
  | encoding
  deriving DecidableEq, Repr, Inhabited

/-- A flag that stands alone. -/
inductive Switch where
  | noAutoDetect
  | ignoreComments
  | ignoreCase
  deriving DecidableEq, Repr, Inhabited

namespace ValuedFlag

def all : List ValuedFlag := [options, log, encoding]

def name : ValuedFlag → String
  | options => "--options"
  | log => "--log"
  | encoding => "--encoding"

/-- The argument that is the flag. -/
def word (flag : ValuedFlag) : Text := flag.name.toList

/-- The value of the flag among arguments that were read. -/
def field : ValuedFlag → Arguments → Option Text
  | options => Arguments.optionsFile
  | log => Arguments.logFile
  | encoding => Arguments.encoding

def put : ValuedFlag → Arguments → Text → Arguments
  | options, a, value => { a with optionsFile := some value }
  | log, a, value => { a with logFile := some value }
  | encoding, a, value => { a with encoding := some value }

theorem valued_eq : valued = all.map fun flag => (flag.name, flag.put) := rfl

end ValuedFlag

namespace Switch

def all : List Switch := [noAutoDetect, ignoreComments, ignoreCase]

def name : Switch → String
  | noAutoDetect => "--no-auto-detect"
  | ignoreComments => "--ignore-comments"
  | ignoreCase => "--ignore-case"

/-- The argument that is the flag. -/
def word (flag : Switch) : Text := flag.name.toList

/-- Whether the flag stands among arguments that were read. -/
def isOn : Switch → Arguments → Bool
  | noAutoDetect => Arguments.noAutoDetect
  | ignoreComments => Arguments.ignoreComments
  | ignoreCase => Arguments.ignoreCase

def turnOn : Switch → Arguments → Arguments
  | noAutoDetect, a => { a with noAutoDetect := true }
  | ignoreComments, a => { a with ignoreComments := true }
  | ignoreCase, a => { a with ignoreCase := true }

theorem switches_eq : switches = all.map fun flag => (flag.name, flag.turnOn) := rfl

end Switch

/-! ## Groups -/

/-- Arguments that belong together. -/
inductive Group where
  /-- a flag and its value -/
  | valued (flag : ValuedFlag) (value : Text)
  | switch (flag : Switch)
  | input (argument : Text)
  deriving DecidableEq, Repr, Inhabited

/-- The kinds of groups: one for each flag, and one for inputs. -/
inductive Kind where
  | valued (flag : ValuedFlag)
  | switch (flag : Switch)
  | input
  deriving DecidableEq, Repr, Inhabited

namespace Group

def kind : Group → Kind
  | valued flag _ => .valued flag
  | switch flag => .switch flag
  | input _ => .input

/-- The arguments of a group. -/
def words : Group → List Text
  | valued flag value => [flag.word, value]
  | switch flag => [flag.word]
  | input argument => [argument]

/-- Nothing in a group is taken for a flag that is none, nor for a call for help. -/
def Proper : Group → Prop
  | valued _ value => isFlag value = false
  | switch _ => True
  | input argument => isFlag argument = false ∧ argument ≠ "-h".toList

instance : (g : Group) → Decidable g.Proper
  | valued _ _ => inferInstanceAs (Decidable (_ = _))
  | switch _ => inferInstanceAs (Decidable True)
  | input _ => inferInstanceAs (Decidable (_ ∧ _))

/-- The value that a group gives to a flag. -/
def value? (flag : ValuedFlag) : Group → Option Text
  | valued flag' value => if flag' = flag then some value else none
  | switch _ | input _ => none

def input? : Group → Option Text
  | input argument => some argument
  | valued _ _ | switch _ => none

/-- What a group says, apart from the input. -/
def apply (a : Arguments) : Group → Arguments
  | valued flag value => flag.put a value
  | switch flag => flag.turnOn a
  | input _ => a

end Group

/-- The arguments of groups, one group behind the other. -/
def written (groups : List Group) : List Text := groups.flatMap Group.words

/-- The inputs among groups. -/
def inputs (groups : List Group) : List Text := groups.filterMap Group.input?

/-- The value that the last group of its kind gives to a flag. -/
def lastValue (flag : ValuedFlag) (groups : List Group) : Option Text :=
  (groups.filterMap (Group.value? flag)).getLast?

/-- Groups say this and nothing else. -/
structure Means (groups : List Group) (a : Arguments) : Prop where
  /-- There is one input. -/
  input : inputs groups = [a.input]
  /-- Of the values of a flag the last counts, and a flag without a value has none. -/
  field : ∀ flag : ValuedFlag, flag.field a = lastValue flag groups
  switch : ∀ flag : Switch, flag.isOn a = true ↔ .switch flag ∈ groups

/-! ## Tables of flags -/

section Table

variable {α β : Type} {flags : List α} {name : α → String} {put : α → β} {argument : Text}

/-- What is found in a table of flags is a flag that the argument is written as. -/
theorem exists_flag_of_find? {entry : String × β}
    (h : (flags.map fun flag => (name flag, put flag)).find?
      (fun (name, _) => name == String.ofList argument) = some entry) :
    ∃ flag, argument = (name flag).toList ∧ entry = (name flag, put flag) := by
  obtain ⟨flag, -, rfl⟩ := List.mem_map.1 (List.mem_of_find?_eq_some h)
  have hname : (name flag == String.ofList argument) = true := by simpa using List.find?_some h
  refine ⟨flag, ?_, rfl⟩
  rw [eq_of_beq hname, String.toList_ofList]

/-- What looks like no flag is not found in a table of flags. -/
theorem find?_eq_none_of_isFlag (hflags : ∀ flag, isFlag (name flag).toList = true)
    (hargument : isFlag argument = false) :
    (flags.map fun flag => (name flag, put flag)).find?
      (fun (name, _) => name == String.ofList argument) = none := by
  rw [Option.eq_none_iff_forall_ne_some]
  intro entry h
  obtain ⟨flag, rfl, -⟩ := exists_flag_of_find? h
  exact absurd (hflags flag) (Bool.eq_false_iff.1 hargument)

end Table

theorem find?_valued_word (flag : ValuedFlag) :
    valued.find? (fun (name, _) => name == String.ofList flag.word) =
      some (flag.name, flag.put) := by
  cases flag <;> rfl

theorem find?_switches_word (flag : Switch) :
    switches.find? (fun (name, _) => name == String.ofList flag.word) =
      some (flag.name, flag.turnOn) := by
  cases flag <;> rfl

/-- A flag that stands alone takes no value. -/
theorem find?_valued_switch (flag : Switch) :
    valued.find? (fun (name, _) => name == String.ofList flag.word) = none := by
  cases flag <;> rfl

theorem ValuedFlag.isFlag_word (flag : ValuedFlag) : isFlag flag.word = true := by
  cases flag <;> rfl

theorem Switch.isFlag_word (flag : Switch) : isFlag flag.word = true := by
  cases flag <;> rfl

/-- A call for help that looks like no flag. -/
theorem helpFlags_contains_iff {argument : Text} (h : isFlag argument = false) :
    helpFlags.contains (String.ofList argument) = true ↔ argument = "-h".toList := by
  rw [List.contains_iff_mem, helpFlags, List.mem_cons, List.mem_singleton]
  constructor
  · rintro (hword | hword)
    · rw [← hword, String.toList_ofList]
    · obtain rfl : argument = "--help".toList := by rw [← hword, String.toList_ofList]
      exact absurd h (by decide)
  · rintro rfl
    exact .inl rfl

/-! ## Reading groups -/

/-- A flag and its value are read together, whatever else the value is. -/
theorem readFrom_valued (a : Arguments) (seen : Option Text) (flag : ValuedFlag) {value : Text}
    (hvalue : isFlag value = false) (rest : List Text) :
    readFrom a seen (flag.word :: value :: rest) = readFrom (flag.put a value) seen rest := by
  rw [readFrom, find?_valued_word]
  simp only [hvalue, Bool.false_eq_true, if_false]

theorem readFrom_switch (a : Arguments) (seen : Option Text) (flag : Switch) (rest : List Text) :
    readFrom a seen (flag.word :: rest) = readFrom (flag.turnOn a) seen rest := by
  rw [readFrom]
  simp only [find?_valued_switch, find?_switches_word]

theorem readFrom_input (a : Arguments) (seen : Option Text) {argument : Text}
    (h : (Group.input argument).Proper) (rest : List Text) :
    readFrom a seen (argument :: rest) =
      if seen.isSome then .error .secondInput else readFrom a (some argument) rest := by
  obtain ⟨hflag, hhelp⟩ := h
  have hcontains : helpFlags.contains (String.ofList argument) = false := by
    rw [Bool.eq_false_iff, Ne, helpFlags_contains_iff hflag]
    exact hhelp
  rw [readFrom, ValuedFlag.valued_eq, Switch.switches_eq,
    find?_eq_none_of_isFlag ValuedFlag.isFlag_word hflag]
  dsimp only
  rw [find?_eq_none_of_isFlag Switch.isFlag_word hflag]
  simp only [hcontains, hflag, Bool.false_eq_true, if_false]

/-- What the inputs that were given come to. -/
def settle (a : Arguments) : List Text → Except ArgumentFault Arguments
  | [] => .error .noInput
  | [input] => .ok { a with input }
  | _ :: _ :: _ => .error .secondInput

/-- Groups are read one after the other, and it is counted in the end how many inputs there
were. -/
theorem readFrom_written {groups : List Group} (h : ∀ g ∈ groups, g.Proper) (a : Arguments)
    (seen : Option Text) :
    readFrom a seen (written groups) =
      settle (groups.foldl Group.apply a) (seen.toList ++ inputs groups) := by
  induction groups generalizing a seen with
  | nil => cases seen <;> rfl
  | cons g groups ih =>
    obtain ⟨hg, hgroups⟩ := List.forall_mem_cons.1 h
    cases g with
    | valued flag value => exact (readFrom_valued a seen flag hg _).trans (ih hgroups _ seen)
    | switch flag => exact (readFrom_switch a seen flag _).trans (ih hgroups _ seen)
    | input argument =>
      refine (readFrom_input a seen hg _).trans ?_
      cases seen with
      | none => exact ih hgroups a (some argument)
      | some first => rfl

/-- What is accepted falls into groups. -/
theorem exists_groups_of_readFrom {a b : Arguments} {seen : Option Text} {words : List Text}
    (h : readFrom a seen words = .ok b) :
    ∃ groups, (∀ g ∈ groups, g.Proper) ∧ written groups = words := by
  -- one group for each step in which reading goes on; in all other cases it has refused
  fun_induction readFrom a seen words with
  | case1 => exact ⟨[], by simp, rfl⟩
  | case5 a seen argument word name put hfind value rest hvalue ih =>
    obtain ⟨flag, rfl, -⟩ := exists_flag_of_find? (ValuedFlag.valued_eq ▸ hfind)
    obtain ⟨groups, hgroups, rfl⟩ := ih h
    exact ⟨.valued flag value :: groups,
      List.forall_mem_cons.2 ⟨Bool.eq_false_iff.2 hvalue, hgroups⟩, rfl⟩
  | case6 a seen argument rest word hnone name put hfind ih =>
    obtain ⟨flag, rfl, -⟩ := exists_flag_of_find? (Switch.switches_eq ▸ hfind)
    obtain ⟨groups, hgroups, rfl⟩ := ih h
    exact ⟨.switch flag :: groups, List.forall_mem_cons.2 ⟨trivial, hgroups⟩, rfl⟩
  | case10 a seen argument rest word hvalued hswitch hhelp hflag hseen ih =>
    obtain ⟨groups, hgroups, rfl⟩ := ih h
    have hflag : isFlag argument = false := Bool.eq_false_iff.2 hflag
    exact ⟨.input argument :: groups, List.forall_mem_cons.2
      ⟨⟨hflag, fun hword => hhelp ((helpFlags_contains_iff hflag).2 hword)⟩, hgroups⟩, rfl⟩
  | case2 | case3 | case4 | case7 | case8 | case9 => cases h

/-! ## What groups mean -/

/-- Arguments that say the same apart from the input. -/
def SameFlags (a b : Arguments) : Prop :=
  (∀ flag : ValuedFlag, flag.field a = flag.field b) ∧ ∀ flag : Switch, flag.isOn a = flag.isOn b

theorem SameFlags.refl (a : Arguments) : SameFlags a a := ⟨fun _ => rfl, fun _ => rfl⟩

theorem SameFlags.symm {a b : Arguments} (h : SameFlags a b) : SameFlags b a :=
  ⟨fun flag => (h.1 flag).symm, fun flag => (h.2 flag).symm⟩

theorem SameFlags.trans {a b c : Arguments} (h : SameFlags a b) (hnext : SameFlags b c) :
    SameFlags a c :=
  ⟨fun flag => (h.1 flag).trans (hnext.1 flag), fun flag => (h.2 flag).trans (hnext.2 flag)⟩

/-- Flags and the input are all that arguments say. -/
theorem SameFlags.eq_of_input {a b : Arguments} (h : SameFlags a b) (hinput : a.input = b.input) :
    a = b := by
  obtain ⟨hfield, hswitch⟩ := h
  have hoptions : a.optionsFile = b.optionsFile := hfield .options
  have hlog : a.logFile = b.logFile := hfield .log
  have hencoding : a.encoding = b.encoding := hfield .encoding
  have hdetect : a.noAutoDetect = b.noAutoDetect := hswitch .noAutoDetect
  have hcomments : a.ignoreComments = b.ignoreComments := hswitch .ignoreComments
  have hcase : a.ignoreCase = b.ignoreCase := hswitch .ignoreCase
  cases a
  cases b
  simp_all

theorem sameFlags_input (a : Arguments) (input : Text) : SameFlags { a with input } a := by
  constructor <;> intro flag <;> cases flag <;> rfl

theorem field_put (flag other : ValuedFlag) (a : Arguments) (value : Text) :
    flag.field (other.put a value) = if other = flag then some value else flag.field a := by
  cases flag <;> cases other <;> rfl

theorem field_turnOn (flag : ValuedFlag) (other : Switch) (a : Arguments) :
    flag.field (other.turnOn a) = flag.field a := by
  cases flag <;> cases other <;> rfl

theorem isOn_put (flag : Switch) (other : ValuedFlag) (a : Arguments) (value : Text) :
    flag.isOn (other.put a value) = flag.isOn a := by
  cases flag <;> cases other <;> rfl

theorem isOn_turnOn (flag other : Switch) (a : Arguments) :
    flag.isOn (other.turnOn a) = true ↔ flag = other ∨ flag.isOn a = true := by
  cases flag <;> cases other <;> simp [Switch.isOn, Switch.turnOn]

/-- A group sets the field of its flag. -/
theorem field_apply (flag : ValuedFlag) (a : Arguments) (g : Group) :
    flag.field (g.apply a) = (g.value? flag).or (flag.field a) := by
  cases g with
  | valued other value =>
    rw [Group.apply, field_put, Group.value?]
    split <;> rfl
  | switch other => exact field_turnOn flag other a
  | input argument => rfl

theorem isOn_apply (flag : Switch) (a : Arguments) (g : Group) :
    flag.isOn (g.apply a) = true ↔ .switch flag = g ∨ flag.isOn a = true := by
  cases g with
  | valued other value => simp [Group.apply, isOn_put]
  | switch other => simp [Group.apply, isOn_turnOn]
  | input argument => simp [Group.apply]

theorem lastValue_cons (flag : ValuedFlag) (g : Group) (groups : List Group) :
    lastValue flag (g :: groups) = (lastValue flag groups).or (g.value? flag) := by
  rw [lastValue, lastValue, List.filterMap_cons]
  cases g.value? flag with
  | none => rw [Option.or_none]
  | some value =>
    rw [List.getLast?_cons]
    cases (groups.filterMap (Group.value? flag)).getLast? <;> rfl

/-- Of the values of a flag, the last is what is left. -/
theorem field_foldl (flag : ValuedFlag) (groups : List Group) (a : Arguments) :
    flag.field (groups.foldl Group.apply a) = (lastValue flag groups).or (flag.field a) := by
  induction groups generalizing a with
  | nil => rfl
  | cons g groups ih => rw [List.foldl_cons, ih, field_apply, lastValue_cons, Option.or_assoc]

theorem isOn_foldl (flag : Switch) (groups : List Group) (a : Arguments) :
    flag.isOn (groups.foldl Group.apply a) = true ↔
      .switch flag ∈ groups ∨ flag.isOn a = true := by
  induction groups generalizing a with
  | nil => simp
  | cons g groups ih => rw [List.foldl_cons, ih, isOn_apply, List.mem_cons, or_assoc, or_left_comm]

theorem sameFlags_foldl_iff {groups : List Group} {a : Arguments} :
    SameFlags (groups.foldl Group.apply {}) a ↔
      (∀ flag : ValuedFlag, flag.field a = lastValue flag groups) ∧
        ∀ flag : Switch, flag.isOn a = true ↔ .switch flag ∈ groups := by
  refine and_congr (forall_congr' fun flag => ?_) (forall_congr' fun flag => ?_)
  · have hnone : flag.field {} = none := by cases flag <;> rfl
    rw [field_foldl, hnone, Option.or_none, eq_comm]
  · have hoff : flag.isOn {} = false := by cases flag <;> rfl
    rw [Bool.eq_iff_iff, isOn_foldl, hoff, or_iff_left Bool.false_ne_true]
    exact iff_comm

theorem settle_eq_ok_iff {a b : Arguments} {given : List Text} :
    settle a given = .ok b ↔ given = [b.input] ∧ SameFlags a b := by
  constructor
  · intro h
    rcases given with - | ⟨input, - | ⟨second, rest⟩⟩
    · cases h
    · obtain rfl := Except.ok.inj h
      exact ⟨rfl, (sameFlags_input a input).symm⟩
    · cases h
  · rintro ⟨rfl, h⟩
    exact congrArg Except.ok (((sameFlags_input a b.input).trans h).eq_of_input rfl)

theorem SameFlags.settle_eq {a b : Arguments} (h : SameFlags a b) (given : List Text) :
    settle a given = settle b given := by
  rcases given with - | ⟨input, - | ⟨second, rest⟩⟩
  · rfl
  · exact settle_eq_ok_iff.2 ⟨rfl, h.trans (sameFlags_input b input).symm⟩
  · rfl

/-- Proper groups are accepted with what they mean. -/
theorem read_written_eq_ok_iff {groups : List Group} (h : ∀ g ∈ groups, g.Proper) {a : Arguments} :
    Arguments.read (written groups) = .ok a ↔ Means groups a := by
  rw [Arguments.read, readFrom_written h, settle_eq_ok_iff, sameFlags_foldl_iff]
  exact ⟨fun ⟨hinput, hfield, hswitch⟩ => ⟨hinput, hfield, hswitch⟩,
    fun ⟨hinput, hfield, hswitch⟩ => ⟨hinput, hfield, hswitch⟩⟩

/-! ## The order of groups -/

/-- The groups of one kind, in their order. -/
def ofKind (kind : Kind) (groups : List Group) : List Group := groups.filter (·.kind = kind)

/-- What is asked of groups of one kind is found among these. -/
theorem filterMap_ofKind {β : Type} {f : Group → Option β} {kind : Kind}
    (h : ∀ g : Group, g.kind ≠ kind → f g = none) (groups : List Group) :
    (ofKind kind groups).filterMap f = groups.filterMap f := by
  rw [ofKind, List.filterMap_filter]
  congr 1
  funext g
  by_cases hkind : g.kind = kind
  · simp [hkind]
  · simp [hkind, h g hkind]

/-- Groups of different kinds may change places. -/
theorem read_written_congr {groups others : List Group} (hgroups : ∀ g ∈ groups, g.Proper)
    (hothers : ∀ g ∈ others, g.Proper) (h : ∀ kind, ofKind kind groups = ofKind kind others) :
    Arguments.read (written groups) = Arguments.read (written others) := by
  have hinputs : inputs groups = inputs others := by
    have hkind : ∀ g : Group, g.kind ≠ .input → g.input? = none := by
      rintro (_ | _ | argument) hne
      · rfl
      · rfl
      · exact absurd rfl hne
    rw [inputs, ← filterMap_ofKind hkind, h, filterMap_ofKind hkind, inputs]
  have hvalues : ∀ flag, lastValue flag groups = lastValue flag others := by
    intro flag
    have hkind : ∀ g : Group, g.kind ≠ .valued flag → g.value? flag = none := by
      rintro (⟨other, value⟩ | _ | _) hne
      · exact if_neg fun heq => hne (congrArg Kind.valued heq)
      · rfl
      · rfl
    rw [lastValue, ← filterMap_ofKind hkind, h, filterMap_ofKind hkind, lastValue]
  have hswitches : ∀ flag, Group.switch flag ∈ groups ↔ .switch flag ∈ others := by
    intro flag
    have hmem : ∀ groups : List Group,
        .switch flag ∈ ofKind (.switch flag) groups ↔ .switch flag ∈ groups := fun groups => by
      simp [ofKind, Group.kind]
    rw [← hmem, h, hmem]
  rw [Arguments.read, Arguments.read, readFrom_written hgroups, readFrom_written hothers, hinputs]
  obtain ⟨hfields, hon⟩ := sameFlags_foldl_iff.1 (.refl (others.foldl Group.apply {}))
  exact SameFlags.settle_eq (sameFlags_foldl_iff.2
    ⟨fun flag => (hfields flag).trans (hvalues flag).symm,
      fun flag => (hon flag).trans (hswitches flag).symm⟩) _

/-- **The grammar of the command line.**  Arguments are accepted exactly when they fall into
proper groups with one input among them.  However they fall into such groups, they say what these
mean and nothing else: of the values of a flag the last counts, a flag that stands alone is on
when it occurs, and the input is the input.  In which order groups of different kinds stand makes
no difference, not even to how arguments are refused.  The value of a flag may be a hyphen, or
what would be a call for help. -/
theorem read_grammar :
    (∀ words, (∃ a, Arguments.read words = .ok a) ↔
      ∃ groups input, (∀ g ∈ groups, g.Proper) ∧ written groups = words ∧
        inputs groups = [input]) ∧
    (∀ groups a, (∀ g ∈ groups, g.Proper) →
      (Arguments.read (written groups) = .ok a ↔ Means groups a)) ∧
    (∀ groups others, (∀ g ∈ groups, g.Proper) → (∀ g ∈ others, g.Proper) →
      (∀ kind, ofKind kind groups = ofKind kind others) →
      Arguments.read (written groups) = Arguments.read (written others)) ∧
    ∀ flag, (Group.valued flag "-".toList).Proper ∧ (Group.valued flag "-h".toList).Proper := by
  refine ⟨fun words => ⟨?_, ?_⟩, fun groups a hgroups => read_written_eq_ok_iff hgroups,
    fun groups others => read_written_congr, fun flag => ⟨rfl, rfl⟩⟩
  · rintro ⟨a, h⟩
    obtain ⟨groups, hgroups, rfl⟩ := exists_groups_of_readFrom h
    exact ⟨groups, a.input, hgroups, rfl, ((read_written_eq_ok_iff hgroups).1 h).input⟩
  · rintro ⟨groups, input, hgroups, rfl, hinput⟩
    refine ⟨{ groups.foldl Group.apply {} with input }, ?_⟩
    rw [Arguments.read, readFrom_written hgroups, hinput]
    rfl

/-- The arguments `--log -h - --ignore-case --log -`: one of the hyphens is the input, the other
a value, and the switch may stand in front of everything.  With a flag behind them that is left
without its value they fall into no groups. -/
theorem read_grammar_of_hyphens :
    let groups : List Group := [.valued .log "-h".toList, .input "-".toList, .switch .ignoreCase,
      .valued .log "-".toList]
    let others : List Group := [.switch .ignoreCase, .valued .log "-h".toList,
      .valued .log "-".toList, .input "-".toList]
    let words := ["--log", "-h", "-", "--ignore-case", "--log", "-"].map String.toList
    let a : Arguments := { logFile := some "-".toList, ignoreCase := true, input := "-".toList }
    (∀ g ∈ groups, g.Proper) ∧ (∀ g ∈ others, g.Proper) ∧ written groups = words ∧
      Means groups a ∧ Arguments.read words = .ok a ∧ Arguments.read (written others) = .ok a ∧
      ¬ ∃ more input, (∀ g ∈ more, g.Proper) ∧ written more = words ++ ["--options".toList] ∧
        inputs more = [input] := by
  intro groups others words a
  obtain ⟨haccepted, hmeaning, hreordered, -⟩ := read_grammar
  have hgroups : ∀ g ∈ groups, g.Proper := by decide
  have hothers : ∀ g ∈ others, g.Proper := by decide
  have hmeans : Means groups a :=
    ⟨rfl, fun flag => by cases flag <;> rfl, fun flag => by cases flag <;> decide⟩
  have hwords : Arguments.read words = .ok a := (hmeaning groups a hgroups).2 hmeans
  have hkinds : ∀ kind, ofKind kind others = ofKind kind groups := by
    rintro (flag | flag | _)
    · cases flag <;> rfl
    · cases flag <;> rfl
    · rfl
  refine ⟨hgroups, hothers, rfl, hmeans, hwords,
    (hreordered others groups hothers hgroups hkinds).trans hwords, fun hmore => ?_⟩
  have hrefused : (Arguments.read (words ++ ["--options".toList])).toOption = none := by
    decide +kernel
  obtain ⟨b, hb⟩ := (haccepted _).2 hmore
  rw [hb] at hrefused
  cases hrefused

end TextIntake.CommandLine
