import TextIntake.Proofs.Json.Skipping

set_option autoImplicit false

/-!
# Reading records

An object is read member by member, in the order in which the members stand.  A member that is
a field changes the record; any other member is skipped.  What the record holds behind the
object is then settled by the names of the members alone, however these are ordered and
spaced out, when each value is one that the field of its name reads.

Main statements: `membersFrom_of_members` and `reads_record`.
-/

namespace TextIntake.Json

/-! ## Objects as they are written -/

/-- What stands in front of a name: blanks, behind a comma unless it is the first. -/
inductive IsSeparator : Bool → Text → Prop
  | first {b : Text} (blanks : IsBlanks b) : IsSeparator true b
  | comma {b b' : Text} (before : IsBlanks b) (behind : IsBlanks b') :
      IsSeparator false (b ++ ',' :: b')

/-- The members of an object, each by its name and the text of its value, from the opening
bracket or from the end of a member on, up to the end of the object. -/
inductive IsMembers : Bool → List (String × Text) → Text → Prop
  | close {isFirst : Bool} {b : Text} (blanks : IsBlanks b) :
      IsMembers isFirst [] (b ++ ['\x7d'])
  | member {isFirst : Bool} {separator b b' v t : Text} {name : String}
      {ms : List (String × Text)} (separates : IsSeparator isFirst separator)
      (before : IsBlanks b) (behind : IsBlanks b') (others : IsMembers false ms t) :
      IsMembers isFirst ((name, v) :: ms)
        (separator ++ (writeString name.toList ++ (b ++ ':' :: (b' ++ (v ++ t)))))

/-- An object with the given members. -/
inductive IsObject : List (String × Text) → Text → Prop
  | brackets {ms : List (String × Text)} {t : Text} (members : IsMembers true ms t) :
      IsObject ms ('\x7b' :: t)

section

variable {isFirst : Bool} {ms : List (String × Text)} {t : Text}

theorem length_lt_of_isMembers (h : IsMembers isFirst ms t) : ms.length < t.length := by
  induction h with
  | close blanks =>
    simp only [List.length_nil, List.length_append, List.length_cons]
    omega
  | member separates before behind others ih =>
    simp only [List.length_append, List.length_cons]
    omega

theorem stops_of_isMembers (h : IsMembers false ms t) (rest : Text) : Stops (t ++ rest) := by
  cases h with
  | close blanks =>
    rw [List.append_assoc]
    exact stops_append blanks (stops_cons rfl _)
  | member separates before behind others =>
    cases separates with
    | comma before' behind' =>
      rw [List.append_assoc, List.append_assoc]
      exact stops_append before' (stops_cons rfl _)

end

/-! ## Reading members -/

section

variable {α : Type} {fields : List (Field α)} {isFirst : Bool} {ms : List (String × Text)}
  {t : Text}

/-- The end of an object. -/
theorem membersFrom_close {b : Text} (hb : IsBlanks b) (fuel : Nat) (isFirst : Bool)
    (seen : List String) (a : α) (rest : Text) :
    membersFrom fields (fuel + 1) isFirst seen a (b ++ '\x7d' :: rest) =
      .ok ((a, seen), rest) := by
  rw [membersFrom, dropBlanks_append hb, dropBlanks_cons rfl]
  rfl

/-- A member is read by its name. -/
theorem membersFrom_member {separator b : Text} {name : String}
    (hseparator : IsSeparator isFirst separator) (hb : IsBlanks b) (fuel : Nat)
    (seen : List String) (a : α) (rest : Text) :
    membersFrom fields (fuel + 1) isFirst seen a
        (separator ++ (writeString name.toList ++ (b ++ ':' :: rest))) =
      (match fields.find? fun f => f.name == name with
      | none => (skip rest).bind fun rest => membersFrom fields fuel false seen a rest
      | some field =>
        if seen.contains name then .error .unsuitable
        else (field.read a rest).bind fun (a, rest) =>
          membersFrom fields fuel false (name :: seen) a rest) := by
  have hstring := string_flatMap_writeChar name.toList (b ++ ':' :: rest)
  have hcolon := skipColon_append hb rest
  have hname : String.ofList name.toList = name := String.ofList_toList
  rw [writeString_append]
  cases hseparator with
  | first blanks =>
    rw [membersFrom, dropBlanks_append blanks, dropBlanks_cons rfl]
    simp only [bind, Except.bind, hstring, hcolon, hname]
    rfl
  | comma before behind =>
    rename_i b₁ b₂
    rw [List.append_assoc, List.cons_append, membersFrom, dropBlanks_append before,
      dropBlanks_cons rfl]
    have hquote : dropBlanks (b₂ ++ '"' :: (name.toList.flatMap writeChar ++
        '"' :: (b ++ ':' :: rest))) =
          '"' :: (name.toList.flatMap writeChar ++ '"' :: (b ++ ':' :: rest)) := by
      rw [dropBlanks_append behind, dropBlanks_cons rfl]
    simp only [bind, Except.bind, hquote, hstring, hcolon, hname]
    rfl

/-- A family of records, one for all names of members that have been read. -/
structure Follows (fields : List (Field α)) (state : List String → α) (name : String)
    (v : Text) : Prop where
  field : ∀ field ∈ fields, field.name = name →
    ∀ names, Reads (field.read (state names)) v (state (name :: names))
  other : (∀ field ∈ fields, field.name ≠ name) →
    IsValue v ∧ ∀ names, state (name :: names) = state names

/-- **Members are read to the end of their object**, each field at most once, and the record
behind them is the one for the names that they have. -/
theorem membersFrom_of_members {state : List String → α} (hms : IsMembers isFirst ms t)
    (hfollows : ∀ m ∈ ms, Follows fields state m.1 m.2) {seen names : List String}
    (honce : ((ms.map Prod.fst).filter fun name => fields.any (·.name == name)).Nodup)
    (hfresh : ∀ name ∈ ms.map Prod.fst, name ∉ seen) {fuel : Nat} (hfuel : ms.length < fuel)
    (rest : Text) :
    ∃ seen', membersFrom fields fuel isFirst seen (state names) (t ++ rest) =
      .ok ((state ((ms.map Prod.fst).reverse ++ names), seen'), rest) := by
  induction hms generalizing seen names fuel with
  | close blanks =>
    obtain ⟨fuel, rfl⟩ := Nat.exists_eq_add_of_lt hfuel
    refine ⟨seen, ?_⟩
    rw [List.append_assoc]
    exact membersFrom_close blanks _ _ seen (state names) rest
  | member separates before behind others ih =>
    rename_i isFirst separator b b' v t name ms
    obtain ⟨hhead, htail⟩ := List.forall_mem_cons.1 hfollows
    obtain ⟨hnew, hlater⟩ := List.forall_mem_cons.1 hfresh
    obtain ⟨fuel, rfl⟩ : ∃ k, fuel = k + 1 := ⟨fuel - 1, by omega⟩
    have hfuel' : ms.length < fuel := Nat.lt_of_succ_lt_succ hfuel
    have hnames : (ms.map Prod.fst).reverse ++ (name :: names) =
        (((name, v) :: ms).map Prod.fst).reverse ++ names := by
      rw [List.map_cons, List.reverse_cons, List.append_assoc, List.singleton_append]
    have hstops := stops_of_isMembers others rest
    simp only [List.append_assoc, List.cons_append]
    rw [membersFrom_member separates before, ← hnames]
    rw [List.map_cons, List.filter_cons] at honce
    cases hfound : fields.find? fun f => f.name == name with
    | none =>
      have hunknown : ∀ field ∈ fields, field.name ≠ name := by
        intro field hfield
        simpa using List.find?_eq_none.1 hfound field hfield
      obtain ⟨hvalue, hsame⟩ := hhead.other hunknown
      have hrest : ((ms.map Prod.fst).filter fun name =>
          fields.any (·.name == name)).Nodup := by
        rw [if_neg] at honce
        · exact honce
        · simpa using hunknown
      have hagain : ∃ seen', membersFrom fields fuel false seen (state (name :: names))
          (t ++ rest) =
            .ok ((state ((ms.map Prod.fst).reverse ++ (name :: names)), seen'), rest) :=
        ih htail hrest hlater hfuel'
      rw [hsame names] at hagain
      rw [skip_append behind hvalue hstops]
      exact hagain
    | some field =>
      have hfield := List.mem_of_find?_eq_some hfound
      have hname : field.name = name := by simpa using List.find?_some hfound
      have hknown : (fields.any (·.name == name)) = true :=
        List.any_eq_true.2 ⟨field, hfield, by rw [hname, beq_self_eq_true]⟩
      rw [if_pos hknown, List.nodup_cons] at honce
      have hread := hhead.field field hfield hname names b' (t ++ rest) behind hstops
      have hunseen : seen.contains name = false := by simpa using hnew
      have hfresh' : ∀ other ∈ ms.map Prod.fst, other ∉ name :: seen := by
        intro other hother hmem
        rcases List.mem_cons.1 hmem with rfl | hmem
        · exact honce.1 (List.mem_filter.2 ⟨hother, hknown⟩)
        · exact hlater other hother hmem
      simp only [hunseen, hread]
      exact ih htail honce.2 hfresh' hfuel'

/-- A record without fields that have to be there is read from any object of its fields. -/
theorem reads_record {state : List String → α}
    (hrequired : ∀ field ∈ fields, field.required = false) (hobject : IsObject ms t)
    (hfollows : ∀ m ∈ ms, Follows fields state m.1 m.2)
    (honce : ((ms.map Prod.fst).filter fun name => fields.any (·.name == name)).Nodup) :
    Reads (record fields (state [])) t (state (ms.map Prod.fst).reverse) := by
  intro b rest hb _
  cases hobject with
  | brackets members =>
    rename_i t
    have hfuel : ms.length < (t ++ rest).length + 1 := by
      have hlength := length_lt_of_isMembers members
      rw [List.length_append]
      omega
    obtain ⟨seen, hmembers⟩ := membersFrom_of_members members hfollows honce
      (fun name _ => List.not_mem_nil) hfuel rest
    have hcomplete : (fields.any fun f => f.required && !seen.contains f.name) = false := by
      refine List.any_eq_false.2 fun field hfield => ?_
      rw [hrequired field hfield, Bool.false_and]
      exact Bool.false_ne_true
    rw [List.append_nil] at hmembers
    rw [record, dropBlanks_append hb, List.cons_append, dropBlanks_cons rfl]
    simp only [bind, Except.bind, hmembers, hcomplete]
    rfl

end

/-! ## Selections -/

/-- The members of an object. -/
def Value.members : Value → List (String × Value)
  | .object members => members
  | _ => []

/-- An object that has some of the given members, each at most once and in a form that it may be
written in, and any members besides that have other names. -/
structure IsSelection (forms : List (String × (Text → Prop))) (ms : List (String × Text))
    (t : Text) : Prop where
  object : IsObject ms t
  once : ((ms.map Prod.fst).filter fun name => forms.any (·.1 == name)).Nodup
  member : ∀ m ∈ ms, (∃ form, (m.1, form) ∈ forms ∧ form m.2) ∨
    (∀ form ∈ forms, form.1 ≠ m.1) ∧ IsValue m.2

section

variable {α : Type} {fields : List (Field α)} {forms : List (String × (Text → Prop))}
  {ms : List (String × Text)} {t : Text}

/-- A record is read from any selection of its fields. -/
theorem reads_record_of_selection (state : List String → α)
    (hnames : fields.map Field.name = forms.map Prod.fst)
    (hrequired : ∀ field ∈ fields, field.required = false)
    (hreads : ∀ field ∈ fields, ∀ v, (∃ form, (field.name, form) ∈ forms ∧ form v) →
      ∀ names, Reads (field.read (state names)) v (state (field.name :: names)))
    (hother : ∀ name names, name ∉ forms.map Prod.fst → state (name :: names) = state names)
    (h : IsSelection forms ms t) :
    Reads (record fields (state [])) t (state (ms.map Prod.fst).reverse) := by
  have hany : ∀ name, fields.any (·.name == name) = forms.any (·.1 == name) := by
    intro name
    have hmapped : (fields.map Field.name).any (· == name) =
        (forms.map Prod.fst).any (· == name) := by rw [hnames]
    rw [List.any_map, List.any_map] at hmapped
    exact hmapped
  refine reads_record hrequired h.object (fun m hm => ?_) ?_
  · refine ⟨fun field hfield hname names => ?_, fun hunknown => ?_⟩
    · rcases h.member m hm with hform | ⟨hunknown, -⟩
      · rw [← hname] at hform ⊢
        exact hreads field hfield m.2 hform names
      · have hmem : m.1 ∈ forms.map Prod.fst := by
          rw [← hnames, ← hname]
          exact List.mem_map_of_mem hfield
        obtain ⟨form, hform, hsame⟩ := List.mem_map.1 hmem
        exact absurd hsame (hunknown form hform)
    · have hnew : m.1 ∉ forms.map Prod.fst := by
        rw [← hnames]
        intro hmem
        obtain ⟨field, hfield, hsame⟩ := List.mem_map.1 hmem
        exact hunknown field hfield hsame
      rcases h.member m hm with ⟨form, hform, -⟩ | ⟨-, hvalue⟩
      · exact absurd (List.mem_map_of_mem hform) hnew
      · exact ⟨hvalue, fun names => hother m.1 names hnew⟩
  · simpa only [hany] using h.once

/-- An object that has all the given members is a selection. -/
theorem isSelection_of_isObject (hobject : IsObject ms t)
    (hnames : ms.map Prod.fst = forms.map Prod.fst) (hnodup : (forms.map Prod.fst).Nodup)
    (hforms : ∀ m ∈ ms, ∃ form, (m.1, form) ∈ forms ∧ form m.2) : IsSelection forms ms t where
  object := hobject
  once := by
    rw [hnames]
    exact hnodup.filter _
  member m hm := .inl (hforms m hm)

end

/-! ## Objects in one line, and spread over lines -/

section

variable {m : String × Text} {ms : List (String × Text)} {t : Text}

/-- Behind a comma the first of some members is not the first of all. -/
theorem IsMembers.behind_comma (h : IsMembers true (m :: ms) t) :
    IsMembers false (m :: ms) (',' :: t) := by
  cases h with
  | member separates before behind others =>
    cases separates with
    | first blanks => exact .member (.comma isBlanks_nil blanks) before behind others

theorem isMembers_compactMembers (members : List (String × Value)) :
    IsMembers true (members.map fun (name, v) => (name, v.compact))
      (Value.compactMembers members ++ ['\x7d']) := by
  induction members with
  | nil => exact .close isBlanks_nil
  | cons m members ih =>
    obtain ⟨name, v⟩ := m
    cases members with
    | nil =>
      rw [Value.compactMembers, List.append_assoc, List.cons_append]
      exact .member (.first isBlanks_nil) isBlanks_nil isBlanks_nil (.close isBlanks_nil)
    | cons m members =>
      rw [Value.compactMembers, List.append_assoc, List.append_assoc, List.cons_append,
        List.cons_append]
      · exact .member (.first isBlanks_nil) isBlanks_nil isBlanks_nil ih.behind_comma
      · simp

/-- An object that is written in one line. -/
theorem isObject_compact (members : List (String × Value)) :
    IsObject (members.map fun (name, v) => (name, v.compact))
      (Value.object members).compact := by
  rw [Value.compact]
  exact .brackets (isMembers_compactMembers members)

theorem isBlanks_newLine (level : Nat) : IsBlanks (Value.newLine level) := by
  intro c hc
  rcases List.mem_cons.1 hc with rfl | hc
  · rfl
  · rw [(List.mem_replicate.1 hc).2]
    rfl

theorem isBlanks_blank : IsBlanks [' '] := by
  intro c hc
  obtain rfl := List.mem_singleton.1 hc
  rfl

theorem isMembers_prettyMembers (level : Nat) (members : List (String × Value)) {b : Text}
    (hb : IsBlanks b) :
    IsMembers true (members.map fun (name, v) => (name, v.pretty level))
      (Value.prettyMembers level members ++ (b ++ ['\x7d'])) := by
  have hline := isBlanks_newLine level
  induction members with
  | nil => exact .close hb
  | cons m members ih =>
    obtain ⟨name, v⟩ := m
    cases members with
    | nil =>
      rw [Value.prettyMembers, List.append_assoc, List.append_assoc, List.cons_append,
        List.cons_append]
      exact .member (.first hline) isBlanks_nil isBlanks_blank (.close hb)
    | cons m members =>
      rw [Value.prettyMembers]
      · simp only [List.append_assoc, List.cons_append]
        exact .member (.first hline) isBlanks_nil isBlanks_blank ih.behind_comma
      · simp

/-- An object that is spread over lines. -/
theorem isObject_pretty (level : Nat) (members : List (String × Value)) :
    IsObject (members.map fun (name, v) => (name, v.pretty (level + 1)))
      ((Value.object members).pretty level) := by
  cases members with
  | nil =>
    rw [Value.pretty]
    exact .brackets (.close isBlanks_nil)
  | cons m members =>
    rw [Value.pretty, List.cons_append, List.cons_append, List.append_assoc]
    exact .brackets (isMembers_prettyMembers (level + 1) (m :: members) (isBlanks_newLine level))

end

end TextIntake.Json
