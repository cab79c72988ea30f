import TextIntake.Options.Format
import TextIntake.Proofs.Json.Record

set_option autoImplicit false

/-!
# Options survive JSON

Every encoding is found again by its name, and every comment syntax by its word.  Options that
are written are read back as they were; and an object that has only some of their members, in
any order and with others in between, is read as options that agree with them in those members
and have the defaults in the others, the two limits one by one.

Main statements: `ofLabel?_name`, `ofJson_of_selection` and `read_of_selection`.
-/

namespace TextIntake

open Json (Reads IsBlanks IsSelection)

/-! ## Single values -/

namespace Encoding

/-- Every encoding is named by its name. -/
theorem ofLabel?_name (e : Encoding) : ofLabel? e.name.toList = some e := by
  cases e with
  | legacy codec => cases codec <;> decide
  | _ => decide

theorem reads_ofJson (e : Encoding) : Reads ofJson e.toJson.compact e := by
  intro b rest hb hrest
  have htext := Json.reads_textValue e.name.toList b rest hb hrest
  show ofJson (b ++ (Json.writeString e.name.toList ++ rest)) = _
  simp only [ofJson, htext, ofLabel?_name]

end Encoding

theorem Comment.Syntax.reads_ofJson (s : Comment.Syntax) : Reads ofJson s.toJson.compact s :=
  Json.reads_wordValue (Comment.Syntax.ofWord?_word s)

/-! ## Limits -/

namespace Limits

/-- The limits that are among the named members, and the defaults of the others. -/
def keeping (l : Limits) (kept : List String) : Limits :=
  let start : Limits := {}
  { maxLines := if "max_lines" ∈ kept then l.maxLines else start.maxLines
    maxBytes := if "max_bytes" ∈ kept then l.maxBytes else start.maxBytes }

/-- Only the names of fields count. -/
theorem keeping_congr (l : Limits) {kept kept' : List String}
    (h : ∀ name ∈ fields.map Json.Field.name, (name ∈ kept ↔ name ∈ kept')) :
    l.keeping kept = l.keeping kept' := by
  simp only [fields, Json.Field.of, List.map_cons, List.map_nil, List.forall_mem_cons] at h
  simp only [keeping, h]

/-- The limits are numbers of 64 bits. -/
structure Fit (l : Limits) : Prop where
  maxLines : l.maxLines < 0x10000000000000000
  maxBytes : l.maxBytes < 0x10000000000000000

/-- The forms of the members of limits: each as it is written. -/
def forms (l : Limits) : List (String × (Text → Prop)) :=
  l.toJson.members.map fun (name, v) => (name, fun t => t = v.compact)

theorem reads_field {l : Limits} (hl : l.Fit) {field : Json.Field Limits} (hfield : field ∈ fields)
    {v : Text} (hv : ∃ form, (field.name, form) ∈ l.forms ∧ form v) (names : List String) :
    Reads (field.read (l.keeping names)) v (l.keeping (field.name :: names)) := by
  simp only [fields, List.mem_cons, List.not_mem_nil, or_false] at hfield
  rcases hfield with rfl | rfl
  · obtain rfl : v = Json.writeScalar (.number l.maxLines) := by
      simpa [forms, toJson, Json.Value.members, Json.Field.of, Json.Value.compact] using hv
    exact Json.reads_of (Json.reads_naturalValue hl.maxLines) (by simp [keeping, Json.Field.of])
  · obtain rfl : v = Json.writeScalar (.number l.maxBytes) := by
      simpa [forms, toJson, Json.Value.members, Json.Field.of, Json.Value.compact] using hv
    exact Json.reads_of (Json.reads_naturalValue hl.maxBytes) (by simp [keeping, Json.Field.of])

/-- Limits are read from any selection of their members. -/
theorem reads_ofJson {l : Limits} (hl : l.Fit) {ms : List (String × Text)} {t : Text}
    (h : IsSelection l.forms ms t) : Reads ofJson t (l.keeping (ms.map Prod.fst)) := by
  have hreads : Reads (Json.record fields (l.keeping [])) t
      (l.keeping (ms.map Prod.fst).reverse) := by
    refine Json.reads_record_of_selection l.keeping rfl (by decide) ?_
      (fun name names hname => ?_) h
    · exact fun field hfield v hv names => reads_field hl hfield hv names
    · refine l.keeping_congr fun other hother => List.mem_cons.trans (or_iff_right ?_)
      rintro rfl
      exact hname hother
  rw [l.keeping_congr fun name _ => List.mem_reverse] at hreads
  exact hreads

/-- An object with all members is a selection, however it is spaced out. -/
theorem isSelection_of_spelled (l : Limits) {spelled : Json.Value → Text} {t : Text}
    (hobject : Json.IsObject (l.toJson.members.map fun (name, v) => (name, spelled v)) t)
    (hspelled : ∀ m ∈ l.toJson.members, spelled m.2 = m.2.compact) :
    IsSelection l.forms (l.toJson.members.map fun (name, v) => (name, spelled v)) t := by
  refine Json.isSelection_of_isObject hobject rfl ?_ ?_
  · show (fields.map Json.Field.name).Nodup
    decide
  · intro m hm
    obtain ⟨⟨name, v⟩, hmember, rfl⟩ := List.mem_map.1 hm
    exact ⟨_, List.mem_map_of_mem hmember, hspelled (name, v) hmember⟩

theorem isSelection_compact (l : Limits) :
    IsSelection l.forms (l.toJson.members.map fun (name, v) => (name, v.compact))
      l.toJson.compact :=
  l.isSelection_of_spelled (Json.isObject_compact _) fun _ _ => rfl

theorem isSelection_pretty (l : Limits) (level : Nat) :
    IsSelection l.forms (l.toJson.members.map fun (name, v) => (name, v.pretty (level + 1)))
      (l.toJson.pretty level) := by
  refine l.isSelection_of_spelled (Json.isObject_pretty level _) fun m hm => ?_
  simp only [toJson, Json.Value.members, List.mem_cons, List.not_mem_nil, or_false] at hm
  rcases hm with rfl | rfl <;> rfl

end Limits

/-! ## Options -/

namespace Options

/-- The options that agree with the given ones in the named members, and have the defaults in the
others.  Of the limits only some are kept. -/
def keeping (o : Options) (kept keptLimits : List String) : Options :=
  let start : Options := {}
  { preprocessor := if "preprocessor_cmd" ∈ kept then o.preprocessor else start.preprocessor
    lineMatcher :=
      if "line_matching_preprocessor_cmd" ∈ kept then o.lineMatcher else start.lineMatcher
    toolEncoding := if "preprocessor_encoding" ∈ kept then o.toolEncoding else start.toolEncoding
    ignoreComments := if "ignore_comments" ∈ kept then o.ignoreComments else start.ignoreComments
    ignoreCase := if "ignore_case" ∈ kept then o.ignoreCase else start.ignoreCase
    ignoreNumbers := if "ignore_numbers" ∈ kept then o.ignoreNumbers else start.ignoreNumbers
    commentSyntax := if "comment_syntax" ∈ kept then o.commentSyntax else start.commentSyntax
    timeoutSeconds :=
      if "preprocessor_timeout_secs" ∈ kept then o.timeoutSeconds else start.timeoutSeconds
    limits := if "limits" ∈ kept then o.limits.keeping keptLimits else start.limits }

/-- Only the names of fields count. -/
theorem keeping_congr (o : Options) {kept kept' : List String} (keptLimits : List String)
    (h : ∀ name ∈ fields.map Json.Field.name, (name ∈ kept ↔ name ∈ kept')) :
    o.keeping kept keptLimits = o.keeping kept' keptLimits := by
  simp only [fields, Json.Field.of, List.map_cons, List.map_nil, List.forall_mem_cons] at h
  simp only [keeping, h]

/-- All numbers are numbers of 64 bits. -/
structure Fit (o : Options) : Prop where
  timeout : ∀ n ∈ o.timeoutSeconds, n < 0x10000000000000000
  limits : o.limits.Fit

/-- The forms of the members of options: each as it is written, and for the limits any object
that has some of these. -/
def forms (o : Options) (keptLimits : List String) : List (String × (Text → Prop)) :=
  o.toJson.members.map fun (name, v) =>
    (name, fun t =>
      if name = "limits" then
        ∃ ms, IsSelection o.limits.forms ms t ∧ ms.map Prod.fst = keptLimits
      else t = v.compact)

/-- An encoding that may be missing is written by its name or as `null`. -/
theorem reads_toolEncoding (e : Option Encoding) :
    Reads (Json.optional Encoding.ofJson) ((e.map Encoding.toJson).getD .null).compact e := by
  cases e with
  | none => exact Json.reads_optional_null
  | some e => exact Json.reads_optional e.reads_ofJson rfl (by decide)

/-- A number of seconds that may be missing is written by its digits or as `null`. -/
theorem reads_timeoutSeconds {seconds : Option Nat} (h : ∀ n ∈ seconds, n < 0x10000000000000000) :
    Reads (Json.optional Json.naturalValue) ((seconds.map Json.Value.number).getD .null).compact
      seconds := by
  cases seconds with
  | none => exact Json.reads_optional_null
  | some n =>
    have hnumber := Json.reads_naturalValue (h n rfl)
    show Reads _ (Json.writeScalar (.number n)) _
    rw [Json.writeScalar_number] at hnumber ⊢
    obtain ⟨c, ds, hds, hdigit⟩ := Json.exists_toDigits_eq_cons n
    have hc : Json.startsNumber c = true := by rw [Json.startsNumber, hdigit, Bool.or_true]
    have hnull : c ≠ 'n' := by
      rintro rfl
      cases hdigit
    rw [hds] at hnumber ⊢
    exact Json.reads_optional hnumber (Json.of_startsNumber hc).1 hnull

theorem reads_field {o : Options} (ho : o.Fit) {keptLimits : List String}
    {field : Json.Field Options} (hfield : field ∈ fields) {v : Text}
    (hv : ∃ form, (field.name, form) ∈ o.forms keptLimits ∧ form v) (names : List String) :
    Reads (field.read (o.keeping names keptLimits)) v
      (o.keeping (field.name :: names) keptLimits) := by
  simp only [fields, List.mem_cons, List.not_mem_nil, or_false] at hfield
  rcases hfield with rfl | rfl | rfl | rfl | rfl | rfl | rfl | rfl | rfl
  · obtain rfl : v = (Json.Value.text o.preprocessor).compact := by
      simpa [forms, toJson, Json.Value.members, Json.Field.of] using hv
    exact Json.reads_of (Json.reads_textValue o.preprocessor) (by simp [keeping, Json.Field.of])
  · obtain rfl : v = (Json.Value.text o.lineMatcher).compact := by
      simpa [forms, toJson, Json.Value.members, Json.Field.of] using hv
    exact Json.reads_of (Json.reads_textValue o.lineMatcher) (by simp [keeping, Json.Field.of])
  · obtain rfl : v = ((o.toolEncoding.map Encoding.toJson).getD .null).compact := by
      simpa [forms, toJson, Json.Value.members, Json.Field.of] using hv
    exact Json.reads_of (reads_toolEncoding o.toolEncoding) (by simp [keeping, Json.Field.of])
  · obtain rfl : v = (Json.Value.bool o.ignoreComments).compact := by
      simpa [forms, toJson, Json.Value.members, Json.Field.of] using hv
    exact Json.reads_of (Json.reads_boolValue o.ignoreComments)
      (by simp [keeping, Json.Field.of])
  · obtain rfl : v = (Json.Value.bool o.ignoreCase).compact := by
      simpa [forms, toJson, Json.Value.members, Json.Field.of] using hv
    exact Json.reads_of (Json.reads_boolValue o.ignoreCase) (by simp [keeping, Json.Field.of])
  · obtain rfl : v = (Json.Value.bool o.ignoreNumbers).compact := by
      simpa [forms, toJson, Json.Value.members, Json.Field.of] using hv
    exact Json.reads_of (Json.reads_boolValue o.ignoreNumbers)
      (by simp [keeping, Json.Field.of])
  · obtain rfl : v = o.commentSyntax.toJson.compact := by
      simpa [forms, toJson, Json.Value.members, Json.Field.of] using hv
    exact Json.reads_of o.commentSyntax.reads_ofJson (by simp [keeping, Json.Field.of])
  · obtain rfl : v = ((o.timeoutSeconds.map Json.Value.number).getD .null).compact := by
      simpa [forms, toJson, Json.Value.members, Json.Field.of] using hv
    exact Json.reads_of (reads_timeoutSeconds ho.timeout) (by simp [keeping, Json.Field.of])
  · obtain ⟨ms, hms, rfl⟩ : ∃ ms, IsSelection o.limits.forms ms v ∧
        ms.map Prod.fst = keptLimits := by
      simpa [forms, toJson, Json.Value.members, Json.Field.of] using hv
    exact Json.reads_of (Limits.reads_ofJson ho.limits hms) (by simp [keeping, Json.Field.of])

/-- Options are read from any selection of their members. -/
theorem reads_ofJson {o : Options} (ho : o.Fit) {keptLimits : List String}
    {ms : List (String × Text)} {t : Text} (h : IsSelection (o.forms keptLimits) ms t) :
    Reads ofJson t (o.keeping (ms.map Prod.fst) keptLimits) := by
  have hreads : Reads (Json.record fields (o.keeping [] keptLimits)) t
      (o.keeping (ms.map Prod.fst).reverse keptLimits) := by
    refine Json.reads_record_of_selection (fun names => o.keeping names keptLimits) rfl
      (by decide) ?_ (fun name names hname => ?_) h
    · exact fun field hfield v hv names => reads_field ho hfield hv names
    · refine o.keeping_congr keptLimits fun other hother =>
        List.mem_cons.trans (or_iff_right ?_)
      rintro rfl
      exact hname hother
  rw [o.keeping_congr keptLimits fun name _ => List.mem_reverse] at hreads
  exact hreads

/-! ## Main statement -/

/-- **Options are read from any selection of their members**, with any blanks around it. -/
theorem read_of_selection {o : Options} (ho : o.Fit) {keptLimits : List String}
    {ms : List (String × Text)} {before t behind : Text} (hbefore : IsBlanks before)
    (hbehind : IsBlanks behind) (h : IsSelection (o.forms keptLimits) ms t) :
    read (before ++ (t ++ behind)) = .ok (o.keeping (ms.map Prod.fst) keptLimits) := by
  have hstops : Json.Stops behind := by
    have hnil := Json.stops_append hbehind Json.stops_nil
    rwa [List.append_nil] at hnil
  have hread := reads_ofJson ho h before behind hbefore hstops
  rw [read, Json.read, hread]
  exact if_pos (Json.dropBlanks_of_isBlanks hbehind)

/-- Keeping all members keeps the options. -/
theorem keeping_all (o : Options) :
    o.keeping (o.toJson.members.map Prod.fst) (o.limits.toJson.members.map Prod.fst) = o := by
  simp [keeping, Limits.keeping, toJson, Limits.toJson, Json.Value.members]

/-- Outside the limits nothing is spread over lines. -/
theorem pretty_of_ne_limits (o : Options) {m : String × Json.Value} (hm : m ∈ o.toJson.members)
    (hname : m.1 ≠ "limits") (level : Nat) : m.2.pretty level = m.2.compact := by
  simp only [toJson, Json.Value.members, List.mem_cons, List.not_mem_nil, or_false] at hm
  rcases hm with rfl | rfl | rfl | rfl | rfl | rfl | rfl | rfl | rfl
  case inr.inr.inl => cases o.toolEncoding <;> rfl
  case inr.inr.inr.inr.inr.inr.inr.inl => cases o.timeoutSeconds <;> rfl
  case inr.inr.inr.inr.inr.inr.inr.inr => exact absurd rfl hname
  all_goals rfl

/-- An object with all members is a selection, however its values are spaced out. -/
theorem isSelection_of_spelled (o : Options) {spelled : Json.Value → Text} {t : Text}
    {ms : List (String × Text)}
    (hobject : Json.IsObject (o.toJson.members.map fun (name, v) => (name, spelled v)) t)
    (hsettings : ∀ m ∈ o.toJson.members, m.1 ≠ "limits" → spelled m.2 = m.2.compact)
    (hlimits : IsSelection o.limits.forms ms (spelled o.limits.toJson)) :
    IsSelection (o.forms (ms.map Prod.fst))
      (o.toJson.members.map fun (name, v) => (name, spelled v)) t := by
  refine Json.isSelection_of_isObject hobject rfl ?_ ?_
  · show (fields.map Json.Field.name).Nodup
    decide
  · intro m hm
    obtain ⟨⟨name, v⟩, hmember, rfl⟩ := List.mem_map.1 hm
    refine ⟨_, List.mem_map_of_mem hmember, ?_⟩
    dsimp only
    split
    · rename_i hname
      have hv : v = o.limits.toJson := by
        rw [hname] at hmember
        simpa [toJson, Json.Value.members] using hmember
      rw [hv]
      exact ⟨ms, hlimits, rfl⟩
    · rename_i hname
      exact hsettings (name, v) hmember hname

theorem isSelection_compact (o : Options) :
    IsSelection (o.forms (o.limits.toJson.members.map Prod.fst))
      (o.toJson.members.map fun (name, v) => (name, v.compact)) o.toJson.compact :=
  o.isSelection_of_spelled (Json.isObject_compact _) (fun _ _ _ => rfl)
    o.limits.isSelection_compact

theorem isSelection_pretty (o : Options) :
    IsSelection (o.forms (o.limits.toJson.members.map Prod.fst))
      (o.toJson.members.map fun (name, v) => (name, v.pretty 1)) (o.toJson.pretty 0) :=
  o.isSelection_of_spelled (Json.isObject_pretty 0 _)
    (fun _ hm hname => o.pretty_of_ne_limits hm hname 1) (o.limits.isSelection_pretty 1)

/-- **Options survive JSON.**  Options whose numbers have 64 bits are read back as they were, from
one line and from several.  An object that has only some of their members, each at most once, in
any order and with any others in between, is read as the options that agree with them in those
members and have the defaults in the others; an object for the limits may leave out some of
these in the same way. -/
theorem read_of_written {o : Options} (ho : o.Fit) :
    read o.toJson.compact = .ok o ∧ read (o.toJson.pretty 0) = .ok o ∧
      ∀ (keptLimits : List String) (ms : List (String × Text)) (before t behind : Text),
        IsBlanks before → IsBlanks behind → IsSelection (o.forms keptLimits) ms t →
          read (before ++ (t ++ behind)) = .ok (o.keeping (ms.map Prod.fst) keptLimits) := by
  have hwhole : ∀ (ms : List (String × Text)) (t : Text),
      ms.map Prod.fst = o.toJson.members.map Prod.fst →
      IsSelection (o.forms (o.limits.toJson.members.map Prod.fst)) ms t → read t = .ok o := by
    intro ms t hnames h
    have hread := read_of_selection ho Json.isBlanks_nil Json.isBlanks_nil h
    rwa [List.nil_append, List.append_nil, hnames, keeping_all] at hread
  refine ⟨hwhole _ _ rfl o.isSelection_compact, hwhole _ _ rfl o.isSelection_pretty, ?_⟩
  intro keptLimits ms before t behind hbefore hbehind h
  exact read_of_selection ho hbefore hbehind h

/-- Options with every kind of value, and one of their members behind another member. -/
theorem read_of_written_settings :
    let o : Options :=
      { preprocessor := ['"', '\\', '\n', '\x01', '𝄞'], toolEncoding := some .utf8Marked
        ignoreCase := true, commentSyntax := .hash, timeoutSeconds := some 18446744073709551615
        limits := ⟨0, 7⟩ }
    o.Fit ∧ read o.toJson.compact = .ok o ∧ read (o.toJson.pretty 0) = .ok o ∧
      read "\x7b\"x\": -0e+9,\n\"ignore_case\":true\x7d".toList = .ok { ignoreCase := true } := by
  intro o
  have ho : o.Fit := by
    refine ⟨fun n hn => ?_, by decide, by decide⟩
    obtain rfl := Option.some.inj hn
    decide
  obtain ⟨hcompact, hpretty, hselection⟩ := read_of_written ho
  have hother : Json.IsValue "-0e+9".toList := by
    have hdigit : ∀ c, Character.isDecimalDigit c = true → Json.IsDigits [c] :=
      fun c hc => ⟨List.cons_ne_nil c [], List.forall_mem_singleton.2 hc⟩
    have hzero : Json.IsWhole ['0'] := ⟨hdigit '0' rfl, fun _ => rfl⟩
    exact .number (.parts (.tail _ (.head _)) hzero .absent
      (.power (.inl rfl) (.tail _ (.head _)) (hdigit '9' rfl)))
  have hobject : Json.IsObject [("x", "-0e+9".toList), ("ignore_case", "true".toList)]
      "\x7b\"x\": -0e+9,\n\"ignore_case\":true\x7d".toList :=
    .brackets (.member (.first Json.isBlanks_nil) Json.isBlanks_nil Json.isBlanks_blank
      (.member (.comma Json.isBlanks_nil (Json.isBlanks_newLine 0)) Json.isBlanks_nil
        Json.isBlanks_nil (.close Json.isBlanks_nil)))
  have hunknown : ∀ name ∈ fields.map Json.Field.name, name ≠ "x" := by decide
  have hselected : IsSelection (o.forms []) [("x", "-0e+9".toList), ("ignore_case", "true".toList)]
      "\x7b\"x\": -0e+9,\n\"ignore_case\":true\x7d".toList := by
    have honce : ["ignore_case"].Nodup := by decide
    have hmember : ("ignore_case", Json.Value.bool true) ∈ o.toJson.members := by
      simp [toJson, Json.Value.members, o]
    refine ⟨hobject, honce, ?_⟩
    simp only [List.forall_mem_cons, List.not_mem_nil, false_implies, implies_true, and_true]
    refine ⟨.inr ⟨fun form hform => hunknown form.1 (List.mem_map_of_mem hform), hother⟩, .inl ?_⟩
    have hname : ¬ "ignore_case" = "limits" := by decide
    exact ⟨_, List.mem_map_of_mem hmember, (if_neg hname).mpr rfl⟩
  exact ⟨ho, hcompact, hpretty,
    hselection _ _ [] _ [] Json.isBlanks_nil Json.isBlanks_nil hselected⟩

end Options

end TextIntake
