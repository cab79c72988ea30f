import TextIntake.Proofs.Source.Fetching

set_option autoImplicit false

/-!
# Sources that are equal byte for byte

Two sources are equal when both are there and their display views hold the same bytes.
Without a preprocessor these are the bytes that the last run has read, as long as no other
input was set since.  A remote source counts as there only when it was read.  A local one
counts as there when there is something at its path, also when no run has read it: then the
bytes of whatever its view holds are compared, which are none for a source that is new.

Main statements: `kept_apply` and `isBinaryEqual_after`.
-/

namespace TextIntake.Source

/-! ## What a run without a preprocessor holds -/

section

variable {w : Surroundings} {choice : EncodingChoice} {o : Options} {s : Source}
  {tree : FileTree} {m : Material} {url : Url} {content : Bytes}

/-- Building the comparison view leaves the bytes that are shown. -/
theorem raw_buildComparison (w : Surroundings) (o : Options) (scanner : Comment.Scanner)
    (name : Text) (m : Material) (d : Draft) :
    (buildComparison w o scanner name m d).display.raw = d.display.raw := by
  obtain ⟨hdisplay, -⟩ := comparisonMaterial_spec w o m d
  unfold buildComparison
  split
  · rename_i failure d₁ hmaterial
    rw [hmaterial] at hdisplay
    exact congrArg View.raw hdisplay
  · rename_i d₁ hmaterial
    rw [hmaterial] at hdisplay
    exact congrArg View.raw hdisplay
  · rename_i input d₁ hmaterial
    rw [hmaterial] at hdisplay
    have hraw : d₁.display.raw = d.display.raw := congrArg View.raw hdisplay
    dsimp only
    split
    · exact hraw
    · split
      · exact hraw
      · dsimp only
        split
        · exact hraw
        · exact hraw

/-- Without a preprocessor the bytes that are shown are those of the content, whatever they
decode to. -/
theorem raw_buildViews (w : Surroundings) (scanner : Comment.Scanner) (m : Material)
    (tree : FileTree) (hpreprocessor : o.preprocessor = []) :
    (buildViews w o scanner m tree).display.raw = some m.content := by
  have hstage : (tooling w o).stage o.preprocessor m tree = ⟨.ok m, none, tree⟩ :=
    if_pos hpreprocessor
  unfold buildViews
  rw [hstage]
  dsimp only
  cases hdecode : (View.ofBytes m.content).decode? m.encoding o.limits {} scanner with
  | none => rfl
  | some display =>
    have hraw : display.raw = some m.content := by
      rcases View.decode?_eq_some_cases hdecode with ⟨page, scanner', -, rfl⟩ | ⟨-, rfl⟩
      · rfl
      · rfl
    dsimp only
    split
    · exact hraw
    · rw [raw_buildComparison]
      exact hraw

theorem raw_run (hopened : opened? w choice s tree = some m) (hpreprocessor : o.preprocessor = []) :
    (run w choice o s tree).source.display.raw = some m.content := by
  rw [run_of_opened? hopened]
  exact raw_buildViews w (s.scanner o) m tree hpreprocessor

/-- A copy is what the run that has it as its input has read. -/
theorem exists_opened?_of_fetched (choice : EncodingChoice)
    (h : (resolve w.fetcher tree s.input).input = .fetched url content) :
    ∃ m, opened? w choice s tree = some m ∧ m.content = content := by
  unfold opened?
  cases hinput : s.input with
  | located location =>
    rw [hinput] at h
    cases location with
    | none => cases h
    | file path => cases h
    | remote url' =>
      simp only [resolve] at h ⊢
      split at h
      · cases h
      · cases h
        exact ⟨_, rfl, rfl⟩
  | fetched url' content' =>
    rw [hinput] at h
    cases h
    exact ⟨_, rfl, rfl⟩
  | memory text =>
    rw [hinput] at h
    cases h

end

/-! ## What was read -/

namespace Operation

/-- The bytes that a run has read from the input that is current behind an operation, given
those before it. -/
def reading (scene : Scene) (before : Option Bytes) : Operation → Option Bytes
  | setFile _ | setLocation _ | setData _ | reset => none
  | setAlias _ | change _ => before
  | run w choice _ => (opened? w choice scene.source scene.tree).map Material.content

/-- Whether an operation is no run with a preprocessor. -/
def Unfiltered : Operation → Prop
  | run _ _ o => o.preprocessor = []
  | _ => True

end Operation

/-- A source holds what was read from its input, and a copy that was fetched was read. -/
structure Keeps (s : Source) (reading : Option Bytes) : Prop where
  raw : ∀ bs, reading = some bs → s.display.raw = some bs
  copy : ∀ url bs, s.input = .fetched url bs → reading = some bs

variable {scene : Scene} {operation : Operation} {reading : Option Bytes}

/-- An input that is set was not read, and is no copy. -/
theorem keeps_of_unread {s : Source} (h : ∀ url bs, s.input ≠ .fetched url bs) : Keeps s none where
  raw _ hread := nomatch hread
  copy url bs hinput := absurd hinput (h url bs)

theorem keeps_apply (h : Keeps scene.source reading) (hplain : operation.Unfiltered) :
    Keeps (operation.apply scene).source (operation.reading scene reading) := by
  cases operation with
  | setFile name =>
    refine keeps_of_unread fun url bs hinput => ?_
    have hlocated : (scene.source.setFile scene.tree name).input = .fetched url bs := hinput
    unfold setFile at hlocated
    split at hlocated
    · cases hlocated
    · cases hlocated
  | setLocation location => exact keeps_of_unread fun url bs hinput => by cases hinput
  | setData text => exact keeps_of_unread fun url bs hinput => by cases hinput
  | reset => exact keeps_of_unread fun url bs hinput => by cases hinput
  | setAlias name => exact ⟨h.raw, h.copy⟩
  | change tree => exact ⟨h.raw, h.copy⟩
  | run w choice o =>
    refine ⟨fun bs hread => ?_, fun url bs hinput => ?_⟩
    · obtain ⟨m, hopened, rfl⟩ := Option.map_eq_some_iff.1 hread
      exact raw_run hopened hplain
    · have hresolved : (resolve w.fetcher scene.tree scene.source.input).input =
          .fetched url bs := by
        rw [← (input_run w choice o scene.source scene.tree).1]
        exact hinput
      obtain ⟨m, hopened, rfl⟩ := exists_opened?_of_fetched choice hresolved
      show (opened? w choice scene.source scene.tree).map Material.content = some m.content
      rw [hopened, Option.map_some]

/-! ## Several sources -/

/-- Several sources among the same files, and of each what a run has read from its current
input. -/
structure Workbench (ι : Type) where
  source : ι → Source := fun _ => {}
  reading : ι → Option Bytes := fun _ => none
  tree : FileTree

namespace Workbench

variable {ι : Type}

/-- Two sources hold the same bytes, and a run has read these from the current input of each. -/
def Agree (bench : Workbench ι) (one other : ι) : Prop :=
  ∃ bs, ∀ i ∈ [one, other],
    bench.reading i = some bs ∧ (bench.source i).display.raw = some bs

variable [DecidableEq ι]

/-- The bench behind an operation on one of the sources. -/
def apply (bench : Workbench ι) (step : ι × Operation) : Workbench ι :=
  let scene : Scene := ⟨bench.source step.1, bench.tree⟩
  let behind := step.2.apply scene
  { source := fun i => if i = step.1 then behind.source else bench.source i
    reading := fun i =>
      if i = step.1 then step.2.reading scene (bench.reading step.1) else bench.reading i
    tree := behind.tree }

/-- The bench behind a history. -/
def after (bench : Workbench ι) (history : List (ι × Operation)) : Workbench ι :=
  history.foldl apply bench

theorem keeps_step {bench : Workbench ι} {step : ι × Operation}
    (h : ∀ i, Keeps (bench.source i) (bench.reading i)) (hplain : step.2.Unfiltered) (i : ι) :
    Keeps ((bench.apply step).source i) ((bench.apply step).reading i) := by
  by_cases hi : i = step.1
  · have hstep : Keeps (step.2.apply ⟨bench.source step.1, bench.tree⟩).source
        (step.2.reading ⟨bench.source step.1, bench.tree⟩ (bench.reading step.1)) :=
      keeps_apply (h step.1) hplain
    simp only [apply, hi, if_true]
    exact hstep
  · simp only [apply, hi, if_false]
    exact h i

theorem keeps_after {bench : Workbench ι} {history : List (ι × Operation)}
    (h : ∀ i, Keeps (bench.source i) (bench.reading i))
    (hplain : ∀ step ∈ history, step.2.Unfiltered) (i : ι) :
    Keeps ((bench.after history).source i) ((bench.after history).reading i) := by
  induction history generalizing bench with
  | nil => exact h i
  | cons step history ih =>
    obtain ⟨hstep, hrest⟩ := List.forall_mem_cons.1 hplain
    exact ih (keeps_step h hstep) hrest

end Workbench

/-! ## Main statement -/

section

variable {tree : FileTree} {a b : Source}

theorem isBinaryEqual_iff : isBinaryEqual tree a b = true ↔
    (a.input.isThere tree = true ∧ b.input.isThere tree = true) ∧
      a.display.bytes = b.display.bytes := by
  simp only [isBinaryEqual, Bool.and_eq_true, beq_iff_eq]
  refine ⟨fun ⟨⟨hthere, _⟩, hbytes⟩ => ⟨hthere, hbytes⟩, fun ⟨hthere, hbytes⟩ => ?_⟩
  exact ⟨⟨hthere, by rw [View.size, hbytes, View.size]⟩, hbytes⟩

/-- A source that is there is a copy or the file at some path. -/
theorem isThere_cases {input : Input} (h : input.isThere tree = true) :
    (∃ url content, input = .fetched url content) ∨
      ∃ path, input = .located (.file path) ∧ tree.exists? path = true := by
  cases input with
  | located location =>
    cases location with
    | none => cases h
    | file path => exact .inr ⟨path, rfl, h⟩
    | remote url => cases h
  | fetched url content => exact .inl ⟨url, content, rfl⟩
  | memory text => cases h

end

section

variable {ι : Type} [DecidableEq ι]

/-- **What it means that two sources are equal.**  Behind any history of operations on several
sources without a preprocessor, take two of them.  When a run has read both since their inputs
were set, they are equal just when both are there and the bytes that were read are the same, and
these are the bytes that they hold.  One that takes part in an equality without having been read
is a local one with something at its path. -/
theorem isBinaryEqual_after (history : List (ι × Operation)) (start : FileTree)
    (hplain : ∀ step ∈ history, step.2.Unfiltered) (one other : ι) :
    let bench := ({ tree := start } : Workbench ι).after history
    let equal := isBinaryEqual bench.tree (bench.source one) (bench.source other)
    (bench.reading one ≠ none → bench.reading other ≠ none →
        (equal = true ↔
          (∀ i ∈ [one, other], (bench.source i).input.isThere bench.tree = true) ∧
            bench.Agree one other)) ∧
      (equal = true → ∀ i ∈ [one, other], bench.reading i = none →
        ∃ path, (bench.source i).input = .located (.file path) ∧
          bench.tree.exists? path = true) := by
  intro bench equal
  have hkeeps : ∀ i, Keeps (bench.source i) (bench.reading i) :=
    Workbench.keeps_after (fun _ => keeps_of_unread fun _ _ hinput => by cases hinput) hplain
  have hequal : equal = true ↔ _ := isBinaryEqual_iff
  clear_value bench
  rw [hequal, Workbench.Agree]
  simp only [List.forall_mem_cons, List.not_mem_nil, false_implies, implies_true, and_true]
  refine ⟨fun hone hother => and_congr_right fun _ => ?_, fun ⟨⟨hone, hother⟩, _⟩ => ?_⟩
  · -- what was read is what the two views hold
    obtain ⟨bs, hbs⟩ := Option.ne_none_iff_exists'.1 hone
    obtain ⟨bs', hbs'⟩ := Option.ne_none_iff_exists'.1 hother
    have hraw := (hkeeps one).raw bs hbs
    have hraw' := (hkeeps other).raw bs' hbs'
    rw [View.bytes, View.bytes, hraw, hraw', hbs, hbs', Option.getD_some, Option.getD_some]
    constructor
    · rintro rfl
      exact ⟨bs, ⟨rfl, rfl⟩, rfl, rfl⟩
    · rintro ⟨common, ⟨hcommon, -⟩, hcommon', -⟩
      exact (Option.some.inj hcommon).trans (Option.some.inj hcommon').symm
  · have hlocal : ∀ i, (bench.source i).input.isThere bench.tree = true →
        bench.reading i = none → ∃ path, (bench.source i).input = .located (.file path) ∧
          bench.tree.exists? path = true := by
      intro i hthere hunread
      refine (isThere_cases hthere).resolve_left ?_
      rintro ⟨url, content, hinput⟩
      rw [(hkeeps i).copy url content hinput] at hunread
      cases hunread
    exact ⟨hlocal one hone, hlocal other hother⟩

/-- Two files with the same content, read in different encodings. -/
theorem isBinaryEqual_after_two_runs :
    let content : Bytes := [0xEF, 0xBB, 0xBF, 0x61]
    let w : Surroundings := { host := ⟨fun _ _ => .error .notFound⟩ }
    let o : Options := { limits := ⟨9, 9⟩ }
    let start : FileTree :=
      { nodes := [([['f']], .file content), ([['g']], .file content)] }
    let history : List (Bool × Operation) :=
      [(true, .setFile ['/', 'f']), (false, .setFile ['/', 'g']), (true, .run w {} o),
        (false, .run w ⟨.latin1, false⟩ o)]
    let bench := ({ tree := start } : Workbench Bool).after history
    (∀ step ∈ history, step.2.Unfiltered) ∧ bench.Agree true false := by
  intro content w o start history bench
  have hplain : ∀ step ∈ history, step.2.Unfiltered := by
    simp [history, o, Operation.Unfiltered]
  have hequal : isBinaryEqual bench.tree (bench.source true) (bench.source false) = true := rfl
  obtain ⟨hagree, -⟩ := isBinaryEqual_after history start hplain true false
  have hread : bench.reading true ≠ none := Option.some_ne_none content
  have hread' : bench.reading false ≠ none := Option.some_ne_none content
  exact ⟨hplain, ((hagree hread hread').1 hequal).2⟩

/-- Two files that were never read are equal, whatever is in them. -/
theorem isBinaryEqual_of_unread :
    let start : FileTree :=
      { nodes := [([['f']], .file [0x61]), ([['g']], .file [0x62, 0x62])] }
    let history : List (Bool × Operation) :=
      [(true, .setFile ['/', 'f']), (false, .setFile ['/', 'g'])]
    let bench := ({ tree := start } : Workbench Bool).after history
    isBinaryEqual bench.tree (bench.source true) (bench.source false) = true ∧
      bench.reading true = none ∧ bench.reading false = none ∧
      bench.tree.status ['/', 'f'] = .ok (.file [0x61]) ∧
      bench.tree.status ['/', 'g'] = .ok (.file [0x62, 0x62]) :=
  ⟨rfl, rfl, rfl, rfl, rfl⟩

end

end TextIntake.Source
