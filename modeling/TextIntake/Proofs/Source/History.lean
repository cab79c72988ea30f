import TextIntake.Proofs.Source.Building

set_option autoImplicit false

/-!
# Runs forget earlier runs

A source is set, named, reset and run in any order, while the files around it change.  All
that a run takes from this history is the current input: what was set last, or the copy of
it that was fetched since.  The current input and the files can be followed through a
history without ever looking at a view, and a run has the outcome that it has for a new
source with that input.

Main statements: `run_eq_of_input_eq`, `standing_after` and `run_forgets`.
-/

namespace TextIntake.Source

/-! ## Histories -/

/-- What is done to a source or to the files around it. -/
inductive Operation where
  | setFile (name : Text)
  | setLocation (location : Location)
  | setData (text : Text)
  | setAlias (name : Text)
  /-- The source is as new. -/
  | reset
  | run (w : Surroundings) (choice : EncodingChoice) (o : Options)
  /-- Somebody else changes the files. -/
  | change (tree : FileTree)

/-- A source among files. -/
structure Scene where
  source : Source := {}
  tree : FileTree
  deriving DecidableEq, Repr, Inhabited

/-- The scene behind an operation. -/
def Operation.apply (scene : Scene) : Operation → Scene
  | setFile name => { scene with source := scene.source.setFile scene.tree name }
  | setLocation location => { scene with source := scene.source.setLocation location }
  | setData text => { scene with source := scene.source.setData text }
  | setAlias name => { scene with source := scene.source.setAlias name }
  | reset => { scene with source := {} }
  | run w choice o =>
    let outcome := Source.run w choice o scene.source scene.tree
    ⟨outcome.source, outcome.tree⟩
  | change tree => { scene with tree }

/-- The scene behind a history. -/
def Scene.after (scene : Scene) (history : List Operation) : Scene :=
  history.foldl Operation.apply scene

/-! ## What is current -/

/-- An input among files. -/
structure Standing where
  input : Input := .located .none
  tree : FileTree
  deriving DecidableEq, Repr, Inhabited

/-- A new source that is given an input: a location, a text, or a location with the copy
that was fetched. -/
def given : Input → Source
  | .located location => ({} : Source).setLocation location
  | .fetched url content => { input := .fetched url content }
  | .memory text => ({} : Source).setData text

theorem input_given (input : Input) : (given input).input = input := by
  cases input <;> rfl

/-- What is current behind an operation.  A run is that of a new source. -/
def Operation.advance (standing : Standing) : Operation → Standing
  | setFile name => { standing with input := .located (Location.read standing.tree name) }
  | setLocation location => { standing with input := .located location }
  | setData text => { standing with input := .memory text }
  | setAlias _ => standing
  | reset => { standing with input := .located .none }
  | run w choice o =>
    let outcome := Source.run w choice o (given standing.input) standing.tree
    ⟨outcome.source.input, outcome.tree⟩
  | change tree => { standing with tree }

/-- What is current behind a history. -/
def Standing.after (standing : Standing) (history : List Operation) : Standing :=
  history.foldl Operation.advance standing

/-- What is current in a scene. -/
def Scene.standing (scene : Scene) : Standing := ⟨scene.source.input, scene.tree⟩

/-! ## Runs by the current input -/

section

variable {s s' : Source}

/-- Two sources with the same input have the same outcome of a run, but for the name that is
shown for them. -/
theorem run_eq_of_input_eq (w : Surroundings) (choice : EncodingChoice) (o : Options)
    (tree : FileTree) (h : s.input = s'.input) :
    run w choice o s tree =
      { run w choice o s' tree with
        source := { (run w choice o s' tree).source with alias? := s.alias? } } := by
  unfold run
  rw [h]
  dsimp only
  cases (resolve w.fetcher tree s'.input).origin with
  | error failure => rfl
  | ok origin? =>
    cases origin? with
    | none => rfl
    | some origin =>
      dsimp only
      cases origin.read tree <;> rfl

end

/-! ## What is current behind a history -/

theorem standing_apply (scene : Scene) (operation : Operation) :
    (operation.apply scene).standing = operation.advance scene.standing := by
  cases operation with
  | setFile name =>
    by_cases hempty : name = []
    · subst hempty
      rfl
    · show (⟨(scene.source.setFile scene.tree name).input, scene.tree⟩ : Standing) = _
      rw [setFile, if_neg hempty]
      rfl
  | run w choice o =>
    have hrun := run_eq_of_input_eq w choice o scene.tree (input_given scene.source.input).symm
    show (⟨(run w choice o scene.source scene.tree).source.input,
      (run w choice o scene.source scene.tree).tree⟩ : Standing) = _
    rw [hrun]
    rfl
  | _ => rfl

theorem standing_after (scene : Scene) (history : List Operation) :
    (scene.after history).standing = scene.standing.after history := by
  induction history generalizing scene with
  | nil => rfl
  | cons operation history ih =>
    show ((operation.apply scene).after history).standing = _
    rw [ih, standing_apply]
    rfl

/-! ## Main statement -/

/-- **A run forgets all earlier runs.**  Behind any history of a source, a run has the outcome
that it has for a new source given the current input: the same encoding, views, report, files
and fetched locations, all but the name that is shown.  Where it finds no content, both views
are empty, whatever they held before. -/
theorem run_forgets (history : List Operation) (start : FileTree) (w : Surroundings)
    (choice : EncodingChoice) (o : Options) :
    let scene := ({ tree := start } : Scene).after history
    let standing := ({ tree := start } : Standing).after history
    let again := run w choice o scene.source scene.tree
    let anew := run w choice o (given standing.input) standing.tree
    again = { anew with source := { anew.source with alias? := scene.source.alias? } } ∧
      (opened? w choice (given standing.input) standing.tree = none →
        again.source.display = {} ∧ again.source.comparison = {}) := by
  intro scene standing again anew
  have hstanding : scene.standing = standing := standing_after { tree := start } history
  have htree : scene.tree = standing.tree := congrArg Standing.tree hstanding
  have hinput : scene.source.input = (given standing.input).input := by
    rw [input_given]
    exact congrArg Standing.input hstanding
  have hagain : again =
      { anew with source := { anew.source with alias? := scene.source.alias? } } := by
    show run w choice o scene.source scene.tree = _
    rw [htree]
    exact run_eq_of_input_eq w choice o standing.tree hinput
  refine ⟨hagain, ?_⟩
  intro hnone
  rw [hagain]
  exact views_of_opened?_none hnone

end TextIntake.Source
