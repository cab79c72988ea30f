import TextIntake.File.Tree

set_option autoImplicit false

/-!
# Writing a file

A file that is written at a path stands there: whatever the path goes through are
directories, which are not touched when a file is put where none was, or another file.  Only
a device takes what is written and keeps none of it.

Main statement: `status_of_write`.
-/

namespace TextIntake

namespace Tree

variable {α : Type} {t : Tree α} {place : List Text} {node : Node α}

theorem at?_put_self (h : place ≠ []) : (t.put place node).at? place = some node := by
  rw [at?, if_neg h, put]
  simp

theorem at?_put_of_ne {other : List Text} (h : other ≠ place) :
    (t.put place node).at? other = t.at? other := by
  unfold at? put
  split
  · rfl
  · have hkept : ((place, node) :: t.nodes.filter fun entry => entry.1 != place).find?
        (fun entry => entry.1 == other) = t.nodes.find? fun entry => entry.1 == other := by
      rw [List.find?_cons_of_neg (by simpa using h.symm), List.find?_filter]
      congr 1
      funext entry
      by_cases hentry : entry.1 = other
      · simp [hentry, h]
      · simp [hentry]
    exact congrArg (Option.map Prod.snd) hkept

/-- Only the root is known to be a directory by its place. -/
theorem ne_nil_of_at? (h : t.at? place ≠ some .directory) : place ≠ [] := by
  rintro rfl
  exact h rfl

/-- What is put at a place that is no directory is no directory on the way to it. -/
theorem at?_put_of_directory {other : List Text} (hplace : t.at? place ≠ some .directory)
    (hother : t.at? other = some .directory) : (t.put place node).at? other = some .directory := by
  have hne : other ≠ place := by
    rintro rfl
    exact hplace hother
  rw [at?_put_of_ne hne, hother]

theorem node_of_walk {start names : List Text} {found : Option (Node α)}
    (h : t.walk start names = .ok ⟨place, found⟩) : t.at? place = found := by
  induction names generalizing start with
  | nil =>
    obtain ⟨rfl, rfl⟩ := Spot.mk.inj (Except.ok.inj h)
    rfl
  | cons name names ih =>
    rw [walk] at h
    split at h
    · cases h
    · cases h
    · cases h
    · split at h
      · exact ih h
      · split at h
        · cases h
        · exact ih h

/-- A walk to a place that is no directory leads to what is put there. -/
theorem walk_put {start names : List Text} {found : Option (Node α)}
    (hplace : t.at? place ≠ some .directory) (h : t.walk start names = .ok ⟨place, found⟩) :
    (t.put place node).walk start names = .ok ⟨place, some node⟩ := by
  induction names generalizing start with
  | nil =>
    obtain ⟨rfl, rfl⟩ := Spot.mk.inj (Except.ok.inj h)
    rw [walk, at?_put_self (ne_nil_of_at? hplace)]
  | cons name names ih =>
    rw [walk] at h
    split at h
    · cases h
    · cases h
    · cases h
    · rename_i hstart
      rw [walk, at?_put_of_directory hplace hstart]
      dsimp only
      split at h
      · rename_i hup
        rw [if_pos hup]
        exact ih h
      · rename_i hdown
        rw [if_neg hdown]
        split at h
        · cases h
        · rename_i hshort
          rw [if_neg hshort]
          exact ih h

theorem node_of_locateFrom {start : List Text} {p : Path} {found : Option (Node α)}
    (h : t.locateFrom start p = .ok ⟨place, found⟩) : t.at? place = found := by
  unfold locateFrom at h
  split at h
  · cases h
  · split at h
    · cases h
    · split at h
      · cases h
      · exact node_of_walk h

/-- A path leads to what is put at the place that it led to. -/
theorem locateFrom_put {start : List Text} {p : Path} {found : Option (Node α)}
    (hplace : t.at? place ≠ some .directory) (h : t.locateFrom start p = .ok ⟨place, found⟩) :
    (t.put place node).locateFrom start p = .ok ⟨place, some node⟩ := by
  unfold locateFrom at h ⊢
  split at h
  · cases h
  · rename_i hnul
    rw [if_neg hnul]
    split at h
    · cases h
    · rename_i hempty
      rw [if_neg hempty]
      split at h
      · cases h
      · rename_i hshort
        rw [if_neg hshort]
        exact walk_put hplace h

/-- A path at which a file is opened for writing leads to no directory and asks for none. -/
theorem placeToWriteFrom_eq_ok {start : List Text} {p : Path}
    (h : t.placeToWriteFrom start p = .ok place) :
    t.locateFrom start p = .ok ⟨place, t.at? place⟩ ∧ t.at? place ≠ some .directory ∧
      wantsDirectory p = false := by
  unfold placeToWriteFrom at h
  split at h
  · cases h
  · cases h
  · rename_i place' node' hnode hlocate
    split at h
    · cases h
    · rename_i hdots
      split at h
      · cases h
      · rename_i hslash
        obtain rfl := Except.ok.inj h
        rw [node_of_locateFrom hlocate]
        refine ⟨hlocate, ?_, ?_⟩
        · rintro rfl
          exact hnode rfl
        · simp [wantsDirectory, hdots, hslash]

end Tree

namespace FileTree

variable {t t' : FileTree} {p : Path} {content : Bytes}

/-- Behind a successful write the file is there, unless a device took it. -/
theorem status_of_write (h : t.write p content = .ok t') :
    t'.status p = .ok (.file content) ∨ ∃ d, t.status p = .ok (.device d) := by
  unfold write at h
  cases hplace : t.placeToWriteFrom Tree.workingDirectory p with
  | error cause =>
    rw [hplace] at h
    cases h
  | ok place =>
    rw [hplace] at h
    obtain ⟨hlocate, hnode, hpath⟩ := Tree.placeToWriteFrom_eq_ok hplace
    have hput : status (t.put place (.file content)) p = .ok (.file content) := by
      rw [status, Tree.find, Tree.locateFrom_put hnode hlocate]
      simp [hpath, Except.map]
    cases hfound : t.at? place with
    | none =>
      simp only [Except.map, hfound] at h
      obtain rfl := Except.ok.inj h
      exact .inl hput
    | some found =>
      simp only [Except.map, hfound] at h
      cases found with
      | directory => exact absurd hfound hnode
      | file old =>
        obtain rfl := Except.ok.inj h
        exact .inl hput
      | device d =>
        refine .inr ⟨d, ?_⟩
        rw [hfound] at hlocate
        rw [status, Tree.find, hlocate]
        simp [hpath, Except.map]

end FileTree

end TextIntake
