import QuizCompiler.Proofs.Siblings

/-! # Changes of trees

What one operation changes, and what a run of several has changed so far: only the files
where certain paths lead. The operations of a workspace either do what they do to a tree
or fail; only a failing write may still change something.
-/

namespace QuizCompiler.Files

/-! ## Trees that differ in a few places -/

namespace Tree

/-- Two trees have the same folders, and the same files except where some paths lead. -/
structure SameBut (paths : List Path) (tree other : Tree) : Prop where
  folders : SameFolders tree other
  node? : ∀ place, (∀ path ∈ paths, tree.place? path ≠ some place) →
    other.node? place = tree.node? place

variable {paths : List Path} {path : Path} {tree other third : Tree}

theorem SameBut.refl (paths : List Path) (tree : Tree) : SameBut paths tree tree :=
  ⟨.refl tree, fun _ _ => rfl⟩

/-- Changes at certain paths, one after the other, are changes at these paths: as folders stay, the
paths lead to the same places all the time. -/
theorem SameBut.trans (hfirst : SameBut paths tree other) (hsecond : SameBut paths other third) :
    SameBut paths tree third := by
  refine ⟨hfirst.folders.trans hsecond.folders, fun place hplace => ?_⟩
  have hother : ∀ path ∈ paths, other.place? path ≠ some place := by
    intro path hpath
    rw [hfirst.folders.place?]
    exact hplace path hpath
  rw [hsecond.node? place hother, hfirst.node? place hplace]

/-- A change at a few paths is one at more of them. -/
theorem SameBut.mono {more : List Path} (hsame : SameBut paths tree other)
    (hsubset : paths ⊆ more) : SameBut more tree other :=
  ⟨hsame.folders, fun place hplace => hsame.node? place fun path hpath =>
    hplace path (hsubset hpath)⟩

/-- A path that leads to none of the places that differ leads to the same node. -/
theorem SameBut.nodeAt? (hsame : SameBut paths tree other)
    (hplace : ∀ place, tree.place? path = some place →
      ∀ changed ∈ paths, tree.place? changed ≠ some place) :
    other.nodeAt? path = tree.nodeAt? path := by
  rw [Tree.nodeAt?, Tree.nodeAt?, hsame.folders.place?]
  cases hpath : tree.place? path with
  | none => rfl
  | some place => exact hsame.node? place (hplace place hpath)

/-- A file that is in none of the places that differ reads the same. -/
theorem SameBut.read (hsame : SameBut paths tree other) {bytes : ByteArray}
    (hread : tree.read path = .ok bytes)
    (hplace : ∀ changed ∈ paths, tree.place? changed ≠ tree.place? path) :
    other.read path = .ok bytes := by
  obtain ⟨hslashed, folder, name, htarget, hnode⟩ := read_eq_ok_iff.mp hread
  have hpath : tree.place? path = some (folder ++ [name]) := by rw [place?, htarget]
  rw [hpath] at hplace
  refine read_eq_ok_iff.mpr ⟨hslashed, folder, name, hsame.folders.target htarget, ?_⟩
  rw [hsame.node? _ hplace, hnode]

/-- Writing a file changes nothing elsewhere. -/
theorem sameBut_write {written : Tree} {bytes : ByteArray}
    (hwrite : tree.write path bytes = .ok written) : SameBut [path] tree written := by
  obtain ⟨place, hplace, hroot, hnode, rfl⟩ := write_eq_ok hwrite
  refine ⟨.put hroot hnode, fun other hother => ?_⟩
  rw [node?_put hroot, if_neg]
  rintro rfl
  exact hother path (List.mem_singleton_self path) hplace

theorem sameBut_remove {removed : Tree} (hremove : tree.remove path = .ok removed) :
    SameBut [path] tree removed := by
  obtain ⟨place, hplace, hroot, hnode, rfl⟩ := remove_eq_ok hremove
  refine ⟨.erase hroot hnode, fun other hother => ?_⟩
  rw [node?_erase hroot, if_neg]
  rintro rfl
  exact hother path (List.mem_singleton_self path) hplace

theorem sameBut_rename {moved : Tree} {destination : Path}
    (hrename : tree.rename path destination = .ok moved) :
    SameBut [path, destination] tree moved := by
  obtain ⟨origin, goal, bytes, horigin, horiginRoot, hfile, hgoal, hgoalRoot, hfolder, rfl⟩ :=
    rename_eq_ok hrename
  have herased : SameFolders tree (tree.erase origin) := .erase horiginRoot (by simp [hfile])
  refine ⟨herased.trans (.put hgoalRoot ((herased goal).not.mp hfolder)), fun other hother => ?_⟩
  have hne : other ≠ goal := by
    rintro rfl
    exact hother destination (by simp) hgoal
  have hneOrigin : other ≠ origin := by
    rintro rfl
    exact hother path (by simp) horigin
  rw [node?_put hgoalRoot, if_neg hne, node?_erase horiginRoot, if_neg hneOrigin]

/-! ## What stands where an operation was -/

theorem nodeAt?_write {written : Tree} {bytes : ByteArray}
    (hwrite : tree.write path bytes = .ok written) :
    written.nodeAt? path = some (.file bytes) := by
  obtain ⟨place, hplace, hroot, hnode, rfl⟩ := write_eq_ok hwrite
  rw [nodeAt?, (SameFolders.put hroot hnode).place?, hplace, Option.bind_some, node?_put hroot,
    if_pos rfl]

/-- What is moved to another place is gone from where it was. -/
theorem nodeAt?_rename {moved : Tree} {destination : Path}
    (hrename : tree.rename path destination = .ok moved)
    (hne : tree.place? path ≠ tree.place? destination) :
    moved.nodeAt? path = none ∧ moved.nodeAt? destination = tree.nodeAt? path := by
  have hfolders := (sameBut_rename hrename).folders
  obtain ⟨origin, goal, bytes, horigin, horiginRoot, hfile, hgoal, hgoalRoot, -, rfl⟩ :=
    rename_eq_ok hrename
  have hplaces : origin ≠ goal := by
    rintro rfl
    exact hne (horigin.trans hgoal.symm)
  constructor
  · rw [nodeAt?, hfolders.place?, horigin, Option.bind_some, node?_put hgoalRoot,
      if_neg hplaces, node?_erase horiginRoot, if_pos rfl]
  · rw [nodeAt?, hfolders.place?, hgoal, Option.bind_some, node?_put hgoalRoot, if_pos rfl,
      nodeAt?, horigin, Option.bind_some, hfile]

theorem nodeAt?_remove {removed : Tree} (hremove : tree.remove path = .ok removed) :
    removed.nodeAt? path = none := by
  obtain ⟨place, hplace, hroot, hnode, rfl⟩ := remove_eq_ok hremove
  rw [nodeAt?, (SameFolders.erase hroot hnode).place?, hplace, Option.bind_some,
    node?_erase hroot, if_pos rfl]

end Tree

/-! ## Runs -/

namespace Workspace

/-- A run of two parts goes through a workspace in the middle. -/
theorem bind_run_eq {α β : Type} {first : StateM Workspace α} {next : α → StateM Workspace β}
    {space stop : Workspace} {result : β} :
    (first >>= next).run space = (result, stop) ↔
      ∃ value middle, first.run space = (value, middle) ∧
        (next value).run middle = (result, stop) := by
  constructor
  · intro hrun
    exact ⟨(first.run space).1, (first.run space).2, rfl, hrun⟩
  · rintro ⟨value, middle, hfirst, hnext⟩
    change (next (first.run space).1).run (first.run space).2 = (result, stop)
    rw [hfirst]
    exact hnext

theorem pure_run_eq {α : Type} {value result : α} {space stop : Workspace} :
    (pure value : StateM Workspace α).run space = (result, stop) ↔
      result = value ∧ stop = space := by
  change (value, space) = (result, stop) ↔ _
  simp [eq_comm]

/-- A workspace after a change of its tree. -/
def advance (space : Workspace) (tree : Tree) : Workspace :=
  { space with tree, history := space.tree :: space.history }

variable {space stop : Workspace} {path : Path}

@[simp] theorem advance_tree (space : Workspace) (tree : Tree) :
    (space.advance tree).tree = tree := rfl

/-- The trees of a run, the latest first. -/
def steps (space : Workspace) : List Tree := space.tree :: space.history

@[simp] theorem steps_start (tree : Tree) (mishaps : Mishaps) :
    (start tree mishaps).steps = [tree] := rfl

/-- No tree of a run differs from a given one but where some paths lead. -/
def ChangesOnly (paths : List Path) (tree : Tree) (space : Workspace) : Prop :=
  ∀ step ∈ space.steps, tree.SameBut paths step

theorem changesOnly_start (paths : List Path) (tree : Tree) (mishaps : Mishaps) :
    ChangesOnly paths tree (start tree mishaps) := by
  simp [ChangesOnly, Tree.SameBut.refl]

theorem ChangesOnly.tree {paths : List Path} {tree : Tree} (honly : ChangesOnly paths tree space) :
    tree.SameBut paths space.tree :=
  honly space.tree (List.mem_cons_self ..)

/-- One more change at the same paths. -/
theorem ChangesOnly.advance {paths : List Path} {tree next : Tree}
    (honly : ChangesOnly paths tree space) (hnext : space.tree.SameBut paths next) :
    ChangesOnly paths tree (space.advance next) :=
  List.forall_mem_cons.mpr ⟨honly.tree.trans hnext, honly⟩

/-- A change is made or fails, and then all stays as it was. -/
theorem change_run_eq {outcome : Except FileError Tree} {result : Except FileError Unit}
    (hrun : (change outcome).run space = (result, stop)) :
    (∃ tree, outcome = .ok tree ∧ result = .ok () ∧ stop = space.advance tree) ∨
      ∃ error, outcome = .error error ∧ result = .error error ∧ stop = space := by
  cases outcome with
  | ok tree =>
      obtain ⟨rfl, rfl⟩ := Prod.mk.inj hrun
      exact .inl ⟨tree, rfl, rfl, rfl⟩
  | error error =>
      obtain ⟨rfl, rfl⟩ := Prod.mk.inj hrun
      exact .inr ⟨error, rfl, rfl, rfl⟩

/-- Reading changes nothing. -/
theorem read_run_eq {result : Except FileError ByteArray}
    (hrun : (FileSystem.read path : StateM Workspace _).run space = (result, stop)) :
    stop = space := by
  obtain ⟨_, _, hget, hrun⟩ := bind_run_eq.mp hrun
  obtain ⟨rfl, rfl⟩ := Prod.mk.inj hget
  split at hrun
  next => exact (pure_run_eq.mp hrun).2
  next => exact (pure_run_eq.mp hrun).2

/-- A write that fails may have written other bytes than it was to write. -/
theorem write_run_eq {bytes : ByteArray} {result : Except FileError Unit}
    (hrun : (FileSystem.write path bytes : StateM Workspace _).run space = (result, stop)) :
    (∃ tree, space.tree.write path bytes = .ok tree ∧ result = .ok () ∧
      stop = space.advance tree) ∨
    ∃ error, result = .error error ∧ (stop = space ∨
      ∃ part tree, space.tree.write path part = .ok tree ∧ stop = space.advance tree) := by
  obtain ⟨_, _, hget, hrun⟩ := bind_run_eq.mp hrun
  obtain ⟨rfl, rfl⟩ := Prod.mk.inj hget
  split at hrun
  next error length _ =>
    obtain ⟨value, middle, hchange, hrun⟩ := bind_run_eq.mp hrun
    obtain ⟨rfl, rfl⟩ := pure_run_eq.mp hrun
    refine .inr ⟨error, rfl, ?_⟩
    rcases change_run_eq hchange with ⟨tree, hwrite, -, rfl⟩ | ⟨-, -, -, rfl⟩
    · exact .inr ⟨_, tree, hwrite, rfl⟩
    · exact .inl rfl
  next error _ =>
    obtain ⟨rfl, rfl⟩ := pure_run_eq.mp hrun
    exact .inr ⟨error, rfl, .inl rfl⟩
  next =>
    rcases change_run_eq hrun with hdone | ⟨error, -, rfl, rfl⟩
    · exact .inl hdone
    · exact .inr ⟨error, rfl, .inl rfl⟩

theorem rename_run_eq {source destination : Path} {result : Except FileError Unit}
    (hrun : (FileSystem.rename source destination : StateM Workspace _).run space =
      (result, stop)) :
    (∃ tree, space.tree.rename source destination = .ok tree ∧ result = .ok () ∧
      stop = space.advance tree) ∨
    ∃ error, result = .error error ∧ stop = space := by
  obtain ⟨_, _, hget, hrun⟩ := bind_run_eq.mp hrun
  obtain ⟨rfl, rfl⟩ := Prod.mk.inj hget
  split at hrun
  next error _ =>
    obtain ⟨rfl, rfl⟩ := pure_run_eq.mp hrun
    exact .inr ⟨error, rfl, rfl⟩
  next =>
    rcases change_run_eq hrun with hdone | ⟨error, -, rfl, rfl⟩
    · exact .inl hdone
    · exact .inr ⟨error, rfl, rfl⟩

/-- Removing a file is done, or something kept it from being done. -/
theorem remove_run_eq {result : Except FileError Unit}
    (hrun : (FileSystem.remove path : StateM Workspace _).run space = (result, stop)) :
    (∃ tree, space.tree.remove path = .ok tree ∧ stop = space.advance tree) ∨
    stop = space ∧ (space.mishaps.remove ≠ none ∨
      ∃ error, space.tree.remove path = .error error) := by
  obtain ⟨_, _, hget, hrun⟩ := bind_run_eq.mp hrun
  obtain ⟨rfl, rfl⟩ := Prod.mk.inj hget
  split at hrun
  next error hmishap =>
    obtain ⟨-, rfl⟩ := pure_run_eq.mp hrun
    exact .inr ⟨rfl, .inl (by simp [hmishap])⟩
  next =>
    rcases change_run_eq hrun with ⟨tree, hremove, -, rfl⟩ | ⟨error, hremove, -, rfl⟩
    · exact .inl ⟨tree, hremove, rfl⟩
    · exact .inr ⟨rfl, .inr ⟨error, hremove⟩⟩

end Workspace

end QuizCompiler.Files
