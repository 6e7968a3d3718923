import Mathlib.Data.List.Basic
import QuizCompiler.Files.Tree

/-! # Operations on trees

What each operation does to the places of a tree. Operations write and remove files only,
so the folders stay as they are, and with them the place that a path leads to.
-/

namespace QuizCompiler.Files

namespace Tree

/-! ## Nodes -/

theorem lookup_filter_of_ne {place other : Place} (hne : other ≠ place)
    (entries : List (Place × Node)) :
    (entries.filter fun entry => entry.1 != place).lookup other = entries.lookup other := by
  induction entries with
  | nil => rfl
  | cons entry entries ih =>
      obtain ⟨key, node⟩ := entry
      by_cases hkey : key = place
      · subst hkey
        have hother : (other == key) = false := beq_false_of_ne hne
        simp [List.lookup_cons, hother, ih]
      · simp [List.lookup_cons, hkey, ih]

theorem lookup_filter_self (place : Place) (entries : List (Place × Node)) :
    (entries.filter fun entry => entry.1 != place).lookup place = none := by
  rw [List.lookup_eq_none_iff]
  intro entry hentry
  obtain ⟨-, hne⟩ := List.mem_filter.mp hentry
  rw [bne_comm] at hne
  exact hne

/-- What is put at a place stands there, and nothing else changes. -/
theorem node?_put {tree : Tree} {place : Place} (hplace : place ≠ []) (node : Node)
    (other : Place) :
    (tree.put place node).node? other = if other = place then some node else tree.node? other := by
  by_cases hother : other = place
  · subst hother
    simp [node?, put, hplace]
  · by_cases hroot : other = []
    · subst hroot
      simp [node?, hother]
    · have hbeq : (other == place) = false := beq_false_of_ne hother
      simp [node?, put, List.lookup_cons, hbeq, hother, hroot, lookup_filter_of_ne hother]

/-- What is removed from a place is gone, and nothing else changes. -/
theorem node?_erase {tree : Tree} {place : Place} (hplace : place ≠ []) (other : Place) :
    (tree.erase place).node? other = if other = place then none else tree.node? other := by
  by_cases hother : other = place
  · subst hother
    simp [node?, erase, hplace, lookup_filter_self]
  · by_cases hroot : other = []
    · subst hroot
      simp [node?, hother]
    · simp [node?, erase, hother, hroot, lookup_filter_of_ne hother]

/-! ## Folders -/

/-- Two trees have the same folders. -/
def SameFolders (tree other : Tree) : Prop :=
  ∀ place, tree.node? place = some .folder ↔ other.node? place = some .folder

namespace SameFolders

variable {tree other third : Tree}

theorem refl (tree : Tree) : SameFolders tree tree := fun _ => Iff.rfl

theorem symm (hsame : SameFolders tree other) : SameFolders other tree :=
  fun place => (hsame place).symm

theorem trans (hfirst : SameFolders tree other) (hsecond : SameFolders other third) :
    SameFolders tree third :=
  fun place => (hfirst place).trans (hsecond place)

/-- A file can be written where no folder is. -/
theorem put {place : Place} {bytes : ByteArray} (hplace : place ≠ [])
    (hnode : tree.node? place ≠ some .folder) :
    SameFolders tree (tree.put place (.file bytes)) := by
  intro other
  rw [node?_put hplace]
  by_cases hother : other = place
  · subst hother
    simp [hnode]
  · rw [if_neg hother]

theorem erase {place : Place} (hplace : place ≠ []) (hnode : tree.node? place ≠ some .folder) :
    SameFolders tree (tree.erase place) := by
  intro other
  rw [node?_erase hplace]
  by_cases hother : other = place
  · subst hother
    simp [hnode]
  · rw [if_neg hother]

/-- Parts lead to the same folder in trees with the same folders. -/
theorem folderFrom (hsame : SameFolders tree other) {place folder : Place} {parts : List String}
    (hfolder : tree.folderFrom place parts = .ok folder) :
    other.folderFrom place parts = .ok folder := by
  induction parts generalizing place with
  | nil => exact hfolder
  | cons part parts ih =>
      rw [Tree.folderFrom] at hfolder ⊢
      split_ifs at hfolder ⊢ with hdot hdots hlong
      · exact ih hfolder
      · exact ih hfolder
      · -- every folder on the way is a folder of the other tree too
        split at hfolder
        next => cases hfolder
        next => cases hfolder
        next hnode =>
          rw [(hsame _).mp hnode]
          exact ih hfolder

end SameFolders

/-! ## Where paths lead -/

theorem bind_eq_ok {ε α β : Type} {first : Except ε α} {next : α → Except ε β} {result : β} :
    first >>= next = .ok result ↔ ∃ value, first = .ok value ∧ next value = .ok result := by
  cases first with
  | error error => simp [bind, Except.bind]
  | ok value => simp [bind, Except.bind]

/-- What the last part of a path makes of the folder before it. -/
inductive Ends (folder : Place) : String → Target → Prop
  | here : Ends folder "." (.folder folder)
  | above : Ends folder ".." (.folder folder.dropLast)
  | named {name : String} :
    name ≠ "." → name ≠ ".." → isTooLong name = false → Ends folder name (.named folder name)

/-- A path that can lead somewhere: not too long, and without the character that ends it. -/
structure Passable (path : Path) : Prop where
  unbroken : '\x00' ∉ path.written.toList
  short : path.written.utf8ByteSize < pathLimit

/-- A path leads to the root, or as far as its last part goes from the folder before it. -/
theorem target_eq_ok_iff {tree : Tree} {path : Path} {target : Target} :
    tree.target path = .ok target ↔ Passable path ∧
      (path.parts = [] ∧ path.fromRoot = true ∧ target = .folder [] ∨
        ∃ last folder, path.parts.getLast? = some last ∧
          tree.folderFrom [] path.parts.dropLast = .ok folder ∧ Ends folder last target) := by
  constructor
  · intro htarget
    rw [Tree.target] at htarget
    -- checked in this order: the parts, the length of the path, and what the last part is
    split at htarget
    next => cases htarget
    next hunbroken =>
      split at htarget
      next => cases htarget
      next hshort =>
        refine ⟨⟨by simpa using hunbroken, by omega⟩, ?_⟩
        split at htarget
        next hlast =>
          split at htarget
          next hroot =>
            obtain rfl := Except.ok.inj htarget
            exact .inl ⟨List.getLast?_eq_none_iff.mp hlast, hroot, rfl⟩
          next => cases htarget
        next last hlast =>
          obtain ⟨folder, hfolder, htarget⟩ := bind_eq_ok.mp htarget
          refine .inr ⟨last, folder, hlast, hfolder, ?_⟩
          split_ifs at htarget with hdot hdots hlong
          · obtain rfl := Except.ok.inj htarget
            exact hdot ▸ .here
          · obtain rfl := Except.ok.inj htarget
            exact hdots ▸ .above
          · obtain rfl := Except.ok.inj htarget
            exact .named hdot hdots (by simpa using hlong)
  · rintro ⟨⟨hunbroken, hshort⟩, hleads⟩
    rw [Tree.target, if_neg (by simpa using hunbroken), if_neg (by omega)]
    rcases hleads with ⟨hparts, hroot, rfl⟩ | ⟨last, folder, hlast, hfolder, hends⟩
    · simp only [hparts, List.getLast?_nil, hroot, if_true]
      rfl
    · simp only [hlast, bind_eq_ok]
      refine ⟨folder, hfolder, ?_⟩
      cases hends with
      | here => rfl
      | above => rfl
      | named hdot hdots hlong =>
          rw [if_neg hdot, if_neg hdots, if_neg (by simp [hlong])]
          rfl

/-- A path that leads somewhere leads to the same target in every tree with the same folders. -/
theorem SameFolders.target {tree other : Tree} (hsame : SameFolders tree other) {path : Path}
    {target : Target} (htarget : tree.target path = .ok target) :
    other.target path = .ok target := by
  obtain ⟨hpassable, hleads⟩ := target_eq_ok_iff.mp htarget
  refine target_eq_ok_iff.mpr ⟨hpassable, hleads.imp_right ?_⟩
  rintro ⟨last, folder, hlast, hfolder, hends⟩
  exact ⟨last, folder, hlast, hsame.folderFrom hfolder, hends⟩

/-- The place that a path leads to, if all its folders are there. -/
def place? (tree : Tree) (path : Path) : Option Place :=
  match tree.target path with
  | .ok (.named folder name) => some (folder ++ [name])
  | .ok (.folder place) => some place
  | .error _ => none

/-- What stands where a path leads. -/
def nodeAt? (tree : Tree) (path : Path) : Option Node := (tree.place? path).bind tree.node?

/-- A path leads to the same place in trees with the same folders, or to none in both. -/
theorem SameFolders.place? {tree other : Tree} (hsame : SameFolders tree other) (path : Path) :
    other.place? path = tree.place? path := by
  cases htarget : tree.target path with
  | ok target => rw [Tree.place?, Tree.place?, htarget, hsame.target htarget]
  | error error =>
      cases hother : other.target path with
      | ok target =>
          rw [hsame.symm.target hother] at htarget
          cases htarget
      | error error => rw [Tree.place?, Tree.place?, htarget, hother]

/-! ## Operations -/

/-- Reading finds a file, with no slash behind its name. -/
theorem read_eq_ok_iff {tree : Tree} {path : Path} {bytes : ByteArray} :
    tree.read path = .ok bytes ↔ path.slashed = false ∧
      ∃ folder name, tree.target path = .ok (.named folder name) ∧
        tree.node? (folder ++ [name]) = some (.file bytes) := by
  rw [read, bind_eq_ok]
  constructor
  · rintro ⟨target, htarget, hread⟩
    cases target with
    | folder place => cases hread
    | named folder name =>
        dsimp only at hread
        split at hread
        next => cases hread
        next => cases hread
        next hnode =>
          split at hread
          next => cases hread
          next hslashed =>
            obtain rfl := Except.ok.inj hread
            exact ⟨by simpa using hslashed, folder, name, htarget, hnode⟩
  · rintro ⟨hslashed, folder, name, htarget, hnode⟩
    refine ⟨.named folder name, htarget, ?_⟩
    simp only [hnode, hslashed]
    rfl

/-- Writing puts a file where no folder is. -/
theorem write_eq_ok {tree written : Tree} {path : Path} {bytes : ByteArray}
    (hwrite : tree.write path bytes = .ok written) :
    ∃ place, tree.place? path = some place ∧ place ≠ [] ∧ tree.node? place ≠ some .folder ∧
      written = tree.put place (.file bytes) := by
  rw [write, bind_eq_ok] at hwrite
  obtain ⟨target, htarget, hwrite⟩ := hwrite
  cases target with
  | folder place => cases hwrite
  | named folder name =>
      dsimp only at hwrite
      split at hwrite
      next => cases hwrite
      next hfree =>
        obtain rfl := Except.ok.inj hwrite
        refine ⟨folder ++ [name], by rw [place?, htarget], by simp, ?_, rfl⟩
        intro hnode
        simp [hnode, Node.isFolder] at hfree

/-- Removing takes a file away. -/
theorem remove_eq_ok {tree removed : Tree} {path : Path}
    (hremove : tree.remove path = .ok removed) :
    ∃ place, tree.place? path = some place ∧ place ≠ [] ∧ tree.node? place ≠ some .folder ∧
      removed = tree.erase place := by
  rw [remove, bind_eq_ok] at hremove
  obtain ⟨target, htarget, hremove⟩ := hremove
  cases target with
  | folder place => cases hremove
  | named folder name =>
      dsimp only at hremove
      split at hremove
      next => cases hremove
      next => cases hremove
      next hnode =>
        split at hremove
        next => cases hremove
        next =>
          obtain rfl := Except.ok.inj hremove
          exact ⟨folder ++ [name], by rw [place?, htarget], by simp, by simp [hnode], rfl⟩

/-- A file can always be removed, unless there is a slash behind its name. -/
theorem remove_of_file {tree : Tree} {path : Path} {folder : Place} {name : String}
    {bytes : ByteArray} (hslashed : path.slashed = false)
    (htarget : tree.target path = .ok (.named folder name))
    (hnode : tree.node? (folder ++ [name]) = some (.file bytes)) :
    tree.remove path = .ok (tree.erase (folder ++ [name])) := by
  rw [remove, bind_eq_ok]
  refine ⟨.named folder name, htarget, ?_⟩
  simp only [hnode, hslashed]
  rfl

/-- Moving puts a file in another place, where no folder is. -/
theorem rename_eq_ok {tree moved : Tree} {source destination : Path}
    (hrename : tree.rename source destination = .ok moved) :
    ∃ origin goal bytes, tree.place? source = some origin ∧ origin ≠ [] ∧
      tree.node? origin = some (.file bytes) ∧ tree.place? destination = some goal ∧ goal ≠ [] ∧
      tree.node? goal ≠ some .folder ∧ moved = (tree.erase origin).put goal (.file bytes) := by
  simp only [rename, bind_eq_ok] at hrename
  obtain ⟨origin, horigin, goal, hgoal, hrename⟩ := hrename
  split at hrename
  next folder name goalFolder goalName =>
    split at hrename
    next => cases hrename
    next => cases hrename
    next bytes hnode =>
      split_ifs at hrename with hslashed hfree
      obtain rfl := Except.ok.inj hrename
      refine ⟨folder ++ [name], goalFolder ++ [goalName], bytes, by rw [place?, horigin],
        by simp, hnode, by rw [place?, hgoal], by simp, ?_, rfl⟩
      intro hfolder
      simp [hfolder, Node.isFolder] at hfree
  next => cases hrename

end Tree

end QuizCompiler.Files
