import QuizCompiler.Proofs.Trees

/-! # Siblings of paths

The path to which a file is written before it is moved leads beside the path itself: to
the same folder, by the name with a mark behind it. A path without a name for a file is a
folder, and its sibling lies in that folder.
-/

namespace QuizCompiler.Files

namespace Tree

/-! ## Walking along parts -/

theorem folderFrom_append (tree : Tree) (place : Place) (first second : List String) :
    tree.folderFrom place (first ++ second) =
      tree.folderFrom place first >>= fun middle => tree.folderFrom middle second := by
  induction first generalizing place with
  | nil => rfl
  | cons part first ih =>
      rw [List.cons_append, folderFrom, folderFrom]
      split_ifs with hdot hdots hlong
      · exact ih _
      · exact ih _
      · rfl
      · split
        · rfl
        · rfl
        · exact ih _

/-- Dots do not lead anywhere. -/
theorem folderFrom_filter (tree : Tree) (place : Place) (parts : List String) :
    tree.folderFrom place (parts.filter (· != ".")) = tree.folderFrom place parts := by
  induction parts generalizing place with
  | nil => rfl
  | cons part parts ih =>
      by_cases hdot : part = "."
      · subst hdot
        rw [folderFrom, if_pos rfl]
        exact ih place
      · rw [List.filter_cons_of_pos (by simpa using hdot), folderFrom, folderFrom]
        simp only [ih]

theorem folderFrom_singleton {tree : Tree} {place folder : Place} {name : String}
    (hdot : name ≠ ".") (hdots : name ≠ "..")
    (hfolder : tree.folderFrom place [name] = .ok folder) : folder = place ++ [name] := by
  rw [folderFrom, if_neg hdot, if_neg hdots] at hfolder
  split at hfolder
  next => cases hfolder
  next =>
    split at hfolder
    next => cases hfolder
    next => cases hfolder
    next => exact (Except.ok.inj hfolder).symm

end Tree

namespace Path

/-! ## The parts that name a file -/

/-- The parts that name a file are those of the path without the dots that lead nowhere, but for one
at the beginning. -/
theorem namingParts_eq (path : Path) :
    path.namingParts = path.parts.filter (· != ".") ∨
      path.namingParts = "." :: path.parts.filter (· != ".") := by
  unfold namingParts
  split
  next rest hparts =>
    split
    next => exact .inl (by simp [hparts])
    next => exact .inr (by simp [hparts])
  next => exact .inl rfl

/-- The parts that name a file lead where the parts of the path lead. -/
theorem folderFrom_namingParts (tree : Tree) (place : Place) (path : Path) :
    tree.folderFrom place path.namingParts = tree.folderFrom place path.parts := by
  rcases path.namingParts_eq with hnaming | hnaming
  · rw [hnaming, Tree.folderFrom_filter]
  · rw [hnaming, Tree.folderFrom, if_pos rfl, Tree.folderFrom_filter]

/-- A path has a name for a file, and its sibling has that name with a mark behind it; or it has
none, and the mark is the name of its sibling. -/
theorem siblingParts_eq (path : Path) :
    (∃ front name, path.namingParts = front ++ [name] ∧ isName name = true ∧
      path.siblingParts = front ++ [name ++ temporaryMark]) ∨
    ((∀ front name, path.namingParts = front ++ [name] → isName name = false) ∧
      path.siblingParts = path.namingParts ++ [temporaryMark]) := by
  unfold siblingParts
  split
  next name hlast =>
    obtain ⟨front, hnaming⟩ := List.getLast?_eq_some_iff.mp hlast
    rw [hnaming, List.dropLast_concat]
    by_cases hname : isName name = true
    · exact .inl ⟨front, name, rfl, hname, by rw [if_pos hname]⟩
    · refine .inr ⟨fun front' name' heq => ?_, by rw [if_neg hname]⟩
      obtain ⟨-, rfl⟩ := List.append_singleton_inj.mp heq
      simpa using hname
  next hnone =>
    have hnaming := List.getLast?_eq_none_iff.mp hnone
    refine .inr ⟨fun front name heq => ?_, by rw [hnaming]; rfl⟩
    simp [hnaming] at heq

theorem isName_iff {part : String} : isName part = true ↔ part ≠ "." ∧ part ≠ ".." := by
  simp [isName]

/-- A name with the mark behind it is a name. -/
theorem isName_append_temporaryMark (name : String) : isName (name ++ temporaryMark) = true := by
  have hlength : (name ++ temporaryMark).length = name.length + 4 :=
    String.length_append name temporaryMark
  refine isName_iff.mpr ⟨?_, ?_⟩
  · intro heq
    rw [heq] at hlength
    change 1 = _ at hlength
    omega
  · intro heq
    rw [heq] at hlength
    change 2 = _ at hlength
    omega

end Path

namespace Tree

variable {tree : Tree} {path : Path}

/-- A path whose last part is a name leads to that name in the folder before it. -/
theorem target_of_name {front : List String} {name : String} {target : Target}
    (hparts : path.parts = front ++ [name]) (hname : Path.isName name = true)
    (htarget : tree.target path = .ok target) :
    ∃ folder, tree.folderFrom [] front = .ok folder ∧ target = .named folder name := by
  obtain ⟨-, ⟨hnone, -⟩ | ⟨last, folder, hlast, hfolder, hends⟩⟩ := target_eq_ok_iff.mp htarget
  · simp [hparts] at hnone
  · rw [hparts, List.getLast?_concat, Option.some.injEq] at hlast
    rw [hparts, List.dropLast_concat] at hfolder
    subst hlast
    obtain ⟨hdot, hdots⟩ := Path.isName_iff.mp hname
    refine ⟨folder, hfolder, ?_⟩
    cases hends with
    | here => exact absurd rfl hdot
    | above => exact absurd rfl hdots
    | named _ _ _ => rfl

/-- Where the sibling of a path leads. -/
theorem target_sibling {target : Target} (htarget : tree.target path.sibling = .ok target) :
    (∃ front name folder, path.namingParts = front ++ [name] ∧ Path.isName name = true ∧
      tree.folderFrom [] front = .ok folder ∧
      target = .named folder (name ++ Path.temporaryMark)) ∨
    ((∀ front name, path.namingParts = front ++ [name] → Path.isName name = false) ∧
      ∃ folder, tree.folderFrom [] path.namingParts = .ok folder ∧
        target = .named folder Path.temporaryMark) := by
  rcases path.siblingParts_eq with ⟨front, name, hnaming, hname, hparts⟩ | ⟨hunnamed, hparts⟩
  · obtain ⟨folder, hfolder, rfl⟩ :=
      target_of_name hparts (Path.isName_append_temporaryMark name) htarget
    exact .inl ⟨front, name, folder, hnaming, hname, hfolder, rfl⟩
  · obtain ⟨folder, hfolder, rfl⟩ := target_of_name hparts rfl htarget
    exact .inr ⟨hunnamed, folder, hfolder, rfl⟩

/-- A path leads to a name in a folder, or else as far as all its parts lead. -/
theorem folderFrom_of_place? {place : Place} (hplace : tree.place? path = some place) :
    (∃ front name folder, path.parts = front ++ [name] ∧ Path.isName name = true ∧
      tree.folderFrom [] front = .ok folder ∧ place = folder ++ [name]) ∨
    tree.folderFrom [] path.parts = .ok place := by
  rw [place?] at hplace
  cases htarget : tree.target path with
  | error error =>
      rw [htarget] at hplace
      cases hplace
  | ok target =>
      rw [htarget] at hplace
      obtain ⟨-, ⟨hparts, -, rfl⟩ | ⟨last, folder, hlast, hfolder, hends⟩⟩ :=
        target_eq_ok_iff.mp htarget
      · obtain rfl := Option.some.inj hplace
        exact .inr (by rw [hparts]; rfl)
      · obtain ⟨front, hparts⟩ := List.getLast?_eq_some_iff.mp hlast
        rw [hparts, List.dropLast_concat] at hfolder
        have hall : tree.folderFrom [] path.parts = tree.folderFrom folder [last] := by
          rw [hparts, folderFrom_append, hfolder]
          rfl
        cases hends with
        | here =>
            obtain rfl := Option.some.inj hplace
            exact .inr hall
        | above =>
            obtain rfl := Option.some.inj hplace
            exact .inr hall
        | named hdot hdots _ =>
            obtain rfl := Option.some.inj hplace
            exact .inl ⟨front, last, folder, hparts, Path.isName_iff.mpr ⟨hdot, hdots⟩, hfolder,
              rfl⟩

/-- Where a path leads, by the parts that name a file. -/
theorem place?_eq_some {place : Place} (hplace : tree.place? path = some place) :
    (∃ front name folder, path.namingParts = front ++ [name] ∧ Path.isName name = true ∧
      tree.folderFrom [] front = .ok folder ∧ place = folder ++ [name]) ∨
    ((∀ front name, path.namingParts = front ++ [name] → Path.isName name = false) ∧
      tree.folderFrom [] path.namingParts = .ok place) := by
  rcases folderFrom_of_place? hplace with ⟨front, name, folder, hparts, hname, hfolder, rfl⟩ | hall
  · left
    have hdot : name ≠ "." := (Path.isName_iff.mp hname).1
    have hfiltered : path.parts.filter (· != ".") = front.filter (· != ".") ++ [name] := by
      simp [hparts, hdot]
    have hfront : tree.folderFrom [] (front.filter (· != ".")) = .ok folder := by
      rw [folderFrom_filter, hfolder]
    rcases path.namingParts_eq with hnaming | hnaming
    · exact ⟨front.filter (· != "."), name, folder, by rw [hnaming, hfiltered], hname, hfront, rfl⟩
    · refine ⟨"." :: front.filter (· != "."), name, folder, by rw [hnaming, hfiltered]; rfl, hname,
        ?_, rfl⟩
      rw [folderFrom, if_pos rfl, hfront]
  · rw [← Path.folderFrom_namingParts] at hall
    -- a path that ends in a dot may still name a file by the part before it
    by_cases hnamed : ∃ front name, path.namingParts = front ++ [name] ∧ Path.isName name = true
    · left
      obtain ⟨front, name, hnaming, hname⟩ := hnamed
      rw [hnaming, folderFrom_append, bind_eq_ok] at hall
      obtain ⟨folder, hfolder, hlast⟩ := hall
      obtain ⟨hdot, hdots⟩ := Path.isName_iff.mp hname
      exact ⟨front, name, folder, hnaming, hname, hfolder,
        folderFrom_singleton hdot hdots hlast⟩
    · right
      refine ⟨fun front name hnaming => ?_, hall⟩
      cases hname : Path.isName name with
      | false => rfl
      | true => exact absurd ⟨front, name, hnaming, hname⟩ hnamed

/-- A path and its sibling lead to different places. -/
theorem place?_sibling_ne {place : Place} (hplace : tree.place? path = some place) :
    tree.place? path.sibling ≠ some place := by
  intro hsibling
  rw [place?] at hsibling
  cases htarget : tree.target path.sibling with
  | error error =>
      rw [htarget] at hsibling
      cases hsibling
  | ok target =>
      rw [htarget] at hsibling
      -- the sibling has a longer name in the same folder, or is a place further down
      rcases target_sibling htarget with
        ⟨front, name, folder, hnaming, hname, hfolder, rfl⟩ | ⟨hunnamed, folder, hfolder, rfl⟩
      · obtain rfl := Option.some.inj hsibling
        rcases place?_eq_some hplace with
          ⟨front', name', folder', hnaming', -, hfolder', heq⟩ | ⟨hunnamed, -⟩
        · rw [hnaming] at hnaming'
          obtain ⟨rfl, rfl⟩ := List.append_singleton_inj.mp hnaming'
          obtain ⟨-, hmarked⟩ := List.append_singleton_inj.mp heq
          have hlength := congrArg String.length hmarked
          rw [String.length_append] at hlength
          change _ + 4 = _ at hlength
          omega
        · rw [hunnamed front name hnaming] at hname
          cases hname
      · obtain rfl := Option.some.inj hsibling
        rcases place?_eq_some hplace with ⟨front, name, -, hnaming, hname, -⟩ | ⟨-, hall⟩
        · rw [hunnamed front name hnaming] at hname
          cases hname
        · rw [hall] at hfolder
          have hlength := congrArg List.length (Except.ok.inj hfolder)
          rw [List.length_append] at hlength
          change _ + 1 = _ at hlength
          omega

/-- A file beside a path can always be removed: the path to it ends with its name. -/
theorem remove_sibling_of_file {bytes : ByteArray}
    (hnode : tree.nodeAt? path.sibling = some (.file bytes)) :
    ∃ removed, tree.remove path.sibling = .ok removed := by
  obtain ⟨place, hplace, hfile⟩ := Option.bind_eq_some_iff.mp hnode
  rw [place?] at hplace
  cases htarget : tree.target path.sibling with
  | error error =>
      rw [htarget] at hplace
      cases hplace
  | ok target =>
      rw [htarget] at hplace
      rcases target_sibling htarget with ⟨-, name, folder, -, -, -, rfl⟩ | ⟨-, folder, -, rfl⟩
      · obtain rfl := Option.some.inj hplace
        exact ⟨_, remove_of_file rfl htarget hfile⟩
      · obtain rfl := Option.some.inj hplace
        exact ⟨_, remove_of_file rfl htarget hfile⟩

end Tree

end QuizCompiler.Files
