import QuizCompiler.Proofs.Changes
import QuizCompiler.Quiz.Exchange

/-! # Documents appear whole

A document is written beside its destination and then moved there. Whatever goes wrong, the
destination holds what it held before or the whole document, and nothing changes but the
destination and what is beside it.
-/

namespace QuizCompiler.Quiz

open Files Data Workspace QuizCompiler.Random

variable {space stop : Workspace} {output : Path}

/-! ## Writing and moving -/

/-- The ways in which putting bytes in place can go. -/
inductive PutRun (output : Path) (bytes : ByteArray) (space : Workspace) :
    Except FileError Unit → Workspace → Prop
  /-- All bytes were written before they were moved. -/
  | moved {written moved : Tree} :
    space.tree.write output.sibling bytes = .ok written →
      written.rename output.sibling output = .ok moved →
        PutRun output bytes space (.ok ()) ((space.advance written).advance moved)
  /-- Some bytes may have been written, and what is there is removed. -/
  | dropped {middle stop : Workspace} {error : FileError} {removal : Except FileError Unit} :
    (middle = space ∨ ∃ part written,
      space.tree.write output.sibling part = .ok written ∧ middle = space.advance written) →
      (FileSystem.remove output.sibling : StateM Workspace _).run middle = (removal, stop) →
        PutRun output bytes space (.error error) stop

/-- Bytes are moved in place or dropped; there are no other ways. -/
theorem putInPlace_run {bytes : ByteArray} {result : Except FileError Unit}
    (hrun : (putInPlace output bytes : StateM Workspace _).run space = (result, stop)) :
    PutRun output bytes space result stop := by
  obtain ⟨_, middle, hwrite, hrest⟩ := bind_run_eq.mp hrun
  rcases write_run_eq hwrite with ⟨written, hwritten, rfl, rfl⟩ | ⟨error, rfl, hpart⟩
  · obtain ⟨_, middle, hrename, hrest⟩ := bind_run_eq.mp hrest
    rcases rename_run_eq hrename with ⟨moved, hmoved, rfl, rfl⟩ | ⟨error, rfl, rfl⟩
    · obtain ⟨rfl, rfl⟩ := pure_run_eq.mp hrest
      exact .moved hwritten hmoved
    · obtain ⟨removal, stop, hremove, hrest⟩ := bind_run_eq.mp hrest
      obtain ⟨rfl, rfl⟩ := pure_run_eq.mp hrest
      exact .dropped (.inr ⟨bytes, written, hwritten, rfl⟩) hremove
  · obtain ⟨removal, stop, hremove, hrest⟩ := bind_run_eq.mp hrest
    obtain ⟨rfl, rfl⟩ := pure_run_eq.mp hrest
    exact .dropped hpart hremove

/-- Bytes are moved in place whole, after only the sibling has changed. -/
theorem PutRun.done {tree : Tree} {bytes : ByteArray}
    (hrun : PutRun output bytes space (.ok ()) stop)
    (honly : ChangesOnly [output.sibling] tree space) :
    stop.tree.nodeAt? output = some (.file bytes) ∧ stop.tree.nodeAt? output.sibling = none ∧
      tree.SameBut [output.sibling, output] stop.tree ∧
      ∃ middle, ChangesOnly [output.sibling] tree middle ∧
        stop.steps = stop.tree :: middle.steps := by
  cases hrun with
  | @moved written moved hwrite hrename =>
      have hmiddle := honly.advance (Tree.sameBut_write hwrite)
      have hplaces : written.place? output.sibling ≠ written.place? output := by
        obtain ⟨-, goal, -, -, -, -, hgoal, -⟩ := Tree.rename_eq_ok hrename
        rw [hgoal]
        exact Tree.place?_sibling_ne hgoal
      obtain ⟨hgone, hmoved⟩ := Tree.nodeAt?_rename hrename hplaces
      rw [Tree.nodeAt?_write hwrite] at hmoved
      exact ⟨hmoved, hgone, (hmiddle.tree.mono (by simp)).trans (Tree.sameBut_rename hrename), _,
        hmiddle, rfl⟩

/-- Bytes that cannot be put in place are gone from the sibling, unless removing them failed. -/
theorem PutRun.failed {tree : Tree} {bytes : ByteArray} {error : FileError}
    (hrun : PutRun output bytes space (.error error) stop)
    (honly : ChangesOnly [output.sibling] tree space) :
    ChangesOnly [output.sibling] tree stop ∧
      (space.mishaps.remove = none →
        ∀ rest, stop.tree.nodeAt? output.sibling ≠ some (.file rest)) := by
  cases hrun with
  | @dropped middle _ _ removal hmiddle hremove =>
      have hmishaps : middle.mishaps = space.mishaps := by
        rcases hmiddle with rfl | ⟨-, -, -, rfl⟩ <;> rfl
      have hchanges : ChangesOnly [output.sibling] tree middle := by
        rcases hmiddle with rfl | ⟨part, written, hwrite, rfl⟩
        · exact honly
        · exact honly.advance (Tree.sameBut_write hwrite)
      rcases remove_run_eq hremove with ⟨removed, hremoved, rfl⟩ | ⟨rfl, hfailed⟩
      · refine ⟨hchanges.advance (Tree.sameBut_remove hremoved), fun _ rest hfile => ?_⟩
        rw [advance_tree, Tree.nodeAt?_remove hremoved] at hfile
        cases hfile
      · refine ⟨hchanges, fun hnone rest hfile => ?_⟩
        -- nothing else keeps a file at the sibling from being removed
        rcases hfailed with hmishap | ⟨error, herror⟩
        · exact hmishap (hmishaps ▸ hnone)
        · obtain ⟨removed, hremoved⟩ := Tree.remove_sibling_of_file hfile
          rw [hremoved] at herror
          cases herror

/-! ## Compiling files -/

theorem readText_run_eq {path : Path} {contents : Except FileError String}
    (hrun : (readText path : StateM Workspace _).run space = (contents, stop)) :
    stop = space := by
  obtain ⟨result, middle, hread, hrest⟩ := bind_run_eq.mp hrun
  obtain rfl := read_run_eq hread
  split at hrest
  next => exact (pure_run_eq.mp hrest).2
  next =>
    split at hrest
    next => exact (pure_run_eq.mp hrest).2
    next => exact (pure_run_eq.mp hrest).2

/-- Reading the source changes nothing, and it does not fail for want of being able to write. -/
theorem readSource_run_eq {source : Option Path} {read : Logged (Except CompileError String)}
    (hrun : (readSource source : StateM Workspace _).run space = (read, stop)) :
    stop = space ∧ ∀ path fault, read.value ≠ .error (.unwritable path fault) := by
  cases source with
  | none =>
      obtain ⟨rfl, rfl⟩ := pure_run_eq.mp hrun
      exact ⟨rfl, fun path fault => nofun⟩
  | some path =>
      obtain ⟨contents, middle, hread, hrun⟩ := bind_run_eq.mp hrun
      obtain ⟨rfl, rfl⟩ := pure_run_eq.mp hrun
      refine ⟨readText_run_eq hread, fun path fault => ?_⟩
      cases contents with
      | error error => nofun
      | ok contents => nofun

/-- The ways in which compiling a file can go. -/
inductive FileRun (output : Path) (space : Workspace) :
    Option (Logged (Except CompileError Document) × Nat) → Workspace → Prop
  /-- Some name was not found with the patience there was. -/
  | unnamed : FileRun output space none space
  /-- The source cannot be read or compiled. -/
  | refused {error : CompileError} {log : List Notice} {next : Nat} :
    (∀ path fault, error ≠ .unwritable path fault) →
      FileRun output space (some (⟨.error error, log⟩, next)) space
  | written {document : Document} {log : List Notice} {next : Nat} {stop : Workspace} :
    PutRun output document.bytes space (.ok ()) stop →
      FileRun output space (some (⟨.ok document, log⟩, next)) stop
  | unwritten {document : Document} {fault : FileError} {log : List Notice} {next : Nat}
      {stop : Workspace} :
    PutRun output document.bytes space (.error fault) stop →
      FileRun output space (some (⟨.error (.unwritable output.written fault), log⟩, next)) stop

/-- A call goes one of the four ways. -/
theorem compileFile_run {words : Words} {patience : Nat} {source : Option Path} {config : Config}
    {drawn : Nat} {outcome : Option (Logged (Except CompileError Document) × Nat)}
    (hrun : (compileFile words patience source output config drawn : StateM Workspace _).run space =
      (outcome, stop)) : FileRun output space outcome stop := by
  obtain ⟨read, middle, hread, hrest⟩ := bind_run_eq.mp hrun
  obtain ⟨rfl, hreadable⟩ := readSource_run_eq hread
  split at hrest
  next error hvalue =>
    obtain ⟨rfl, rfl⟩ := pure_run_eq.mp hrest
    exact .refused fun path fault heq => hreadable path fault (heq ▸ hvalue)
  next markdown _ =>
    split at hrest
    next =>
      obtain ⟨rfl, rfl⟩ := pure_run_eq.mp hrest
      exact .unnamed
    next compiled next _ =>
      split at hrest
      next error _ =>
        obtain ⟨rfl, rfl⟩ := pure_run_eq.mp hrest
        exact .refused fun path fault => nofun
      next document _ =>
        obtain ⟨written, stop', hwrite, hdone⟩ := bind_run_eq.mp hrest
        obtain ⟨rfl, rfl⟩ := pure_run_eq.mp hdone
        obtain ⟨result, stop'', hplace, hwrite⟩ := bind_run_eq.mp hwrite
        obtain ⟨rfl, rfl⟩ := pure_run_eq.mp hwrite
        cases result with
        | error fault => exact .unwritten (putInPlace_run hplace)
        | ok done => exact .written (putInPlace_run hplace)

/-! ## What a call does to a tree -/

/-- What a call does to a tree, whatever goes wrong with its operations. -/
structure Atomic (tree : Tree) (mishaps : Mishaps) (output : Path)
    (outcome : Option (Logged (Except CompileError Document) × Nat)) (space : Workspace) :
    Prop where
  /-- A document that is returned is in place, and nothing is left beside it. -/
  done : ∀ document log next, outcome = some (⟨.ok document, log⟩, next) →
    space.tree.nodeAt? output = some (.file (document.text ++ "\n").toUTF8) ∧
      space.tree.nodeAt? output.sibling = none
  failed : ∀ error log next, outcome = some (⟨.error error, log⟩, next) →
    space.tree.nodeAt? output = tree.nodeAt? output
  /-- A source that cannot be read or compiled changes nothing, not even for a while. -/
  untouched : ∀ error log next, outcome = some (⟨.error error, log⟩, next) →
    (∀ path fault, error ≠ .unwritable path fault) → space = .start tree mishaps
  /-- A document that cannot be written is not left beside its destination either. -/
  cleaned : ∀ path fault log next, outcome = some (⟨.error (.unwritable path fault), log⟩, next) →
    mishaps.remove = none → ∀ bytes, space.tree.nodeAt? output.sibling ≠ some (.file bytes)
  elsewhere : ∀ place, tree.place? output ≠ some place → tree.place? output.sibling ≠ some place →
    ∀ step ∈ space.steps, step.node? place = tree.node? place
  /-- The destination never holds a part of a document. -/
  whole : ∀ step ∈ space.steps, step.nodeAt? output = tree.nodeAt? output ∨
    ∃ document log next, outcome = some (⟨.ok document, log⟩, next) ∧
      step.nodeAt? output = some (.file (document.text ++ "\n").toUTF8)

/-- While only the sibling changes, the destination is as it was. -/
theorem nodeAt?_of_changesOnly {tree : Tree} (honly : ChangesOnly [output.sibling] tree space) :
    ∀ step ∈ space.steps, step.nodeAt? output = tree.nodeAt? output := by
  intro step hstep
  refine (honly step hstep).nodeAt? fun place hplace => ?_
  exact List.forall_mem_singleton.mpr (Tree.place?_sibling_ne hplace)

theorem node?_of_changesOnly {tree : Tree} (honly : ChangesOnly [output.sibling] tree space)
    {place : Place} (hplace : tree.place? output.sibling ≠ some place) :
    ∀ step ∈ space.steps, step.node? place = tree.node? place :=
  fun step hstep => (honly step hstep).node? place (List.forall_mem_singleton.mpr hplace)

/-- Whatever goes wrong, a call leaves the old contents of its destination or the whole
document. -/
theorem compileFile_atomic (words : Words) (patience : Nat) (source : Option Path) (output : Path)
    (config : Config) (drawn : Nat) (tree : Tree) (mishaps : Mishaps)
    {outcome : Option (Logged (Except CompileError Document) × Nat)} {space : Workspace}
    (hrun : (compileFile words patience source output config drawn : StateM Workspace _).run
      (.start tree mishaps) = (outcome, space)) :
    Atomic tree mishaps output outcome space := by
  have hstart := changesOnly_start [output.sibling] tree mishaps
  -- only the last way touches the destination; the others change the sibling at most
  cases compileFile_run hrun with
  | unnamed =>
      exact {
        done := nofun
        failed := nofun
        untouched := nofun
        cleaned := nofun
        elsewhere := fun place _ hplace => node?_of_changesOnly hstart hplace
        whole := fun step hstep => .inl (nodeAt?_of_changesOnly hstart step hstep) }
  | refused hreadable =>
      exact {
        done := nofun
        failed := fun _ _ _ _ => rfl
        untouched := fun _ _ _ _ _ => rfl
        cleaned := by
          rintro path fault log next ⟨⟩
          exact absurd rfl (hreadable path fault)
        elsewhere := fun place _ hplace => node?_of_changesOnly hstart hplace
        whole := fun step hstep => .inl (nodeAt?_of_changesOnly hstart step hstep) }
  | unwritten hput =>
      obtain ⟨honly, hcleaned⟩ := hput.failed hstart
      exact {
        done := nofun
        failed := fun _ _ _ _ => nodeAt?_of_changesOnly honly _ (List.mem_cons_self ..)
        untouched := by
          rintro error log next ⟨⟩ hreadable
          exact absurd rfl (hreadable _ _)
        cleaned := fun _ _ _ _ _ => hcleaned
        elsewhere := fun place _ hplace => node?_of_changesOnly honly hplace
        whole := fun step hstep => .inl (nodeAt?_of_changesOnly honly step hstep) }
  | written hput =>
      obtain ⟨hnew, hgone, hsame, middle, honly, hsteps⟩ := hput.done hstart
      exact {
        done := by
          rintro document log next ⟨⟩
          exact ⟨hnew, hgone⟩
        failed := nofun
        untouched := nofun
        cleaned := nofun
        elsewhere := by
          intro place hplace hsibling
          rw [hsteps, List.forall_mem_cons]
          exact ⟨hsame.node? place (by simp [hplace, hsibling]),
            node?_of_changesOnly honly hsibling⟩
        whole := by
          rw [hsteps, List.forall_mem_cons]
          exact ⟨.inr ⟨_, _, _, rfl, hnew⟩,
            fun step hstep => .inl (nodeAt?_of_changesOnly honly step hstep)⟩ }

/-- A text with one complete question. -/
def oneQuestionText : String := "# T\n\n## Q\n> d\n- [x] a\n- [ ] b\n"

/-- A folder with a source, an older document, and a file in the way of writing a new one. -/
def crowdedFolder : Tree :=
  ((Tree.empty.addFile (.ofString "quiz.md") oneQuestionText.toUTF8).addFile
    (.ofString "quiz.json") "old".toUTF8).addFile (.ofString "quiz.json.tmp") "mine".toUTF8

/-- Compile the source of a folder over the document there. -/
def recompile (tree : Tree) (mishaps : Mishaps) :
    Option (Logged (Except CompileError Document) × Nat) × Workspace :=
  (compileFile (.listed #[] 0) 1 (some (.ofString "quiz.md")) (.ofString "quiz.json") .default 0 :
    StateM Workspace _).run (.start tree mishaps)

/-- Whether a call ended, and what it ended with passes a test. -/
def endsIn (test : Except CompileError Document → Bool)
    (outcome : Option (Logged (Except CompileError Document) × Nat)) : Bool :=
  outcome.any fun returned => test returned.1.value

theorem exists_of_endsIn {test : Except CompileError Document → Bool}
    {outcome : Option (Logged (Except CompileError Document) × Nat)}
    (hends : endsIn test outcome = true) :
    ∃ value log next, outcome = some (⟨value, log⟩, next) ∧ test value = true := by
  cases outcome with
  | none => cases hends
  | some returned =>
      obtain ⟨⟨value, log⟩, next⟩ := returned
      exact ⟨value, log, next, rfl, hends⟩

/-- Whether there is a document, with so many questions. -/
def hasQuestions (count : Nat) : Except CompileError Document → Bool
  | .ok document => document.questionCount == count
  | .error _ => false

/-- Whether a document could not be written at a path. -/
def isUnwritten (written : String) : Except CompileError Document → Bool
  | .error (.unwritable path _) => path == written
  | _ => false

/-- The source of the folder compiles to a document with its question. -/
theorem recompile_returns : ∃ document log next,
    (recompile crowdedFolder .none).1 = some (⟨.ok document, log⟩, next) ∧
      document.questionCount = 1 := by
  have hends : endsIn (hasQuestions 1) (recompile crowdedFolder .none).1 = true := by
    decide +kernel
  obtain ⟨value, log, next, hrun, hvalue⟩ := exists_of_endsIn hends
  cases value with
  | error error => cases hvalue
  | ok document => exact ⟨document, log, next, hrun, beq_iff_eq.mp hvalue⟩

/-- A call that succeeds puts its document in place of the older one; one that is interrupted in
writing leaves the older one there. -/
theorem compileFile_atomic_crowdedFolder :
    (∃ document log next, (recompile crowdedFolder .none).1 = some (⟨.ok document, log⟩, next) ∧
      (recompile crowdedFolder .none).2.tree.nodeAt? (.ofString "quiz.json") =
        some (.file (document.text ++ "\n").toUTF8)) ∧
    ∃ fault log next, (recompile crowdedFolder ⟨none, some (.busy, some 7), none, none⟩).1 =
        some (⟨.error (.unwritable "quiz.json" fault), log⟩, next) ∧
      (recompile crowdedFolder ⟨none, some (.busy, some 7), none, none⟩).2.tree.nodeAt?
        (.ofString "quiz.json") = some (.file "old".toUTF8) := by
  have hatomic (mishaps : Mishaps) : Atomic crowdedFolder mishaps (.ofString "quiz.json")
      (recompile crowdedFolder mishaps).1 (recompile crowdedFolder mishaps).2 :=
    compileFile_atomic (.listed #[] 0) 1 (some (.ofString "quiz.md")) (.ofString "quiz.json")
      .default 0 crowdedFolder mishaps (Prod.eta (recompile crowdedFolder mishaps)).symm
  constructor
  · obtain ⟨document, log, next, hrun, -⟩ := recompile_returns
    exact ⟨document, log, next, hrun, ((hatomic .none).done document log next hrun).1⟩
  · have hends : endsIn (isUnwritten "quiz.json")
        (recompile crowdedFolder ⟨none, some (.busy, some 7), none, none⟩).1 = true := by
      decide +kernel
    obtain ⟨value, log, next, hrun, hvalue⟩ := exists_of_endsIn hends
    -- the only value that passes the test is the error of writing there
    obtain ⟨fault, rfl⟩ : ∃ fault, value = .error (.unwritable "quiz.json" fault) := by
      cases value with
      | ok document => cases hvalue
      | error error =>
          cases error with
          | unwritable path fault => exact ⟨fault, by rw [beq_iff_eq.mp hvalue]⟩
          | _ => cases hvalue
    refine ⟨fault, log, next, hrun, ?_⟩
    rw [(hatomic ⟨none, some (.busy, some 7), none, none⟩).failed _ log next hrun]
    rfl

/-! ## What a call leaves alone -/

/-- A call changes nothing but its destination and what is beside it. -/
theorem FileRun.sameBut {tree : Tree} {mishaps : Mishaps}
    {outcome : Option (Logged (Except CompileError Document) × Nat)}
    (hrun : FileRun output (.start tree mishaps) outcome stop) :
    tree.SameBut [output.sibling, output] stop.tree := by
  have hstart := changesOnly_start [output.sibling] tree mishaps
  cases hrun with
  | unnamed => exact .refl _ _
  | refused _ => exact .refl _ _
  | unwritten hput => exact (hput.failed hstart).1.tree.mono (by simp)
  | written hput => exact (hput.done hstart).2.2.1

/-- A call leaves all files as they are but its destination and, once the source is compiled,
the file under the name that the document has at first. -/
theorem compileFile_keeps (words : Words) (patience : Nat) (source : Option Path) (output : Path)
    (config : Config) (drawn : Nat) (tree : Tree) (mishaps : Mishaps)
    {outcome : Option (Logged (Except CompileError Document) × Nat)} {space : Workspace}
    (hrun : (compileFile words patience source output config drawn : StateM Workspace _).run
      (.start tree mishaps) = (outcome, space)) :
    (∀ place bytes, tree.node? place = some (.file bytes) → tree.place? output ≠ some place →
      tree.place? output.sibling ≠ some place → space.tree.node? place = some (.file bytes)) ∧
    (∀ path bytes, tree.read path = .ok bytes → tree.place? path ≠ tree.place? output →
      tree.place? path ≠ tree.place? output.sibling → space.tree.read path = .ok bytes) ∧
    ((∀ document log next, outcome ≠ some (⟨.ok document, log⟩, next)) →
      (∀ path fault log next, outcome ≠ some (⟨.error (.unwritable path fault), log⟩, next)) →
        space.tree = tree) := by
  have hfile := compileFile_run hrun
  have hsame := hfile.sameBut
  refine ⟨fun place bytes hnode houtput hsibling => ?_,
    fun path bytes hread houtput hsibling => ?_, fun hvain hwritable => ?_⟩
  · rw [hsame.node? place (by simp [houtput, hsibling]), hnode]
  · exact hsame.read hread (by simp [houtput.symm, hsibling.symm])
  · cases hfile with
    | unnamed => rfl
    | refused _ => rfl
    | unwritten _ => exact absurd rfl (hwritable _ _ _ _)
    | written _ => exact absurd rfl (hvain _ _ _)

/-- The source and whatever else lies in a folder stays there when the source is compiled. -/
theorem compileFile_keeps_crowdedFolder :
    crowdedFolder.read (.ofString "quiz.md") = .ok oneQuestionText.toUTF8 ∧
      (recompile crowdedFolder .none).2.tree.read (.ofString "quiz.md") =
        .ok oneQuestionText.toUTF8 := by
  have hread : crowdedFolder.read (.ofString "quiz.md") = .ok oneQuestionText.toUTF8 := rfl
  obtain ⟨-, hkeeps, -⟩ :=
    compileFile_keeps (.listed #[] 0) 1 (some (.ofString "quiz.md")) (.ofString "quiz.json")
      .default 0 crowdedFolder .none (Prod.eta (recompile crowdedFolder .none)).symm
  exact ⟨hread, hkeeps (.ofString "quiz.md") _ hread (by decide +kernel) (by decide +kernel)⟩

/-- A file that is not the destination is lost if it has the name under which the document is
written at first. -/
theorem recompile_removes_sibling :
    crowdedFolder.node? ["quiz.json.tmp"] = some (.file "mine".toUTF8) ∧
      crowdedFolder.place? (.ofString "quiz.json") ≠ some ["quiz.json.tmp"] ∧
      (∃ document log next,
        (recompile crowdedFolder .none).1 = some (⟨.ok document, log⟩, next)) ∧
      (recompile crowdedFolder .none).2.tree.node? ["quiz.json.tmp"] = none := by
  obtain ⟨document, log, next, hrun, -⟩ := recompile_returns
  exact ⟨rfl, by decide +kernel, ⟨document, log, next, hrun⟩, by decide +kernel⟩

end QuizCompiler.Quiz
