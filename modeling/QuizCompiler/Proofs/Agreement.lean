import QuizCompiler.CommandLine.Program
import QuizCompiler.Proofs.Atomicity
import QuizCompiler.Proofs.Options

/-! # The program agrees with the library

A run goes through its stages in order and stops at the first that fails. It does to the files
what loading the configuration and compiling the file would do, or nothing at all if the
document is printed, and what is printed is what would have been written.
-/

namespace QuizCompiler.CommandLine

open Files Workspace Quiz QuizCompiler.Random

variable {space stop : Workspace} {patience : Nat} {request : Request} {seed : UInt64}

/-! ## The stages of a run -/

/-- Reading a configuration changes nothing. -/
theorem loadConfig_run_eq {path : Option Path} {result : Except CompileError Config}
    (hrun : (loadConfig path : StateM Workspace _).run space = (result, stop)) :
    stop = space := by
  cases path with
  | none => exact (pure_run_eq.mp hrun).2
  | some path =>
      obtain ⟨text, middle, hread, hrest⟩ := bind_run_eq.mp hrun
      obtain rfl := readText_run_eq hread
      split at hrest
      next => exact (pure_run_eq.mp hrest).2
      next => exact (pure_run_eq.mp hrest).2

/-- The configuration and the source of a request, as they are read from a workspace. -/
structure Loaded (request : Request) (space : Workspace) (config : Config)
    (source : Logged (Except CompileError String)) : Prop where
  config : (loadConfig request.config : StateM Workspace _).run space = (.ok config, space)
  source : (readSource request.source : StateM Workspace _).run space = (source, space)

/-- How a run fails if its source does not compile. -/
def refusal (request : Request) (error : QuestionError) : Failure :=
  let named := (request.source.map Path.written).getD ""
  .inContext s!"Failed to compile quiz from {named}" (.invalid error)

/-- The stages of a run with a seed, of which each follows only if those before it succeed. Until
a document is exported, files are only read. -/
inductive StagedRun (request : Request) (seed : UInt64) (patience : Nat) (space : Workspace) :
    Option Run → Workspace → Prop
  | unconfigured {error : CompileError} :
    (loadConfig request.config : StateM Workspace _).run space = (.error error, space) →
      StagedRun request seed patience space (some ⟨.error (.plain error), []⟩) space
  | unread {config : Config} {error : CompileError} {log : List Notice} :
    Loaded request space config ⟨.error error, log⟩ →
      StagedRun request seed patience space
        (some ⟨.error (.plain error), .seedUsed seed.toNat :: log⟩) space
  /-- Some draw does not end with the patience there is. -/
  | endless {config : Config} {markdown : String} {log : List Notice} :
    Loaded request space config ⟨.ok markdown, log⟩ →
      compile (.seeded seed) patience markdown config 0 = none →
        StagedRun request seed patience space none space
  | refused {config : Config} {markdown : String} {error : QuestionError} {drawn : Nat}
      {log more : List Notice} :
    Loaded request space config ⟨.ok markdown, log⟩ →
      compile (.seeded seed) patience markdown config 0 = some (⟨.error error, more⟩, drawn) →
        StagedRun request seed patience space
          (some ⟨.error (refusal request error), .seedUsed seed.toNat :: log ++ more⟩) space
  | exported {config : Config} {markdown : String} {document : Document} {drawn : Nat}
      {log more : List Notice} {run : Run} {stop : Workspace} :
    Loaded request space config ⟨.ok markdown, log⟩ →
      compile (.seeded seed) patience markdown config 0 = some (⟨.ok document, more⟩, drawn) →
        (exportDocument request document : StateM Workspace _).run space = (run, stop) →
          StagedRun request seed patience space
            (some ⟨run.value, .seedUsed seed.toNat :: log ++ more ++ run.log⟩) stop

/-- The stages of a run are all that it does. -/
theorem fulfil_run_eq (entropy : Words) {run : Option Run} (hseed : request.seed = some seed) :
    (fulfil entropy patience request : StateM Workspace _).run space = (run, stop) ↔
      StagedRun request seed patience space run stop := by
  constructor
  · intro hrun
    -- one bind is taken apart for each stage, and a stage that fails ends the run there
    obtain ⟨loaded, _, hload, hrest⟩ := bind_run_eq.mp hrun
    obtain rfl := loadConfig_run_eq hload
    cases loaded with
    | error error =>
        obtain ⟨rfl, rfl⟩ := pure_run_eq.mp hrest
        exact .unconfigured hload
    | ok config =>
        simp only [hseed] at hrest
        obtain ⟨⟨value, log⟩, _, hread, hrest⟩ := bind_run_eq.mp hrest
        obtain ⟨rfl, -⟩ := readSource_run_eq hread
        cases value with
        | error error =>
            obtain ⟨rfl, rfl⟩ := pure_run_eq.mp hrest
            exact .unread ⟨hload, hread⟩
        | ok markdown =>
            dsimp only at hrest
            split at hrest
            next hcompiled =>
              obtain ⟨rfl, rfl⟩ := pure_run_eq.mp hrest
              exact .endless ⟨hload, hread⟩ hcompiled
            next compiled drawn hcompiled =>
              obtain ⟨value, more⟩ := compiled
              cases value with
              | error error =>
                  obtain ⟨rfl, rfl⟩ := pure_run_eq.mp hrest
                  exact .refused ⟨hload, hread⟩ hcompiled
              | ok document =>
                  obtain ⟨exported, _, hexport, hrest⟩ := bind_run_eq.mp hrest
                  obtain ⟨rfl, rfl⟩ := pure_run_eq.mp hrest
                  exact .exported ⟨hload, hread⟩ hcompiled hexport
  · intro hstaged
    cases hstaged with
    | unconfigured hload => exact bind_run_eq.mpr ⟨_, _, hload, rfl⟩
    | unread hloaded =>
        refine bind_run_eq.mpr ⟨_, _, hloaded.config, ?_⟩
        simp only [hseed]
        exact bind_run_eq.mpr ⟨_, _, hloaded.source, rfl⟩
    | endless hloaded hcompiled =>
        refine bind_run_eq.mpr ⟨_, _, hloaded.config, ?_⟩
        simp only [hseed]
        refine bind_run_eq.mpr ⟨_, _, hloaded.source, ?_⟩
        simp only [hcompiled]
        rfl
    | refused hloaded hcompiled =>
        refine bind_run_eq.mpr ⟨_, _, hloaded.config, ?_⟩
        simp only [hseed]
        refine bind_run_eq.mpr ⟨_, _, hloaded.source, ?_⟩
        simp only [hcompiled]
        rfl
    | exported hloaded hcompiled hexport =>
        refine bind_run_eq.mpr ⟨_, _, hloaded.config, ?_⟩
        simp only [hseed]
        refine bind_run_eq.mpr ⟨_, _, hloaded.source, ?_⟩
        simp only [hcompiled]
        exact bind_run_eq.mpr ⟨_, _, hexport, rfl⟩

/-! ## Exports -/

section Exports

variable {document : Document} {run : Run}

/-- A document that is printed leaves the files alone. -/
theorem exportDocument_run_print (hprint : request.toStandardOutput = true) :
    (exportDocument request document : StateM Workspace _).run space =
      (⟨.ok (document.text ++ "\n"), []⟩, space) := by
  unfold exportDocument
  rw [if_pos hprint]
  rfl

/-- A document that is not printed is written. -/
theorem exportDocument_run_write (hfile : request.toStandardOutput = false)
    (hrun : (exportDocument request document : StateM Workspace _).run space = (run, stop)) :
    ∃ written, (writeDocument document request.output : StateM Workspace _).run space =
        (written, stop) ∧
      run.value = (written.value.mapError
        (.inContext s!"Failed to write quiz to {request.output.written}")).map
          fun _ => successLine document request.output := by
  unfold exportDocument at hrun
  rw [if_neg (by simp [hfile])] at hrun
  obtain ⟨⟨value, log⟩, middle, hwritten, hrest⟩ := bind_run_eq.mp hrun
  cases value with
  | error error =>
      obtain ⟨rfl, rfl⟩ := pure_run_eq.mp hrest
      exact ⟨_, hwritten, rfl⟩
  | ok done =>
      obtain ⟨rfl, rfl⟩ := pure_run_eq.mp hrest
      exact ⟨_, hwritten, rfl⟩

/-- A document that is written is in place, with a line break at its end. -/
theorem nodeAt?_of_writeDocument {output : Path} {tree : Tree} {mishaps : Mishaps}
    {log : List Notice}
    (hrun : (writeDocument document output : StateM Workspace _).run (.start tree mishaps) =
      (⟨.ok (), log⟩, stop)) :
    stop.tree.nodeAt? output = some (.file (document.text ++ "\n").toUTF8) := by
  obtain ⟨result, middle, hput, hrest⟩ := bind_run_eq.mp hrun
  obtain ⟨hresult, rfl⟩ := pure_run_eq.mp hrest
  cases result with
  | error error => cases hresult
  | ok done => exact ((putInPlace_run hput).done (changesOnly_start _ tree mishaps)).1

end Exports

/-! ## The library -/

/-- What a request is to the library: load the configuration, and then compile the file. -/
def loadAndCompile {m : Type → Type} [Monad m] [FileSystem m] (words : Words) (patience : Nat)
    (request : Request) : m (Option (Except CompileError Document)) := do
  match ← loadConfig request.config with
  | .error error => return some (.error error)
  | .ok config =>
    let compiled ← compileFile words patience request.source request.output config 0
    return compiled.map fun result => result.1.value

/-- A run that writes its document does what the library does. -/
theorem StagedRun.loadAndCompile_run {run : Option Run}
    (hstaged : StagedRun request seed patience space run stop)
    (hfile : request.toStandardOutput = false) :
    ∃ result, (loadAndCompile (.seeded seed) patience request : StateM Workspace _).run space =
        (result, stop) ∧
      run.map (fun run => run.value.isOk) = result.map Except.isOk := by
  -- once the configuration is loaded, all that is left is the call that compiles a file
  have hcompile {config : Config} {source : Logged (Except CompileError String)}
      (hloaded : Loaded request space config source)
      (outcome : Option (Logged (Except CompileError Document) × Nat))
      (houtcome : (compileFile (.seeded seed) patience request.source request.output config 0 :
        StateM Workspace _).run space = (outcome, stop)) :
      (loadAndCompile (.seeded seed) patience request : StateM Workspace _).run space =
        (outcome.map fun result => result.1.value, stop) :=
    bind_run_eq.mpr ⟨_, _, hloaded.config, bind_run_eq.mpr ⟨_, _, houtcome, rfl⟩⟩
  cases hstaged with
  | unconfigured hload => exact ⟨_, bind_run_eq.mpr ⟨_, _, hload, rfl⟩, rfl⟩
  | unread hloaded =>
      exact ⟨_, hcompile hloaded _ (bind_run_eq.mpr ⟨_, _, hloaded.source, rfl⟩), rfl⟩
  | endless hloaded hcompiled =>
      refine ⟨_, hcompile hloaded none ?_, rfl⟩
      refine bind_run_eq.mpr ⟨_, _, hloaded.source, ?_⟩
      simp only [hcompiled]
      rfl
  | @refused _ _ error drawn log more hloaded hcompiled =>
      refine ⟨_, hcompile hloaded (some (⟨.error (.invalid error), log ++ more⟩, drawn)) ?_, rfl⟩
      refine bind_run_eq.mpr ⟨_, _, hloaded.source, ?_⟩
      simp only [hcompiled]
      rfl
  | @exported _ _ document drawn log more _ _ hloaded hcompiled hexport =>
      -- the same writing; the program then answers with a text and the library with the document
      obtain ⟨written, hwritten, hvalue⟩ := exportDocument_run_write hfile hexport
      refine ⟨_, hcompile hloaded
        (some (⟨written.value.map fun _ => document, log ++ more ++ written.log⟩, drawn)) ?_, ?_⟩
      · refine bind_run_eq.mpr ⟨_, _, hloaded.source, ?_⟩
        simp only [hcompiled]
        exact bind_run_eq.mpr ⟨_, _, hwritten, rfl⟩
      · simp only [Option.map_some, hvalue]
        cases written.value <;> rfl

/-! ## Almost the same requests -/

/-- What a request comes to does not depend on what it says about notices. -/
theorem StagedRun.of_verbose {run : Option Run} {shown : Bool}
    (hstaged : StagedRun { request with verbose := shown } seed patience space run stop) :
    StagedRun request seed patience space run stop := by
  cases hstaged with
  | unconfigured hload => exact .unconfigured hload
  | unread hloaded => exact .unread ⟨hloaded.config, hloaded.source⟩
  | endless hloaded hcompiled => exact .endless ⟨hloaded.config, hloaded.source⟩ hcompiled
  | refused hloaded hcompiled => exact .refused ⟨hloaded.config, hloaded.source⟩ hcompiled
  | exported hloaded hcompiled hexport =>
      exact .exported ⟨hloaded.config, hloaded.source⟩ hcompiled hexport

/-- The stages of a request leave no choice: two runs from the same workspace end alike. -/
theorem StagedRun.unique {run other : Option Run} {stop' : Workspace}
    (hseed : request.seed = some seed) (hstaged : StagedRun request seed patience space run stop)
    (hother : StagedRun request seed patience space other stop') : run = other ∧ stop = stop' := by
  have hrun := (fulfil_run_eq (fun _ => 0) hseed).mpr hstaged
  rw [(fulfil_run_eq _ hseed).mpr hother] at hrun
  exact (Prod.mk.inj hrun).imp Eq.symm Eq.symm

/-- A run that prints its document changes nothing. -/
theorem StagedRun.eq_of_print {run : Option Run}
    (hstaged : StagedRun request seed patience space run stop)
    (hprint : request.toStandardOutput = true) : stop = space := by
  cases hstaged with
  | exported _ _ hexport =>
      rw [exportDocument_run_print hprint] at hexport
      exact (Prod.mk.inj hexport).2.symm
  | _ => rfl

/-- If a run succeeds in writing its document, the same run would have printed what is then
found in the file. -/
theorem StagedRun.print {written : Run} {tree : Tree} {mishaps : Mishaps}
    (hstaged : StagedRun { request with toStandardOutput := false } seed patience
      (.start tree mishaps) (some written) stop)
    (hsuccess : written.value.isOk = true) (hprint : request.toStandardOutput = true) :
    ∃ text log, StagedRun request seed patience (.start tree mishaps) (some ⟨.ok text, log⟩)
        (.start tree mishaps) ∧
      stop.tree.nodeAt? request.output = some (.file text.toUTF8) := by
  cases hstaged with
  | unconfigured _ => cases hsuccess
  | unread _ => cases hsuccess
  | refused _ _ => cases hsuccess
  | @exported _ _ document _ _ _ _ _ hloaded hcompiled hexport =>
      obtain ⟨⟨value, log⟩, hwritten, hvalue⟩ := exportDocument_run_write rfl hexport
      cases value with
      | error error =>
          simp only [hvalue] at hsuccess
          cases hsuccess
      | ok done =>
          have hloaded' : Loaded request (.start tree mishaps) _ _ :=
            ⟨hloaded.config, hloaded.source⟩
          exact ⟨document.text ++ "\n", _,
            .exported hloaded' hcompiled (exportDocument_run_print hprint),
            nodeAt?_of_writeDocument hwritten⟩

/-! ## Command lines -/

theorem code_output (filter : LogFilter) (run : Run) :
    (output filter run).code = if run.value.isOk then 0 else 1 := by
  unfold output
  cases run.value <;> rfl

theorem standardOutput_output (filter : LogFilter) (run : Run) :
    (output filter run).standardOutput = run.value.toOption.getD "" := by
  unfold output
  cases run.value <;> rfl

/-- A line with a seed goes through the stages of its request, and prints what comes of them. -/
theorem perform_run_eq {environment : Environment} {arguments : List String} {entropy : Words}
    {outcome : Option Output}
    (hdemand : demand? environment.source arguments = some (.compile request))
    (hseed : request.seed = some seed) :
    (perform entropy patience environment arguments : StateM Workspace _).run space =
        (outcome, stop) ↔
      ∃ run, StagedRun request seed patience space run stop ∧
        outcome = run.map (output (filterOf environment request)) := by
  simp only [perform, hdemand, bind_run_eq, pure_run_eq, fulfil_run_eq entropy hseed]
  constructor
  · rintro ⟨run, _, hstaged, rfl, rfl⟩
    exact ⟨run, hstaged, rfl⟩
  · rintro ⟨run, hstaged, rfl⟩
    exact ⟨run, stop, hstaged, rfl, rfl⟩

/-- How a run with a seed compares with the library and with runs for almost the same request. -/
structure Agrees (patience : Nat) (environment : Environment) (arguments : List String)
    (request : Request) (seed : UInt64) (tree : Tree) (mishaps : Mishaps)
    (outcome : Option Output) (space : Workspace) : Prop where
  /-- It goes through its stages and stops at the first that fails. -/
  staged : ∃ run, StagedRun request seed patience (.start tree mishaps) run space ∧
    outcome = run.map (output (filterOf environment request))
  /-- If it writes its document, it leaves the files as the library does, and it exits with zero
  just if the library succeeds. -/
  library : request.toStandardOutput = false → ∃ result,
    (loadAndCompile (.seeded seed) patience request : StateM Workspace _).run
        (.start tree mishaps) = (result, space) ∧
      outcome.map Output.code = result.map fun value => if value.isOk then 0 else 1
  /-- If it prints its document, nothing changes, not even for a while. -/
  unchanged : request.toStandardOutput = true → space = .start tree mishaps
  /-- What it prints is what a run that writes puts in the file. -/
  printed : request.toStandardOutput = true →
    ∀ (entropy : Words) (others : List String) (written : Output) (stop : Workspace),
      demand? environment.source others =
          some (.compile { request with toStandardOutput := false }) →
        (perform entropy patience environment others : StateM Workspace _).run
          (.start tree mishaps) = (some written, stop) →
        written.code = 0 → ∃ printed, outcome = some printed ∧ printed.code = 0 ∧
          stop.tree.nodeAt? request.output = some (.file printed.standardOutput.toUTF8)
  failing : ∀ failed, outcome = some failed → failed.code ≠ 0 →
    failed.code = 1 ∧ failed.standardOutput = ""
  /-- Whether notices are shown makes no difference to anything else. -/
  verbose : ∀ (entropy : Words) (others : List String) (shown : Bool) (other : Option Output)
      (stop : Workspace),
    demand? environment.source others = some (.compile { request with verbose := shown }) →
      (perform entropy patience environment others : StateM Workspace _).run
        (.start tree mishaps) = (other, stop) →
      stop = space ∧ other.map Output.code = outcome.map Output.code ∧
        other.map Output.standardOutput = outcome.map Output.standardOutput
  /-- Each option without a value can be added to a line, and then alone changes the request. -/
  options :
    (request.toStandardOutput = false → demand? environment.source ("--stdout" :: arguments) =
      some (.compile { request with toStandardOutput := true })) ∧
    (request.verbose = false → demand? environment.source ("--verbose" :: arguments) =
      some (.compile { request with verbose := true }))

/-- With a seed, a command line does what the library does. -/
theorem perform_agrees (entropy : Words) (patience : Nat) (environment : Environment)
    (arguments : List String) (request : Request) (seed : UInt64) (tree : Tree)
    (mishaps : Mishaps) (outcome : Option Output) (space : Workspace)
    (hdemand : demand? environment.source arguments = some (.compile request))
    (hseed : request.seed = some seed)
    (hrun : (perform entropy patience environment arguments : StateM Workspace _).run
      (.start tree mishaps) = (outcome, space)) :
    Agrees patience environment arguments request seed tree mishaps outcome space := by
  obtain ⟨run, hstaged, rfl⟩ := (perform_run_eq hdemand hseed).mp hrun
  exact {
    staged := ⟨run, hstaged, rfl⟩
    library := by
      intro hfile
      obtain ⟨result, hlibrary, hsuccess⟩ := hstaged.loadAndCompile_run hfile
      refine ⟨result, hlibrary, ?_⟩
      have hcodes := congrArg (Option.map fun success => if success then 0 else 1) hsuccess
      simpa [Function.comp_def, code_output] using hcodes
    unchanged := hstaged.eq_of_print
    printed := by
      intro hprint entropy others written stop hothers hwrites hcode
      obtain ⟨_ | writing, hwriting, hwritten⟩ := (perform_run_eq hothers hseed).mp hwrites
      · cases hwritten
      · obtain rfl := Option.some.inj hwritten
        have hsuccess : writing.value.isOk = true := by
          by_contra hfails
          simp [code_output, hfails] at hcode
        -- a printing run stands beside the successful writing, and the one at hand is that run
        obtain ⟨text, log, hprinting, hnode⟩ := hwriting.print hsuccess hprint
        obtain ⟨rfl, -⟩ := hstaged.unique hseed hprinting
        exact ⟨_, rfl, rfl, hnode⟩
    failing := by
      intro failed hfailed hcode
      obtain ⟨run, rfl, rfl⟩ := Option.map_eq_some_iff.mp hfailed
      rw [code_output] at hcode
      rw [code_output, standardOutput_output]
      cases hvalue : run.value with
      | ok text => simp [hvalue, Except.isOk, Except.toBool] at hcode
      | error failure => exact ⟨rfl, rfl⟩
    verbose := by
      intro entropy others shown other stop hothers hother
      obtain ⟨run', hstaged', rfl⟩ := (perform_run_eq hothers hseed).mp hother
      obtain ⟨rfl, rfl⟩ := hstaged.unique hseed hstaged'.of_verbose
      refine ⟨rfl, ?_, ?_⟩
      · simp [Function.comp_def, code_output]
      · simp [Function.comp_def, standardOutput_output]
    options := ⟨demand?_cons_stdout hdemand, demand?_cons_verbose hdemand⟩ }

/-- A line with a seed that writes a document. -/
def seededLine : List String := ["quiz.md", "-o", "quiz.json", "--seed", "7"]

/-- Run a line in a folder where nothing goes wrong. -/
def runIn (tree : Tree) (arguments : List String) : Option Output × Workspace :=
  (perform (.listed #[] 0) 1 ⟨none, none⟩ arguments : StateM Workspace _).run (.start tree .none)

/-- What is printed for a folder is what is otherwise written there. -/
theorem perform_agrees_crowdedFolder :
    ∃ printed written,
      runIn crowdedFolder ("--stdout" :: seededLine) =
          (some printed, .start crowdedFolder .none) ∧
        (runIn crowdedFolder seededLine).1 = some written ∧ written.code = 0 ∧
        (runIn crowdedFolder seededLine).2.tree.nodeAt? (.ofString "quiz.json") =
          some (.file printed.standardOutput.toUTF8) := by
  let request : Request := ⟨some (.ofString "quiz.md"), .ofString "quiz.json", none, some 7, true,
    false⟩
  have hdemand : demand? none ("--stdout" :: seededLine) = some (.compile request) := by
    decide +kernel
  have hothers : demand? none seededLine =
      some (.compile { request with toStandardOutput := false }) := by
    decide +kernel
  have hagrees := perform_agrees (.listed #[] 0) 1 ⟨none, none⟩ ("--stdout" :: seededLine) request
    7 crowdedFolder .none _ _ hdemand rfl (Prod.eta (runIn crowdedFolder _)).symm
  have hwrites : (runIn crowdedFolder seededLine).1.map Output.code = some 0 := by decide +kernel
  obtain ⟨written, hwritten, hcode⟩ := Option.map_eq_some_iff.mp hwrites
  have hrun : runIn crowdedFolder seededLine =
      (some written, (runIn crowdedFolder seededLine).2) := by
    rw [← hwritten]
  obtain ⟨printed, hprinted, -, hnode⟩ :=
    hagrees.printed rfl (.listed #[] 0) seededLine written _ hothers hrun hcode
  exact ⟨printed, written, Prod.ext hprinted (hagrees.unchanged rfl), hwritten, hcode, hnode⟩

end QuizCompiler.CommandLine
