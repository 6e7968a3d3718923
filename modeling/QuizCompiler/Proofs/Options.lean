import Mathlib.Tactic.SplitIfs
import QuizCompiler.CommandLine.Arguments

/-! # Options without a value

An option without a value is given once or not at all, and nothing that follows takes it back.
It may therefore stand before any line that does not give it, and the rest of the line asks
for what it asked for before.
-/

namespace QuizCompiler.CommandLine

/-! ## What is given -/

/-- What is given if options without a value were given as well. -/
def Given.mark (printing informing : Bool) (given : Given) : Given :=
  { given with
    toStandardOutput := given.toStandardOutput || printing
    verbose := given.verbose || informing }

/-- A request with options that have no value. -/
def Request.mark (printing informing : Bool) (request : Request) : Request :=
  { request with
    toStandardOutput := request.toStandardOutput || printing
    verbose := request.verbose || informing }

/-- Neither of some options was given. -/
structure Given.Lacks (given : Given) (printing informing : Bool) : Prop where
  toStandardOutput : printing = true → given.toStandardOutput = false
  verbose : informing = true → given.verbose = false

variable {printing informing : Bool}

/-- Filling a slot and giving the two options do not get in each other's way. -/
theorem Given.fill_mark (given : Given) (slot : Slot) (text : List Char) :
    (given.mark printing informing).fill slot text =
      (given.fill slot text).map (mark printing informing) := by
  cases slot <;> dsimp only [fill, mark] <;> split_ifs <;> simp [Function.comp_def, mark]

theorem Given.lacks_of_fill {given later : Given} {slot : Slot} {text : List Char}
    (hfill : given.fill slot text = some later) (hlacks : later.Lacks printing informing) :
    given.Lacks printing informing := by
  cases slot <;> dsimp only [fill] at hfill <;> split_ifs at hfill <;>
    obtain ⟨_, -, rfl⟩ := Option.map_eq_some_iff.mp hfill <;>
    exact ⟨hlacks.toStandardOutput, hlacks.verbose⟩

theorem Given.request_mark (given : Given) (sourceVariable : Option String) :
    (given.mark printing informing).request sourceVariable =
      (given.request sourceVariable).map (Request.mark printing informing) := by
  unfold request
  dsimp only [mark]
  cases given.source with
  | some source => rfl
  | none =>
      cases sourceVariable with
      | none => rfl
      | some named => cases hpath : path? named.toList <;> simp only [hpath] <;> rfl

/-- An option that is not in the request was not given on the line. -/
theorem Given.lacks_of_request {given : Given} {sourceVariable : Option String}
    {request : Request} (hrequest : given.request sourceVariable = some request)
    (hprinting : printing = true → request.toStandardOutput = false)
    (hinforming : informing = true → request.verbose = false) :
    given.Lacks printing informing := by
  unfold Given.request at hrequest
  dsimp only at hrequest
  split at hrequest
  next =>
    obtain rfl := Option.some.inj hrequest
    exact ⟨hprinting, hinforming⟩
  next =>
    obtain ⟨source, -, hsource⟩ := Option.bind_eq_some_iff.mp hrequest
    obtain rfl := Option.some.inj hsource
    exact ⟨hprinting, hinforming⟩
  next =>
    obtain rfl := Option.some.inj hrequest
    exact ⟨hprinting, hinforming⟩

/-! ## Steady reading -/

/-- A way of reading makes no request by itself, takes no option back, and reads the same after
options that it does not give. -/
structure Steady (read : Given → Option Step) : Prop where
  stop : ∀ {given : Given} {demand : Demand}, read given = some (.stop demand) →
    ∀ request, demand ≠ .compile request
  go : ∀ {given later : Given} {slot : Option Slot} {printing informing : Bool},
    read given = some (.go later slot) → later.Lacks printing informing →
      given.Lacks printing informing ∧
        read (given.mark printing informing) = some (.go (later.mark printing informing) slot)

theorem steady_fill (slot : Slot) (text : List Char) :
    Steady fun given => (given.fill slot text).bind fun later => some (.go later none) := by
  refine ⟨?_, ?_⟩
  · intro given demand hread
    obtain ⟨later, -, hstep⟩ := Option.bind_eq_some_iff.mp hread
    cases hstep
  · intro given later next printing informing hread hlacks
    obtain ⟨later, hfill, hstep⟩ := Option.bind_eq_some_iff.mp hread
    cases hstep
    refine ⟨Given.lacks_of_fill hfill hlacks, ?_⟩
    simp [Given.fill_mark, hfill]

/-- An option is not given twice, and whether others are given makes no difference to it. -/
theorem steady_apply (switch : Switch) : Steady switch.apply := by
  refine ⟨?_, ?_⟩
  · intro given demand hread request
    cases switch with
    | fill slot => cases hread
    | toStandardOutput =>
        simp only [Switch.apply] at hread
        split_ifs at hread
        cases hread
    | verbose =>
        simp only [Switch.apply] at hread
        split_ifs at hread
        cases hread
    | help =>
        cases hread
        nofun
    | version =>
        cases hread
        nofun
  · intro given later slot printing informing hread hlacks
    cases switch with
    | fill slot =>
        cases hread
        exact ⟨hlacks, rfl⟩
    | toStandardOutput =>
        simp only [Switch.apply] at hread
        split_ifs at hread with hgiven
        cases hread
        -- the option is given here, so it is none of those that may be given before
        obtain rfl : printing = false := by simpa using hlacks.toStandardOutput
        refine ⟨⟨nofun, hlacks.verbose⟩, ?_⟩
        simp [Switch.apply, Given.mark, hgiven]
    | verbose =>
        simp only [Switch.apply] at hread
        split_ifs at hread with hgiven
        cases hread
        obtain rfl : informing = false := by simpa using hlacks.verbose
        refine ⟨⟨hlacks.toStandardOutput, nofun⟩, ?_⟩
        simp [Switch.apply, Given.mark, hgiven]
    | help => cases hread
    | version => cases hread

theorem steady_none : Steady fun _ => none := ⟨nofun, nofun⟩

theorem steady_go (slot : Option Slot) : Steady fun given => some (.go given slot) := by
  refine ⟨nofun, ?_⟩
  intro given later next printing informing hread hlacks
  cases hread
  exact ⟨hlacks, rfl⟩

/-- Read on after a step, unless it stops. -/
def Step.andThen (next : Option Slot → Given → Option Step) : Step → Option Step
  | .stop demand => some (.stop demand)
  | .go given slot => next slot given

/-- Reading in two steps is steady if each of them is. -/
theorem Steady.bind {first : Given → Option Step} {next : Option Slot → Given → Option Step}
    (hfirst : Steady first) (hnext : ∀ slot, Steady (next slot)) :
    Steady fun given => (first given).bind (Step.andThen next) := by
  refine ⟨?_, ?_⟩
  · intro given demand hread
    obtain ⟨step, hstep, hread⟩ := Option.bind_eq_some_iff.mp hread
    cases step with
    | go later slot => exact (hnext slot).stop hread
    | stop demand =>
        cases hread
        exact hfirst.stop hstep
  · intro given later slot printing informing hread hlacks
    obtain ⟨step, hstep, hread⟩ := Option.bind_eq_some_iff.mp hread
    cases step with
    | go middle slot' =>
        obtain ⟨hmiddle, hmarked⟩ := (hnext slot').go hread hlacks
        obtain ⟨hgiven, hfirstMarked⟩ := hfirst.go hstep hmiddle
        exact ⟨hgiven, Option.bind_eq_some_iff.mpr ⟨_, hfirstMarked, hmarked⟩⟩
    | stop demand => cases hread

/-- An option with a long name reads the same whatever options were given before. -/
theorem steady_readName (text : List Char) : Steady fun given => readName given text := by
  unfold readName
  cases Switch.ofName? (text.takeWhile (· != '=')) with
  | none => exact steady_none
  | some switch =>
      cases text.dropWhile (· != '=') with
      | nil => exact steady_apply switch
      | cons c attached =>
          cases switch with
          | fill slot => exact steady_fill slot attached
          | _ => exact steady_none

/-- Read what follows a letter in the same argument. -/
def afterLetter (rest : List Char) (slot : Option Slot) (given : Given) : Option Step :=
  match slot with
  | none => readLetters given rest
  | some slot =>
    match rest with
    | [] => some (.go given (some slot))
    | '=' :: attached => (given.fill slot attached).bind fun later => some (.go later none)
    | attached => (given.fill slot attached).bind fun later => some (.go later none)

/-- Letters in one argument are read one by one, unless one of them takes the rest as its value. -/
theorem readLetters_cons (given : Given) (letter : Char) (rest : List Char) :
    readLetters given (letter :: rest) = (Switch.ofLetter? letter).bind fun switch =>
      (switch.apply given).bind (Step.andThen (afterLetter rest)) := by
  rw [readLetters]
  cases Switch.ofLetter? letter with
  | none => rfl
  | some switch =>
      cases hstep : switch.apply given with
      | none => simp [hstep]
      | some step =>
          cases step with
          | stop demand => simp [hstep, Step.andThen]
          | go later slot =>
              cases slot with
              | none => simp [hstep, Step.andThen, afterLetter]
              | some slot =>
                  simp only [hstep, Option.bind_eq_bind, Option.bind_some, Step.andThen,
                    afterLetter]
                  rfl

theorem steady_readLetters (letters : List Char) :
    Steady fun given => readLetters given letters := by
  induction letters with
  | nil => exact steady_go none
  | cons letter rest ih =>
      simp only [readLetters_cons]
      cases Switch.ofLetter? letter with
      | none => exact steady_none
      | some switch =>
          refine (steady_apply switch).bind fun slot => ?_
          cases slot with
          | none => exact ih
          | some slot =>
              unfold afterLetter
              dsimp only
              split
              next => exact steady_go (some slot)
              next attached => exact steady_fill slot attached
              next => exact steady_fill slot _

/-! ## Lines -/

/-- Read an argument that is neither a value for an option nor two dashes. -/
def readArgument (argument : List Char) (given : Given) : Option Step :=
  match argument with
  | '-' :: '-' :: name => readName given name
  | '-' :: c :: letters => readLetters given (c :: letters)
  | value => (given.fill .source value).bind fun later => some (.go later none)

theorem steady_readArgument (argument : List Char) : Steady (readArgument argument) := by
  unfold readArgument
  split
  next name => exact steady_readName name
  next c letters _ => exact steady_readLetters (c :: letters)
  next => exact steady_fill .source argument

/-- An argument is read by itself where no option before it waits for a value. -/
theorem readArguments_cons {sourceVariable : Option String} {given : Given} {argument : String}
    {rest : List String} (hdashes : argument.toList ≠ ['-', '-']) :
    readArguments sourceVariable none given (argument :: rest) =
      (readArgument argument.toList given).bind fun step =>
        match step with
        | .stop demand => some demand
        | .go later slot => readArguments sourceVariable slot later rest := by
  rw [readArguments]
  -- the reading splits on the characters, which have to be a variable for that
  generalize argument.toList = text at hdashes ⊢
  split
  next => exact absurd rfl hdashes
  next name _ => rfl
  next c letters _ _ =>
    have hread : readArgument ('-' :: c :: letters) given = readLetters given (c :: letters) := by
      simp [readArgument]
    rw [hread]
    rfl
  next =>
    have hread : readArgument text given =
        (given.fill .source text).map fun later => .go later none := by
      rw [readArgument, Option.map_eq_bind]
      · rfl
      · assumption
      · assumption
    rw [hread]
    rfl

/-- Behind two dashes, all arguments are values. -/
theorem readArguments_dashes {sourceVariable : Option String} {given : Given}
    {argument : String} {rest : List String} (hdashes : argument.toList = ['-', '-']) :
    readArguments sourceVariable none given (argument :: rest) =
      (readValues given rest).bind fun later =>
        (later.request sourceVariable).map Demand.compile := by
  rw [readArguments, hdashes]
  simp only [Option.map_eq_bind]
  rfl

/-- An option that waits for a value takes the next argument, unless that looks like an option
itself. -/
theorem readArguments_value {sourceVariable : Option String} {slot : Slot} {given : Given}
    {argument : String} {rest : List String} :
    readArguments sourceVariable (some slot) given (argument :: rest) =
      if isOption argument.toList then none
      else (given.fill slot argument.toList).bind fun later =>
        readArguments sourceVariable none later rest := by
  rw [readArguments]
  rfl

theorem readValues_mark {given later : Given} {values : List String}
    (hread : readValues given values = some later) (hlacks : later.Lacks printing informing) :
    given.Lacks printing informing ∧
      readValues (given.mark printing informing) values =
        some (later.mark printing informing) := by
  induction values generalizing given with
  | nil =>
      cases hread
      exact ⟨hlacks, rfl⟩
  | cons value rest ih =>
      obtain ⟨middle, hfill, hread⟩ := Option.bind_eq_some_iff.mp hread
      obtain ⟨hmiddle, hmarked⟩ := ih hread
      refine ⟨Given.lacks_of_fill hfill hmiddle, Option.bind_eq_some_iff.mpr ⟨_, ?_, hmarked⟩⟩
      rw [Given.fill_mark, hfill]
      rfl

/-- Options that a line does not give may be given before it. -/
theorem readArguments_mark {sourceVariable : Option String} {slot : Option Slot} {given : Given}
    {arguments : List String} {request : Request}
    (hread : readArguments sourceVariable slot given arguments = some (.compile request))
    (hprinting : printing = true → request.toStandardOutput = false)
    (hinforming : informing = true → request.verbose = false) :
    given.Lacks printing informing ∧
      readArguments sourceVariable slot (given.mark printing informing) arguments =
        some (.compile (request.mark printing informing)) := by
  -- every line ends in the request that was given, so the ends of all cases are alike
  have hrequest {later : Given}
      (hlater : (later.request sourceVariable).map Demand.compile = some (.compile request)) :
      later.Lacks printing informing ∧
        ((later.mark printing informing).request sourceVariable).map Demand.compile =
          some (.compile (request.mark printing informing)) := by
    obtain ⟨made, hmade, heq⟩ := Option.map_eq_some_iff.mp hlater
    obtain rfl := Demand.compile.inj heq
    refine ⟨Given.lacks_of_request hmade hprinting hinforming, ?_⟩
    rw [Given.request_mark, hmade]
    rfl
  -- the induction follows the reading, which may be waiting for the value of an option
  induction arguments generalizing slot given with
  | nil =>
      cases slot with
      | none => exact hrequest hread
      | some slot => cases hread
  | cons argument rest ih =>
      cases slot with
      | some slot =>
          rw [readArguments_value] at hread ⊢
          split_ifs at hread ⊢ with hoption
          obtain ⟨later, hfill, hread⟩ := Option.bind_eq_some_iff.mp hread
          obtain ⟨hlater, hmarked⟩ := ih hread
          refine ⟨Given.lacks_of_fill hfill hlater, ?_⟩
          rw [Given.fill_mark, hfill]
          exact hmarked
      | none =>
          by_cases hdashes : argument.toList = ['-', '-']
          · rw [readArguments_dashes hdashes] at hread ⊢
            obtain ⟨later, hvalues, hread⟩ := Option.bind_eq_some_iff.mp hread
            obtain ⟨hlater, hmarked⟩ := hrequest hread
            obtain ⟨hgiven, hvaluesMarked⟩ := readValues_mark hvalues hlater
            exact ⟨hgiven, Option.bind_eq_some_iff.mpr ⟨_, hvaluesMarked, hmarked⟩⟩
          · rw [readArguments_cons hdashes] at hread ⊢
            obtain ⟨step, hstep, hread⟩ := Option.bind_eq_some_iff.mp hread
            have hsteady := steady_readArgument argument.toList
            cases step with
            | stop demand =>
                cases hread
                exact absurd rfl (hsteady.stop hstep request)
            | go later slot =>
                obtain ⟨hlater, hmarked⟩ := ih hread
                obtain ⟨hgiven, hstepMarked⟩ := hsteady.go hstep hlater
                exact ⟨hgiven, Option.bind_eq_some_iff.mpr ⟨_, hstepMarked, hmarked⟩⟩

/-- A line that writes its document prints it if the option to do so is given before. -/
theorem demand?_cons_stdout {sourceVariable : Option String} {arguments : List String}
    {request : Request} (hdemand : demand? sourceVariable arguments = some (.compile request))
    (hfile : request.toStandardOutput = false) :
    demand? sourceVariable ("--stdout" :: arguments) =
      some (.compile { request with toStandardOutput := true }) := by
  have hmarked : readArguments sourceVariable none (Given.nothing.mark true false) arguments =
      some (.compile (request.mark true false)) :=
    (readArguments_mark hdemand (fun _ => hfile) (nofun : false = true → _)).2
  have hrequest : request.mark true false = { request with toStandardOutput := true } := by
    simp [Request.mark]
  rw [← hrequest, ← hmarked, demand?, readArguments_cons (by decide)]
  rfl

/-- A line that does not show all notices does so if the option for it is given before. -/
theorem demand?_cons_verbose {sourceVariable : Option String} {arguments : List String}
    {request : Request} (hdemand : demand? sourceVariable arguments = some (.compile request))
    (hquiet : request.verbose = false) :
    demand? sourceVariable ("--verbose" :: arguments) =
      some (.compile { request with verbose := true }) := by
  have hmarked : readArguments sourceVariable none (Given.nothing.mark false true) arguments =
      some (.compile (request.mark false true)) :=
    (readArguments_mark hdemand (nofun : false = true → _) fun _ => hquiet).2
  have hrequest : request.mark false true = { request with verbose := true } := by
    simp [Request.mark]
  rw [← hrequest, ← hmarked, demand?, readArguments_cons (by decide)]
  rfl

end QuizCompiler.CommandLine
