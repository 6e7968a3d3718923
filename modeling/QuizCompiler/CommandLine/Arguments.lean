import QuizCompiler.Files.Path
import QuizCompiler.Text.Digit

/-! # Arguments

What a command line asks for. Every option may be given once, and a value follows its
option or is attached to it. After two dashes nothing is an option.
-/

namespace QuizCompiler.CommandLine

open Files Text

/-- The path that is written to unless another one is given. -/
def defaultOutput : String := "quiz.generated.json"

/-- A compilation that is asked for. -/
structure Request where
  source : Option Path
  output : Path
  config : Option Path
  seed : Option UInt64
  /-- Whether the document is printed instead of written. -/
  toStandardOutput : Bool
  /-- Whether notices that only inform are shown. -/
  verbose : Bool
deriving DecidableEq, Repr

/-- What a command line asks for. -/
inductive Demand
  | compile (request : Request)
  | help
  | version
deriving DecidableEq, Repr

/-- Something that takes a value. -/
inductive Slot
  | source
  | output
  | config
  | seed
deriving DecidableEq, Repr

/-- What an option does. -/
inductive Switch
  | fill (slot : Slot)
  | toStandardOutput
  | verbose
  | help
  | version
deriving DecidableEq, Repr

def Switch.ofName? (name : List Char) : Option Switch :=
  [("output", fill .output), ("config", fill .config), ("seed", fill .seed),
    ("stdout", toStandardOutput), ("verbose", verbose), ("help", help), ("version", version)].lookup
    (String.ofList name)

def Switch.ofLetter? (letter : Char) : Option Switch :=
  [('o', fill .output), ('c', fill .config), ('v', verbose), ('h', help), ('V', version)].lookup
    letter

/-! ## Values -/

/-- A number of 64 bits. It may have a plus sign. -/
def seed? (text : List Char) : Option UInt64 :=
  let digits := match text with
    | '+' :: rest => rest
    | _ => text
  let value := valueTo 10 digits
  let isNumber := !digits.isEmpty && digits.all Char.isDigit && value < UInt64.size
  if isNumber then some (UInt64.ofNat value) else none

/-- A path, which must not be empty. -/
def path? (text : List Char) : Option Path :=
  if text.isEmpty then none else some (Path.ofString (String.ofList text))

/-- What was given so far. -/
structure Given where
  source : Option Path
  output : Option Path
  config : Option Path
  seed : Option UInt64
  toStandardOutput : Bool
  verbose : Bool
deriving DecidableEq, Repr

namespace Given

/-- Before the first argument. -/
def nothing : Given := ⟨none, none, none, none, false, false⟩

/-- Put a value into a slot that has none. -/
def fill (given : Given) (slot : Slot) (text : List Char) : Option Given :=
  match slot with
  | .source =>
    if given.source.isSome then none
    else (path? text).map fun path => { given with source := some path }
  | .output =>
    if given.output.isSome then none
    else (path? text).map fun path => { given with output := some path }
  | .config =>
    if given.config.isSome then none
    else (path? text).map fun path => { given with config := some path }
  | .seed =>
    if given.seed.isSome then none
    else (seed? text).map fun seed => { given with seed := some seed }

/-- The request that all arguments make. The environment can name a source if they do not. -/
def request (given : Given) (sourceVariable : Option String) : Option Request := do
  let source ← match given.source, sourceVariable with
    | some source, _ => some (some source)
    | none, some named => (path? named.toList).map some
    | none, none => some none
  return {
    source
    output := given.output.getD (Path.ofString defaultOutput)
    config := given.config
    seed := given.seed
    toStandardOutput := given.toStandardOutput
    verbose := given.verbose }

end Given

/-! ## Reading -/

/-- What an argument leads to. -/
inductive Step
  /-- Go on; the next argument is the value of a slot if one is given. -/
  | go (given : Given) (slot : Option Slot)
  /-- Stop here. -/
  | stop (demand : Demand)
deriving DecidableEq, Repr

/-- Do what an option without a value says. -/
def Switch.apply (switch : Switch) (given : Given) : Option Step :=
  match switch with
  | fill slot => some (.go given (some slot))
  | toStandardOutput =>
    if given.toStandardOutput then none
    else some (.go { given with toStandardOutput := true } none)
  | verbose => if given.verbose then none else some (.go { given with verbose := true } none)
  | help => some (.stop .help)
  | version => some (.stop .version)

def readName (given : Given) (text : List Char) : Option Step := do
  let switch ← Switch.ofName? (text.takeWhile (· != '='))
  match text.dropWhile (· != '=') with
  | [] => switch.apply given
  | _ :: attached =>
    match switch with
    | .fill slot => return .go (← given.fill slot attached) none
    | _ => none

/-- Read options that are letters. The value of the last one may be attached. -/
def readLetters (given : Given) : List Char → Option Step
  | [] => some (.go given none)
  | letter :: rest => do
    match ← (← Switch.ofLetter? letter).apply given with
    | .stop demand => return .stop demand
    | .go given none => readLetters given rest
    | .go given (some slot) =>
      match rest with
      | [] => return .go given (some slot)
      | '=' :: attached => return .go (← given.fill slot attached) none
      | attached => return .go (← given.fill slot attached) none

/-- Whether an argument is not a value. -/
def isOption : List Char → Bool
  | '-' :: _ :: _ => true
  | _ => false

/-- Read the arguments behind two dashes. -/
def readValues (given : Given) : List String → Option Given
  | [] => some given
  | value :: rest => do readValues (← given.fill .source value.toList) rest

/-- Read arguments. The slot is the one that the next argument must fill. -/
def readArguments (sourceVariable : Option String) :
    (slot : Option Slot) → Given → List String → Option Demand
  | some _, _, [] => none
  | none, given, [] => (given.request sourceVariable).map .compile
  | some slot, given, argument :: rest => do
    if isOption argument.toList then none
    else readArguments sourceVariable none (← given.fill slot argument.toList) rest
  | none, given, argument :: rest => do
    let step ← match argument.toList with
      | ['-', '-'] =>
        return .compile (← (← readValues given rest).request sourceVariable)
      | '-' :: '-' :: name => readName given name
      | '-' :: c :: letters => readLetters given (c :: letters)
      | value => (given.fill .source value).map fun given => .go given none
    match step with
    | .stop demand => return demand
    | .go given slot => readArguments sourceVariable slot given rest

/-- What a command line asks for, unless it is misused. -/
def demand? (sourceVariable : Option String) (arguments : List String) : Option Demand :=
  readArguments sourceVariable none .nothing arguments

end QuizCompiler.CommandLine
