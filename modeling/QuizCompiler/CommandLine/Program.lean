import QuizCompiler.CommandLine.Arguments
import QuizCompiler.CommandLine.LogFilter
import QuizCompiler.Quiz.Exchange
import QuizCompiler.Random.Seeded

/-! # The program

A run reads the configuration, reads the source, compiles it and exports the document. It
stops at the first of these that fails.
-/

namespace QuizCompiler.CommandLine

open Files Quiz QuizCompiler.Random

/-- An error as a run reports it: what failed, and why. -/
structure Failure where
  message : String
  causes : List String
deriving DecidableEq, Repr

/-- An error without further context. -/
def Failure.plain (error : CompileError) : Failure := ⟨error.message, error.causes⟩

def Failure.inContext (context : String) (error : CompileError) : Failure :=
  ⟨context, error.message :: error.causes⟩

/-- What a run comes to: its notices, and what it prints or why it fails. -/
abbrev Run := Logged (Except Failure String)

variable {m : Type → Type} [Monad m] [FileSystem m]

/-- The line that a successful run prints. -/
def successLine (document : Document) (output : Path) : String :=
  s!"✓ Wrote {document.questionCount} question(s) to {output.written}\n"

def exportDocument (request : Request) (document : Document) : m Run := do
  if request.toStandardOutput then return ⟨.ok (document.text ++ "\n"), []⟩
  else
    let written ← writeDocument document request.output
    match written.value with
    | .error error =>
      let context := s!"Failed to write quiz to {request.output.written}"
      return ⟨.error (.inContext context error), written.log⟩
    | .ok _ => return ⟨.ok (successLine document request.output), written.log⟩

/-- Do what a request asks for. Without a seed the words of `entropy` are drawn. A run
whose draws do not end has no result. -/
def fulfil (entropy : Words) (patience : Nat) (request : Request) : m (Option Run) := do
  match ← loadConfig request.config with
  | .error error => return some ⟨.error (.plain error), []⟩
  | .ok config =>
    let (words, seeded) : Words × List Notice := match request.seed with
      | some seed => (Words.seeded seed, [.seedUsed seed.toNat])
      | none => (entropy, [])
    let source ← readSource request.source
    let log := seeded ++ source.log
    match source.value with
    | .error error => return some ⟨.error (.plain error), log⟩
    | .ok markdown =>
      match compile words patience markdown config 0 with
      | none => return none
      | some (compiled, _) =>
        let log := log ++ compiled.log
        match compiled.value with
        | .error error =>
          let named := (request.source.map Path.written).getD ""
          let context := s!"Failed to compile quiz from {named}"
          return some ⟨.error (.inContext context (.invalid error)), log⟩
        | .ok document =>
          let exported ← exportDocument request document
          return some ⟨exported.value, log ++ exported.log⟩

/-! ## What is printed -/

/-- The environment of a run. -/
structure Environment where
  /-- The source, unless an argument names one. -/
  source : Option String
  /-- A filter for notices. -/
  filter : Option String
deriving DecidableEq, Repr

/-- What a run leaves, files apart. -/
structure Output where
  code : Nat
  standardOutput : String
  standardError : String
deriving DecidableEq, Repr

/-- Put a margin before every line of a text but the first. -/
def indentLines (margin : String) (text : String) : String :=
  String.ofList (text.toList.flatMap fun c => if c = '\n' then '\n' :: margin.toList else [c])

/-- The causes of a failure, numbered from `index` on. -/
def numberedCauses (index : Nat) : List String → String
  | [] => ""
  | cause :: rest =>
    let number := toString index
    let margin := String.ofList (List.replicate (5 - number.length) ' ')
    s!"\n{margin}{number}: " ++ indentLines "       " cause ++ numberedCauses (index + 1) rest

def Failure.text (failure : Failure) : String :=
  let causes := match failure.causes with
    | [] => ""
    | [cause] => "\n\nCaused by:\n    " ++ indentLines "    " cause
    | causes => "\n\nCaused by:" ++ numberedCauses 0 causes
  "Error: " ++ failure.message ++ causes ++ "\n"

/-- The filter of a run: what the environment says, or else what the request does. -/
def filterOf (environment : Environment) (request : Request) : LogFilter :=
  match environment.filter with
  | some text => .ofString text
  | none => .upTo (if request.verbose then .info else .warn)

def output (filter : LogFilter) (run : Run) : Output :=
  let complaints := filter.complaints.map fun text => s!"warning: {text}, ignoring it\n"
  let notices := (run.log.filter filter.shows).map noticeLine
  let log := String.join (complaints ++ notices)
  match run.value with
  | .ok text => ⟨0, text, log⟩
  | .error failure => ⟨1, "", log ++ failure.text⟩

/-- The name and the version of the program. -/
def versionText : String := "mdquiz 0.1.0\n"

/-- How the program is used. -/
def usage : String := "Usage: mdquiz [OPTIONS] [PATH]\n"

/-- How the program is used, at length. -/
def helpText (environment : Environment) : String :=
  let named := environment.source.getD ""
  "Compile a markdown quiz into a survey JSON document\n\n" ++ usage ++
    "\nArguments:\n" ++
    s!"  [PATH]  Markdown quiz source [env: {sourceVariable}={named}]\n" ++
    "\nOptions:\n" ++
    s!"  -o, --output <OUTPUT>  Output JSON file path [default: {defaultOutput}]\n" ++
    "  -c, --config <FILE>    Quiz configuration file (TOML)\n" ++
    "      --seed <SEED>      Seed for question order and element names (reproducible output)\n" ++
    "      --stdout           Print the JSON to stdout instead of writing the output file\n" ++
    "  -v, --verbose          Verbose output\n" ++
    "  -h, --help             Print help\n" ++
    "  -V, --version          Print version\n"

/-- What a misused command line is told. -/
def misuseText : String :=
  "error: invalid arguments\n\n" ++ usage ++ "\nFor more information, try '--help'.\n"

/-- Do what a command line asks for. -/
def perform (entropy : Words) (patience : Nat) (environment : Environment)
    (arguments : List String) : m (Option Output) := do
  match demand? environment.source arguments with
  | none => return some ⟨2, "", misuseText⟩
  | some .version => return some ⟨0, versionText, ""⟩
  | some .help => return some ⟨0, helpText environment, ""⟩
  | some (.compile request) =>
    let run ← fulfil entropy patience request
    return run.map (output (filterOf environment request))

end QuizCompiler.CommandLine
