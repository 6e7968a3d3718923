import QuizCompiler.Quiz.Compilation
import QuizCompiler.Quiz.Error
import QuizCompiler.Toml.Reader

/-! # Compiling files

The source and the configuration are read from files, and the document is written to
one. A document is first written beside its destination and then moved there, so that the
destination never holds a part of it.
-/

namespace QuizCompiler.Quiz

open Data Files QuizCompiler.Random

/-- The configuration that a text describes. An integer beyond 64 bits is no value of the
format, but is noticed only where something else is wrong. -/
def Config.ofToml (text : String) : Except ConfigError Config :=
  match Toml.read text with
  | none => .error .malformed
  | some root =>
    match Config.decode .toml root with
    | .ok config => .ok config
    | .error fault =>
      if Toml.fitsWord root.value then .error (.unfit text fault) else .error .malformed

variable {m : Type → Type} [Monad m] [FileSystem m]

def readText (path : Path) : m (Except FileError String) := do
  match ← FileSystem.read path with
  | .error error => return .error error
  | .ok bytes =>
    match String.fromUTF8? bytes with
    | some text => return .ok text
    | none => return .error .notText

/-- Read the source. -/
def readSource (path : Option Path) : m (Logged (Except CompileError String)) := do
  match path with
  | none => return ⟨.error .noSource, []⟩
  | some path =>
    let text ← readText path
    return ⟨text.mapError (.unreadable path.written), [.readingSource path.written]⟩

/-- Read a configuration, if one is named. -/
def loadConfig (path : Option Path) : m (Except CompileError Config) := do
  match path with
  | none => return .ok .default
  | some path =>
    match ← readText path with
    | .error error => return .error (.config path.written (.unreadable error))
    | .ok text => return (Config.ofToml text).mapError (.config path.written)

/-- The bytes that are written for a document. -/
def Document.bytes (document : Document) : ByteArray := (document.text ++ "\n").toUTF8

/-- Write bytes beside a path and then move them there. What was written is removed if one
of the two fails. -/
def putInPlace (path : Path) (bytes : ByteArray) : m (Except FileError Unit) := do
  match ← FileSystem.write path.sibling bytes with
  | .error error =>
    let _ ← FileSystem.remove path.sibling
    return .error error
  | .ok _ =>
    match ← FileSystem.rename path.sibling path with
    | .error error =>
      let _ ← FileSystem.remove path.sibling
      return .error error
    | .ok _ => return .ok ()

/-- Write a document. -/
def writeDocument (document : Document) (path : Path) : m (Logged (Except CompileError Unit)) := do
  let result ← putInPlace path document.bytes
  return ⟨result.mapError (.unwritable path.written), [.writingDocument path.written]⟩

/-- Read a source, compile it, and write the document. Nothing is written unless the source
compiles. -/
def compileFile (words : Words) (patience : Nat) (source : Option Path) (output : Path)
    (config : Config) (drawn : Nat) :
    m (Option (Logged (Except CompileError Document) × Nat)) := do
  let read ← readSource source
  match read.value with
  | .error error => return some (⟨.error error, read.log⟩, drawn)
  | .ok markdown =>
    match compile words patience markdown config drawn with
    | none => return none
    | some (compiled, drawn) =>
      match compiled.value with
      | .error error => return some (⟨.error (.invalid error), read.log ++ compiled.log⟩, drawn)
      | .ok document =>
        let written ← writeDocument document output
        let log := read.log ++ compiled.log ++ written.log
        return some (⟨written.value.map fun _ => document, log⟩, drawn)

end QuizCompiler.Quiz
