import QuizCompiler.CommandLine.Program

/-! # The command line

The program on the files and the environment of the system.
-/

namespace QuizCompiler.Main

open Files CommandLine QuizCompiler.Random

/-- The error that the system reports. -/
def fileError : IO.Error → FileError
  | .noFileOrDirectory _ _ _ => .notFound
  | .resourceBusy _ _ => .busy
  | .inappropriateType _ code _ => if code = 21 then .isFolder else .notFolder
  | .invalidArgument _ 36 _ => .nameTooLong
  | error => .other (toString error)

/-- The result of an action that may fail. -/
def attempt {α : Type} (action : IO α) : IO (Except FileError α) := do
  match ← action.toBaseIO with
  | .ok value => return .ok value
  | .error error => return .error (fileError error)

instance : FileSystem IO where
  read path := attempt (IO.FS.readBinFile path.written)
  write path bytes := attempt (IO.FS.writeBinFile path.written bytes)
  rename source destination := attempt (IO.FS.rename source.written destination.written)
  remove path := attempt (IO.FS.removeFile path.written)

/-- The number that eight bytes denote. -/
def wordOf (bytes : ByteArray) : UInt64 :=
  bytes.foldl (fun value byte => value * 256 + byte.toUInt64) 0

/-- How often a draw tries before it is given up, which no run lives to see. -/
def patience : Nat := UInt32.size

end QuizCompiler.Main

open QuizCompiler in
/-- Run the program. -/
def main (arguments : List String) : IO UInt32 := do
  let entropy := Random.Words.seeded (Main.wordOf (← IO.getRandomBytes 8))
  let environment : CommandLine.Environment :=
    ⟨← IO.getEnv Quiz.sourceVariable, ← IO.getEnv "RUST_LOG"⟩
  match ← CommandLine.perform entropy Main.patience environment arguments with
  | none => return 1
  | some output =>
    IO.eprint output.standardError
    IO.print output.standardOutput
    return UInt32.ofNat output.code
