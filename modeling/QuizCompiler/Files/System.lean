import QuizCompiler.Files.Path

/-! # File systems

The operations on files that the program needs, and how they can fail. The program is
written over any file system, so what is proved about it for trees of files holds
where it runs.
-/

namespace QuizCompiler.Files

/-- Why an operation on a file fails. -/
inductive FileError
  | notFound
  | busy
  | notFolder
  | isFolder
  | nameTooLong
  /-- A path with a character that ends it. -/
  | badPath
  /-- The bytes of a file are no text. -/
  | notText
  | other (message : String)
deriving DecidableEq, Repr

def FileError.message : FileError → String
  | notFound => "No such file or directory (os error 2)"
  | busy => "Device or resource busy (os error 16)"
  | notFolder => "Not a directory (os error 20)"
  | isFolder => "Is a directory (os error 21)"
  | nameTooLong => "File name too long (os error 36)"
  | badPath => "file name contained an unexpected NUL byte"
  | notText => "stream did not contain valid UTF-8"
  | other message => message

/-- The operations on files. -/
class FileSystem (m : Type → Type) where
  /-- The bytes of a file. -/
  read : Path → m (Except FileError ByteArray)
  /-- Write a file, in the place of what it held before. -/
  write : Path → ByteArray → m (Except FileError Unit)
  /-- Move a file to another path, in the place of the file there. -/
  rename : Path → Path → m (Except FileError Unit)
  /-- Remove a file. -/
  remove : Path → m (Except FileError Unit)

end QuizCompiler.Files
