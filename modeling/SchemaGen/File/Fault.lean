/-!
# Faults of the file system

What the system answers when an operation on a path fails, with its texts.
-/

namespace SchemaGen.File

/-- A fault of the file system. -/
inductive Fault where
  | notFound
  | fileExists
  | notDirectory
  | isDirectory
  | nameTooLong
  | tooManyLinks
  /-- A path that holds a null character. -/
  | nulInName
  /-- A file that holds no text. -/
  | notText
  /-- Anything else that the system has against a change or a listing, such as missing
  rights. -/
  | refused (reason : String)
  deriving Repr, DecidableEq

/-- The text of a fault. -/
def Fault.message : Fault → String
  | .notFound => "No such file or directory (os error 2)"
  | .fileExists => "File exists (os error 17)"
  | .notDirectory => "Not a directory (os error 20)"
  | .isDirectory => "Is a directory (os error 21)"
  | .nameTooLong => "File name too long (os error 36)"
  | .tooManyLinks => "Too many levels of symbolic links (os error 40)"
  | .nulInName => "file name contained an unexpected NUL byte"
  | .notText => "stream did not contain valid UTF-8"
  | .refused reason => reason

end SchemaGen.File
