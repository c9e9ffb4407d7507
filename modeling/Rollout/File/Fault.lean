/-!
# Why a file cannot be used

The refusals of a file system, each with the number it is known by, and of a text that is no path. The
list is open: of permissions, and of devices that fail, the number and the text are told as they come.
-/

namespace Rollout

inductive FileFault where
  | notFound
  | alreadyExists
  | notDirectory
  | isDirectory
  | invalid
  | nameTooLong
  | notEmpty
  | tooManyLinks
  /-- A path with a NUL in it. -/
  | nulByte
  /-- A content that is no text. -/
  | notText
  /-- Any other refusal by the file system. -/
  | other (number : Nat) (text : String)
  deriving Repr, DecidableEq

namespace FileFault

/-- What a refusal is called. -/
def name : FileFault → String
  | .notFound => "No such file or directory"
  | .alreadyExists => "File exists"
  | .notDirectory => "Not a directory"
  | .isDirectory => "Is a directory"
  | .invalid => "Invalid argument"
  | .nameTooLong => "File name too long"
  | .notEmpty => "Directory not empty"
  | .tooManyLinks => "Too many levels of symbolic links"
  | .nulByte => "file name contained an unexpected NUL byte"
  | .notText => "stream did not contain valid UTF-8"
  | .other _ text => text

/-- The number of a refusal by the file system. -/
def code? : FileFault → Option Nat
  | .notFound => some 2
  | .alreadyExists => some 17
  | .notDirectory => some 20
  | .isDirectory => some 21
  | .invalid => some 22
  | .nameTooLong => some 36
  | .notEmpty => some 39
  | .tooManyLinks => some 40
  | .nulByte | .notText => none
  | .other number _ => some number

def message (f : FileFault) : String :=
  match f.code? with
  | some n => f.name ++ " (os error " ++ toString n ++ ")"
  | none => f.name

end FileFault

end Rollout
