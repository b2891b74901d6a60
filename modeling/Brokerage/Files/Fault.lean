/-!
# Faults of files

Why a file or a directory could not be read or written.
-/

namespace Brokerage.Files

/-- Why a file or a directory could not be read or written. -/
inductive Fault where
  /-- There is nothing at the path. -/
  | missing
  /-- Something on the way is no directory. -/
  | notDirectory
  /-- There is a directory where a file is needed. -/
  | isDirectory
  /-- There is something already where a directory is to be made. -/
  | occupied
  /-- A dot or two stand where a file is to be put. -/
  | busy
  /-- A name or the whole path has more bytes than there may be. -/
  | tooLong
  /-- A name holds a null character. -/
  | nullCharacter
  /-- The file does not hold a text. -/
  | notText
  deriving DecidableEq, Repr

/-- The wording of a fault. -/
def Fault.message : Fault → String
  | .missing => "No such file or directory (os error 2)"
  | .notDirectory => "Not a directory (os error 20)"
  | .isDirectory => "Is a directory (os error 21)"
  | .occupied => "File exists (os error 17)"
  | .busy => "Device or resource busy (os error 16)"
  | .tooLong => "File name too long (os error 36)"
  | .nullCharacter => "file name contained an unexpected NUL byte"
  | .notText => "stream did not contain valid UTF-8"

end Brokerage.Files
