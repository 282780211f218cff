import MediaControl.Text.Utf8

/-!
# Files

What is in a file, or why it cannot be read.  Programs look files up by their paths.
-/

set_option autoImplicit false

namespace MediaControl

/-- Why a file cannot be read. -/
inductive FileFault where
  | missing
  /-- something on the way is no directory -/
  | notDirectory
  /-- the path leads to a directory -/
  | isDirectory
  | nameTooLong
  /-- the device has words of its own for it -/
  | other (reason : String)
  deriving DecidableEq, Repr, Inhabited

namespace FileFault

/-- The fault in words. -/
def message : FileFault → String
  | missing => "No such file or directory (os error 2)"
  | notDirectory => "Not a directory (os error 20)"
  | isDirectory => "Is a directory (os error 21)"
  | nameTooLong => "File name too long (os error 36)"
  | other reason => reason

/-- There is nothing at the end of the path. -/
def isAbsence : FileFault → Bool
  | missing | notDirectory | nameTooLong => true
  | isDirectory | other _ => false

end FileFault

/-- What is in files, by their paths. -/
abbrev Files := String → Except FileFault Bytes

end MediaControl
