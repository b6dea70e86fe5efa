/-!
# `GameBoy.File`: files that are read

Images and settings come from files. A file is its bytes, or a reason why they
could not be had. Nothing else of a file system is modelled: what is done with a
file starts from what reading it gave.
-/

set_option autoImplicit false

namespace GameBoy

/-- Why a file could not be read. -/
inductive FileError where
  | missing
  | isDirectory
  | notDirectory
  | noPermission
  /-- The file is not text in UTF-8. -/
  | notText
  /-- Any other reason, in the system's words. -/
  | other (reason : String)
deriving DecidableEq

/-- The reason in words. -/
def FileError.message : FileError → String
  | missing => "No such file or directory (os error 2)"
  | isDirectory => "Is a directory (os error 21)"
  | notDirectory => "Not a directory (os error 20)"
  | noPermission => "Permission denied (os error 13)"
  | notText => "stream did not contain valid UTF-8"
  | other reason => reason

/-- What reading a file gives. -/
abbrev FileContent := Except FileError (Array UInt8)

end GameBoy
