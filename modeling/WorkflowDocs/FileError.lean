import WorkflowDocs.Text

/-!
# Failed file operations

Why an operation on a file failed, with the words the operating system has for it.
-/

namespace WorkflowDocs

inductive FileError
  | missing
  | alreadyThere
  | notDirectory
  | isDirectory
  | notEmpty
  | nameTooLong
  | tooManyLinks
  | notUtf8
  | nulByte
  /-- A failure of another kind with its text, which may still mean that the file is missing. -/
  | other (isMissing : Bool) (text : Text)
  deriving DecidableEq, Repr

namespace FileError

def message : FileError → Text
  | missing => "No such file or directory (os error 2)".toList
  | alreadyThere => "File exists (os error 17)".toList
  | notDirectory => "Not a directory (os error 20)".toList
  | isDirectory => "Is a directory (os error 21)".toList
  | notEmpty => "Directory not empty (os error 39)".toList
  | nameTooLong => "File name too long (os error 36)".toList
  | tooManyLinks => "Too many levels of symbolic links (os error 40)".toList
  | notUtf8 => "stream did not contain valid UTF-8".toList
  | nulByte => "file name contained an unexpected NUL byte".toList
  | other _ text => text

/-- There is no such file, as opposed to one that cannot be used. -/
def isMissing : FileError → Bool
  | missing => true
  | other isMissing _ => isMissing
  | _ => false

end FileError

end WorkflowDocs
