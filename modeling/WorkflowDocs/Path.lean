import WorkflowDocs.Text

/-!
# Paths

A path is a text whose parts are separated by slashes. Empty parts and `.` between other parts
mean nothing.
-/

namespace WorkflowDocs.Path

def isAbsolute (path : Text) : Bool := path.head? = some '/'

/-- The pieces between the slashes, empty ones too. -/
def pieces (path : Text) : List Text := path.split '/'

/-- `path` as seen from `base`. An absolute path stays as it is. -/
def join (base path : Text) : Text :=
  if isAbsolute path then path
  else if base.isEmpty || base.getLast? = some '/' then base ++ path
  else base ++ '/' :: path

/-- The pieces of a path up to its last part. A leading `.` of a relative path is a part. -/
def parts (path : Text) : List Text :=
  let meaningless (piece : Text) : Bool := piece.isEmpty || piece = ['.']
  let trimmed (found : List Text) : List Text := (found.reverse.dropWhile meaningless).reverse
  if isAbsolute path then trimmed (pieces (path.drop 1))
  else match pieces path with
    | ['.'] :: more => ['.'] :: trimmed more
    | found => trimmed found

/-- The path of the directory that a path lies in. The root and the empty path lie in none. -/
def parent? (path : Text) : Option Text :=
  match parts path with
  | [] => none
  | found =>
    let outer := parts ((if isAbsolute path then ['/'] else []) ++ Text.join ['/'] found.dropLast)
    some ((if isAbsolute path then ['/'] else []) ++ Text.join ['/'] outer)

/-- The last part, unless it is `.` or `..`. -/
def fileName? (path : Text) : Option Text :=
  match (parts path).getLast? with
  | some name => if name = ['.'] || name = ['.', '.'] then none else some name
  | none => none

/-- The path with another last part. -/
def withFileName (path name : Text) : Text :=
  match fileName? path with
  | some _ => join ((parent? path).getD []) name
  | none => join path name

example : parent? "a/./b/".toList = some "a".toList := by decide
example : parent? "b".toList = some [] := by decide
example : parent? "//b".toList = some "/".toList := by decide
example : parent? "./b".toList = some ".".toList := by decide
example : fileName? "a/..".toList = none := by decide
example : withFileName "d/README.md".toList "x".toList = "d/x".toList := by decide

end WorkflowDocs.Path
