import WorkflowDocs.Entries
import WorkflowDocs.FileError
import WorkflowDocs.Text.Quoted

/-!
# Failures

What went wrong in a run, how bad it is, and what a person can do about it. The category decides
code and severity.
-/

namespace WorkflowDocs

inductive Category
  | parseError
  | fileNotFound
  | fileReadError
  | fileWriteError
  | markerNotFound
  | configError
  | internalError
  deriving DecidableEq, Repr

namespace Category

def name : Category → Text
  | parseError => "ParseError".toList
  | fileNotFound => "FileNotFound".toList
  | fileReadError => "FileReadError".toList
  | fileWriteError => "FileWriteError".toList
  | markerNotFound => "MarkerNotFound".toList
  | configError => "ConfigError".toList
  | internalError => "InternalError".toList

def code : Category → Text
  | parseError => "WFD-PARSE".toList
  | fileNotFound => "WFD-NOT-FOUND".toList
  | fileReadError => "WFD-READ".toList
  | fileWriteError => "WFD-WRITE".toList
  | markerNotFound => "WFD-MARKER".toList
  | configError => "WFD-CONFIG".toList
  | internalError => "WFD-INTERNAL".toList

/-- A README without markers does not invalidate the documentation. -/
def isWarning : Category → Bool
  | markerNotFound => true
  | _ => false

/-- A file could not be read, missing or not. -/
def isReadFailure : Category → Bool
  | fileNotFound | fileReadError => true
  | _ => false

end Category

structure Failure where
  category : Category
  message : Text
  /-- What the message is about, by name. -/
  context : Entries Text
  suggestions : List Text
  /-- The text of the cause. -/
  source : Option Text
  deriving DecidableEq, Repr

namespace Failure

def of (category : Category) (message : Text) : Failure := ⟨category, message, [], [], none⟩

def caused (category : Category) (message source : Text) : Failure :=
  ⟨category, message, [], [], some source⟩

def suggest (failure : Failure) (suggestion : Text) : Failure :=
  { failure with suggestions := failure.suggestions ++ [suggestion] }

/-- The last value given for a key counts. -/
def addContext (failure : Failure) (key value : Text) : Failure :=
  { failure with context := failure.context.put key value }

/-- A file at `path` could not be read. -/
def reading (path : Text) (error : FileError) : Failure :=
  (caused (if error.isMissing then .fileNotFound else .fileReadError)
    ("failed to read ".toList ++ path ++ ':' :: ' ' :: error.message) error.message).addContext
    "path".toList path

theorem category_reading (path : Text) (error : FileError) :
    (reading path error).category = .fileNotFound ∨
      (reading path error).category = .fileReadError := by
  cases missing : error.isMissing with
  | true => exact .inl (if_pos missing)
  | false => exact .inr (if_neg (by simp [missing]))

/-- A chain of causes, the outermost first, that no other category fits. -/
def internal (chain : List Text) : Failure :=
  let text := Text.join [':', ' '] chain
  caused .internalError text text

/-- Puts an entry among entries sorted by key. -/
def insertSorted (entry : Text × Text) : Entries Text → Entries Text
  | [] => [entry]
  | other :: rest =>
    if Text.precedes other.1 entry.1 then other :: insertSorted entry rest else entry :: other :: rest

/-- The context in ascending order of keys. -/
def sortedContext (failure : Failure) : Entries Text := failure.context.foldr insertSorted []

/-- Code, category and message, then the context if there is any. -/
def text (failure : Failure) : Text :=
  '[' :: (failure.category.code ++ ']' :: ' ' :: (failure.category.name ++ ':' :: ' ' ::
    (failure.message ++
      if failure.context.isEmpty then []
      else
        let pairs := failure.sortedContext.map fun (key, value) =>
          '(' :: (key.quoted ++ ',' :: ' ' :: (value.quoted ++ [')']))
        " (Context: [".toList ++ Text.join ", ".toList pairs ++ "])".toList)))

/-- The lines a person sees: label, code and message, then a line for each suggestion. -/
def report (failure : Failure) : Text :=
  (if failure.category.isWarning then "[WARNING] ".toList else "[ERROR] ".toList) ++
    failure.category.code ++ ':' :: ' ' :: (failure.message ++ '\n' ::
    failure.suggestions.flatMap fun suggestion => "  Hint: ".toList ++ suggestion ++ ['\n'])

example : ((of .internalError "x".toList).addContext "b".toList "1".toList |>.addContext "a".toList
    "2".toList).text =
    "[WFD-INTERNAL] InternalError: x (Context: [(\"a\", \"2\"), (\"b\", \"1\")])".toList := by
  decide +kernel

end Failure

end WorkflowDocs
