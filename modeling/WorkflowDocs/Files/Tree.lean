import WorkflowDocs.FileError
import WorkflowDocs.Path

/-!
# File trees

Files, directories and symbolic links by their place below the root. A path is followed part by
part through links, so different paths can name the same file. Permissions are kept with each file
and directory and can be read and changed, but no operation asks for them: access is never denied.
-/

namespace WorkflowDocs

/-- The content of a file: a text, or bytes that are no text. -/
inductive Content
  | text (text : Text)
  | bytes (bytes : List UInt8)
  deriving DecidableEq, Repr

/-- The bytes of a character in UTF-8. -/
def encodedChar (c : Char) : List UInt8 :=
  let n := c.toNat
  let following (shift : Nat) : UInt8 := (0x80 + n / Nat.pow 2 shift % 64).toUInt8
  if n < 0x80 then [n.toUInt8]
  else if n < 0x800 then [(0xc0 + n / 64).toUInt8, following 0]
  else if n < 0x10000 then [(0xe0 + n / 4096).toUInt8, following 6, following 0]
  else [(0xf0 + n / 262144).toUInt8, following 12, following 6, following 0]

/-- A text behind what is there. Bytes that are no text cannot become one. -/
def Content.append (content : Content) (more : Text) : Content :=
  match content with
  | text before => text (before ++ more)
  | bytes before => bytes (before ++ more.flatMap encodedChar)

/-- The names from the root to a place. -/
abbrev Location := List Text

inductive Entry
  | file (content : Content) (mode : Nat)
  | directory (mode : Nat)
  | link (target : Text)
  deriving DecidableEq, Repr

structure FileTree where
  entries : List (Location × Entry)
  /-- Where relative paths begin. -/
  workingDirectory : Location
  deriving DecidableEq, Repr

namespace FileTree

/-- The entry at a place; the root is always a directory. -/
def entry? (tree : FileTree) (location : Location) : Option Entry :=
  if location.isEmpty then some (.directory 0o755)
  else (tree.entries.find? fun entry => entry.1 = location).map (·.2)

def erase (tree : FileTree) (location : Location) : FileTree :=
  { tree with entries := tree.entries.filter fun entry => entry.1 ≠ location }

def put (tree : FileTree) (location : Location) (entry : Entry) : FileTree :=
  { tree with entries := (tree.erase location).entries ++ [(location, entry)] }

def isDirectory (tree : FileTree) (location : Location) : Bool :=
  match tree.entry? location with
  | some (.directory _) => true
  | _ => false

/-- A name takes at most 255 bytes. -/
def longestName : Nat := 255

/-- A path takes at most 4095 bytes. -/
def longestPath : Nat := 4095

/-- At most 40 links are followed on the way. -/
def mostLinks : Nat := 40

/-- Walks from a directory along the pieces of a path. At a link, `onLink` goes on from the link's
directory with the link's target and the remaining pieces; the last link is followed only if
`follow` says so. The place reached may be without an entry. -/
def walk (tree : FileTree) (follow : Bool)
    (onLink : Location → Text → List Text → Except FileError Location) :
    Location → List Text → Except FileError Location
  | place, [] => .ok place
  | place, piece :: rest =>
    if !tree.isDirectory place then .error .notDirectory
    else if piece.isEmpty || piece = ['.'] then walk tree follow onLink place rest
    else if piece = ['.', '.'] then walk tree follow onLink place.dropLast rest
    else if Text.byteLength piece > longestName then .error .nameTooLong
    else
      let next := place ++ [piece]
      match tree.entry? next with
      | none => if rest.isEmpty then .ok next else .error .missing
      | some (.link target) =>
        if rest.isEmpty && !follow then .ok next else onLink place target rest
      | some _ => walk tree follow onLink next rest

/-- Walks along the pieces of a path and follows at most `links` links. -/
def walkLinks (tree : FileTree) (follow : Bool) :
    Nat → Location → List Text → Except FileError Location
  | 0 => tree.walk follow fun _ _ _ => .error .tooManyLinks
  | links + 1 => tree.walk follow fun place target rest =>
    let start := if Path.isAbsolute target then [] else place
    walkLinks tree follow links start (Path.pieces target ++ rest)

/-- The place that a path names. -/
def locate (tree : FileTree) (follow : Bool) (path : Text) : Except FileError Location :=
  if path.contains '\x00' then .error .nulByte
  else if path.isEmpty then .error .missing
  else if Text.byteLength path > longestPath then .error .nameTooLong
  else
    let start := if Path.isAbsolute path then [] else tree.workingDirectory
    tree.walkLinks follow mostLinks start (Path.pieces path)

/-- The entry that a path names, with its place. -/
def find (tree : FileTree) (path : Text) : Except FileError (Location × Entry) := do
  let location ← tree.locate true path
  match tree.entry? location with
  | some entry => return (location, entry)
  | none => throw .missing

/-! ## Operations -/

/-- Permissions of a new file and of a new directory. -/
def fileMode : Nat := 0o644

def directoryMode : Nat := 0o755

/-- The text of a file. -/
def read (tree : FileTree) (path : Text) : Except FileError Text := do
  match ← tree.find path with
  | (_, .file (.text text) _) => return text
  | (_, .file (.bytes _) _) => throw .notUtf8
  | (_, .directory _) => throw .isDirectory
  | (_, .link _) => throw .tooManyLinks

/-- Something is there, whatever it is. -/
def isThere (tree : FileTree) (path : Text) : Bool := (tree.find path).isOk

def isDirectoryAt (tree : FileTree) (path : Text) : Bool :=
  match tree.find path with
  | .ok (_, .directory _) => true
  | _ => false

/-- The path without the slashes at its end. -/
def withoutFinalSlashes (path : Text) : Text := (path.reverse.dropWhile (· = '/')).reverse

/-- The place of a file that is to be written, and its entry if there is one. Only a directory can
be meant by a slash at the end. -/
def openForWriting (tree : FileTree) (path : Text) :
    Except FileError (Location × Option (Content × Nat)) :=
  if path.getLast? = some '/' then
    match tree.locate false (withoutFinalSlashes path) with
    | .error error => .error (if withoutFinalSlashes path = [] then .isDirectory else error)
    | .ok _ => .error .isDirectory
  else
    match tree.locate true path with
    | .error error => .error error
    | .ok location =>
      match tree.entry? location with
      | none => .ok (location, none)
      | some (.file content mode) => .ok (location, some (content, mode))
      | some (.directory _) => .error .isDirectory
      | some (.link _) => .error .tooManyLinks

/-- Replaces the content of a file or makes a new one. -/
def write (tree : FileTree) (path text : Text) : Except FileError FileTree := do
  let (location, file) ← tree.openForWriting path
  let mode := (file.map (·.2)).getD fileMode
  return tree.put location (.file (.text text) mode)

/-- Makes an empty file unless there is a file. -/
def create (tree : FileTree) (path : Text) : Except FileError FileTree := do
  match ← tree.openForWriting path with
  | (location, none) => return tree.put location (.file (.text []) fileMode)
  | (_, some _) => return tree

/-- The text behind the content of the file at a place. -/
def appendAt (tree : FileTree) (location : Location) (text : Text) : FileTree :=
  match tree.entry? location with
  | some (.file content mode) => tree.put location (.file (content.append text) mode)
  | _ => tree

def mode (tree : FileTree) (path : Text) : Except FileError Nat := do
  match ← tree.find path with
  | (_, .file _ mode) => return mode
  | (_, .directory mode) => return mode
  | (_, .link _) => throw .tooManyLinks

def setMode (tree : FileTree) (path : Text) (mode : Nat) : Except FileError FileTree := do
  match ← tree.find path with
  | (location, .file content _) => return tree.put location (.file content mode)
  | (location, .directory _) => return tree.put location (.directory mode)
  | (_, .link _) => throw .tooManyLinks

/-- Moves a file or link to another place; what is there goes, unless it is a directory. -/
def rename (tree : FileTree) (source target : Text) : Except FileError FileTree := do
  let start ← tree.locate false source
  let stop ← tree.locate false target
  match tree.entry? start, tree.entry? stop with
  | none, _ => throw .missing
  | some (.directory _), _ => throw .isDirectory
  | some _, some (.directory _) => throw .isDirectory
  | some entry, _ => return if start = stop then tree else (tree.erase start).put stop entry

/-- Removes a file or link. -/
def remove (tree : FileTree) (path : Text) : Except FileError FileTree := do
  let location ← tree.locate false path
  match tree.entry? location with
  | none => throw .missing
  | some (.directory _) => throw .isDirectory
  | some _ => return tree.erase location

/-- Makes a directory in a directory that is there. -/
def makeDirectory (tree : FileTree) (path : Text) : Except FileError FileTree := do
  let trimmed := withoutFinalSlashes path
  let location ← tree.locate false (if trimmed.isEmpty then path else trimmed)
  match tree.entry? location with
  | some _ => throw .alreadyThere
  | none => return tree.put location (.directory directoryMode)

/-- Removes what a path names, with all that lies in it. -/
def removeAll (tree : FileTree) (path : Text) : FileTree :=
  match tree.locate false path with
  | .ok location =>
    { tree with entries := tree.entries.filter fun entry => !location.isPrefixOf entry.1 }
  | .error _ => tree

/-- The tree with an entry and the directories on the way to it. -/
def plant (tree : FileTree) (location : Location) (entry : Entry) : FileTree :=
  let ancestors := (List.range location.length).drop 1 |>.map fun n => location.take n
  let tree := ancestors.foldl (fun tree place =>
    if (tree.entry? place).isSome then tree else tree.put place (.directory directoryMode)) tree
  tree.put location entry

end FileTree

end WorkflowDocs
