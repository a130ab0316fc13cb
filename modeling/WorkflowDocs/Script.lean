import WorkflowDocs.Files.Tree
import WorkflowDocs.Logging.Logger

/-!
# Scripts

A program's work, as data: a script names its next step and goes on with the reply. It can be run on
a file tree, on the files of a machine, or with failures put in between.
-/

namespace WorkflowDocs

inductive Operation
  | read (path : Text)
  | isThere (path : Text)
  | isDirectory (path : Text)
  | makeDirectory (path : Text)
  /-- Makes an empty file unless there is a file. -/
  | create (path : Text)
  | write (path text : Text)
  | mode (path : Text)
  | setMode (path : Text) (permissions : Nat)
  | rename (source target : Text)
  | remove (path : Text)
  deriving DecidableEq, Repr

/-- What an operation answers. -/
@[reducible] def Operation.Reply : Operation → Type
  | .read _ => Except FileError Text
  | .isThere _ | .isDirectory _ => Bool
  | .mode _ => Except FileError Nat
  | .makeDirectory _ | .create _ | .write .. | .setMode .. | .rename .. | .remove _ =>
    Except FileError Unit

/-- A change of a tree that is made only if it succeeds. -/
def FileTree.commit (tree : FileTree) (result : Except FileError FileTree) :
    Except FileError Unit × FileTree :=
  match result with
  | .ok changed => (.ok (), changed)
  | .error error => (.error error, tree)

def Operation.perform (tree : FileTree) : (operation : Operation) → operation.Reply × FileTree
  | .read path => (tree.read path, tree)
  | .isThere path => (tree.isThere path, tree)
  | .isDirectory path => (tree.isDirectoryAt path, tree)
  | .makeDirectory path => tree.commit (tree.makeDirectory path)
  | .create path => tree.commit (tree.create path)
  | .write path text => tree.commit (tree.write path text)
  | .mode path => (tree.mode path, tree)
  | .setMode path permissions => tree.commit (tree.setMode path permissions)
  | .rename source target => tree.commit (tree.rename source target)
  | .remove path => tree.commit (tree.remove path)

/-- Where a program prints. -/
inductive Stream
  | output
  | errors
  deriving DecidableEq, Repr

inductive Script (α : Type) where
  | done (value : α)
  | file (operation : Operation) (next : operation.Reply → Script α)
  | log (event : Logging.Event) (next : Script α)
  | print (stream : Stream) (text : Text) (next : Script α)
  /-- From here on events go to a logger whose file has been made. -/
  | startLog (logger : Logging.Logger) (next : Script α)

namespace Script

variable {α β : Type}

def bind : Script α → (α → Script β) → Script β
  | done value, f => f value
  | file operation next, f => file operation fun reply => bind (next reply) f
  | log event next, f => log event (bind next f)
  | print stream text next, f => print stream text (bind next f)
  | startLog logger next, f => startLog logger (bind next f)

instance : Monad Script where
  pure := done
  bind := bind

/-- One operation. -/
def perform (operation : Operation) : Script operation.Reply := file operation done

/-- One event. -/
def tell (event : Logging.Event) : Script Unit := log event (done ())

/-- One text to be printed. -/
def put (stream : Stream) (text : Text) : Script Unit := print stream text (done ())

/-- Runs a script on a file tree; nothing is logged or printed. -/
def run : Script α → FileTree → α × FileTree
  | done value, tree => (value, tree)
  | file operation next, tree =>
    let (reply, tree) := operation.perform tree
    run (next reply) tree
  | log _ next, tree | print _ _ next, tree | startLog _ next, tree => run next tree

@[simp] theorem bind_done (value : α) (f : α → Script β) : bind (done value) f = f value := rfl

theorem bind_assoc {γ : Type} (script : Script α) (f : α → Script β) (g : β → Script γ) :
    bind (bind script f) g = bind script fun value => bind (f value) g := by
  induction script with
  | done => rfl
  | file operation next ih => simp only [bind, ih]
  | log event next ih => simp only [bind, ih]
  | print stream text next ih => simp only [bind, ih]
  | startLog logger next ih => simp only [bind, ih]

theorem run_bind (script : Script α) (f : α → Script β) (tree : FileTree) :
    run (bind script f) tree = run (f (run script tree).1) (run script tree).2 := by
  induction script generalizing tree with
  | done => rfl
  | file operation next ih => simp only [bind, run, ih]
  | log event next ih => simp only [bind, run, ih]
  | print stream text next ih => simp only [bind, run, ih]
  | startLog logger next ih => simp only [bind, run, ih]

end Script

end WorkflowDocs
