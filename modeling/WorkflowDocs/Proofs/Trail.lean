import WorkflowDocs.Script

/-!
# Trails of file operations

A script asks for file operations and goes on with the answers. Here its run is a list of steps:
each says what was asked, what was answered and the tree after it. So runs can be told in which
operations fail, and runs of several scripts on one tree.

Results:
1. `runs_bind_iff`: the steps of two scripts in a row are the steps of the first and then those of
   the second.
2. `trail_append_iff`: a trail can be cut anywhere.
3. `runs_of_run`, `run_of_runs`: if every operation is performed, the steps of a script are those
   of `Script.run`.
4. `Attempt.setMode`, `Attempt.rename`, `Attempt.remove`, `Attempt.write`: an operation that may
   fail has been performed or has left the tree alone, but a write may leave anything in its file.
-/

namespace WorkflowDocs

/-- One operation of a run, its answer, and the tree after it. -/
structure Step where
  operation : Operation
  reply : operation.Reply
  tree : FileTree

/-! ## Steps of a script -/

namespace Script

variable {α β : Type}

/-- The script asks for the operations of the steps, in this order, and ends with the value. -/
inductive Runs : Script α → List Step → α → Prop
  | done {value : α} : Runs (.done value) [] value
  | file {operation : Operation} {next : operation.Reply → Script α} {reply : operation.Reply}
      {tree : FileTree} {steps : List Step} {value : α} :
      Runs (next reply) steps value →
      Runs (.file operation next) (⟨operation, reply, tree⟩ :: steps) value
  | log {event : Logging.Event} {next : Script α} {steps : List Step} {value : α} :
      Runs next steps value → Runs (.log event next) steps value
  | print {stream : Stream} {text : Text} {next : Script α} {steps : List Step} {value : α} :
      Runs next steps value → Runs (.print stream text next) steps value
  | startLog {logger : Logging.Logger} {next : Script α} {steps : List Step} {value : α} :
      Runs next steps value → Runs (.startLog logger next) steps value

variable {script : Script α} {f : α → Script β} {steps : List Step} {value : α} {result : β}

theorem Runs.bind {middle : α} {first second : List Step} (runs : script.Runs first middle)
    (onward : (f middle).Runs second result) : (script.bind f).Runs (first ++ second) result := by
  induction runs with
  | done => exact onward
  | file _ ih => exact .file (ih onward)
  | log _ ih => exact .log (ih onward)
  | print _ ih => exact .print (ih onward)
  | startLog _ ih => exact .startLog (ih onward)

theorem runs_bind_iff : (script >>= f).Runs steps result ↔
    ∃ first second middle, steps = first ++ second ∧ script.Runs first middle ∧
      (f middle).Runs second result := by
  constructor
  · change (script.bind f).Runs steps result → _
    induction script generalizing steps with
    | done value => exact fun onward => ⟨[], steps, value, rfl, .done, onward⟩
    | file operation next ih =>
      intro runs
      cases runs with
      | file runs =>
        obtain ⟨first, second, middle, rfl, before, after⟩ := ih _ runs
        exact ⟨_ :: first, second, middle, rfl, .file before, after⟩
    | log event next ih =>
      intro runs
      cases runs with
      | log runs =>
        obtain ⟨first, second, middle, rfl, before, after⟩ := ih runs
        exact ⟨first, second, middle, rfl, .log before, after⟩
    | print stream text next ih =>
      intro runs
      cases runs with
      | print runs =>
        obtain ⟨first, second, middle, rfl, before, after⟩ := ih runs
        exact ⟨first, second, middle, rfl, .print before, after⟩
    | startLog logger next ih =>
      intro runs
      cases runs with
      | startLog runs =>
        obtain ⟨first, second, middle, rfl, before, after⟩ := ih runs
        exact ⟨first, second, middle, rfl, .startLog before, after⟩
  · rintro ⟨first, second, middle, rfl, before, after⟩
    exact before.bind after

theorem runs_pure_iff {value' : α} :
    (pure value : Script α).Runs steps value' ↔ steps = [] ∧ value' = value := by
  constructor
  · intro runs
    cases runs
    exact ⟨rfl, rfl⟩
  · rintro ⟨rfl, rfl⟩
    exact .done

/-- An operation and what follows it. -/
theorem runs_perform_iff {operation : Operation} {next : operation.Reply → Script β} :
    (perform operation >>= next).Runs steps result ↔ ∃ reply tree rest,
      steps = ⟨operation, reply, tree⟩ :: rest ∧ (next reply).Runs rest result := by
  constructor
  · intro runs
    cases runs with
    | @file _ _ reply tree rest _ onward => exact ⟨reply, tree, rest, rfl, onward⟩
  · rintro ⟨reply, tree, rest, rfl, onward⟩
    exact .file onward

/-- What is logged makes no step. -/
theorem runs_tell_iff {event : Logging.Event} {next : Unit → Script β} :
    (tell event >>= next).Runs steps result ↔ (next ()).Runs steps result := by
  constructor
  · intro runs
    cases runs with
    | log onward => exact onward
  · exact fun onward => .log onward

end Script

/-! ## Trails -/

/-- `Trail possible tree steps last`: each step is possible on the tree that the one before it has
left, from `tree` to `last`. -/
inductive Trail (possible : FileTree → Step → Prop) : FileTree → List Step → FileTree → Prop
  | nil {tree : FileTree} : Trail possible tree [] tree
  | cons {tree last : FileTree} {step : Step} {steps : List Step} :
      possible tree step → Trail possible step.tree steps last →
      Trail possible tree (step :: steps) last

section

variable {possible possible' : FileTree → Step → Prop} {tree last : FileTree} {step : Step}
  {steps first second : List Step}

theorem trail_nil_iff : Trail possible tree [] last ↔ last = tree := by
  constructor
  · intro trail
    cases trail
    rfl
  · rintro rfl
    exact .nil

theorem trail_cons_iff : Trail possible tree (step :: steps) last ↔
    possible tree step ∧ Trail possible step.tree steps last := by
  constructor
  · intro trail
    cases trail with
    | cons here onward => exact ⟨here, onward⟩
  · exact fun ⟨here, onward⟩ => .cons here onward

theorem trail_append_iff : Trail possible tree (first ++ second) last ↔
    ∃ middle, Trail possible tree first middle ∧ Trail possible middle second last := by
  induction first generalizing tree with
  | nil => simp [trail_nil_iff]
  | cons step first ih => simp [trail_cons_iff, ih, and_assoc]

theorem Trail.possible_of_mem (trail : Trail possible tree steps last) (member : step ∈ steps) :
    ∃ before, possible before step := by
  induction trail with
  | nil => cases member
  | cons here _ ih =>
    rcases List.mem_cons.mp member with rfl | member
    · exact ⟨_, here⟩
    · exact ih member

theorem Trail.mono (trail : Trail possible tree steps last)
    (weaker : ∀ tree step, possible tree step → possible' tree step) :
    Trail possible' tree steps last := by
  induction trail with
  | nil => exact .nil
  | cons here _ ih => exact .cons (weaker _ _ here) ih

end

/-! ## Operations that are performed -/

/-- The operation as the tree answers it. -/
inductive Performed (tree : FileTree) : Step → Prop
  | done (operation : Operation) :
      Performed tree ⟨operation, (operation.perform tree).1, (operation.perform tree).2⟩

namespace Script

variable {α : Type} {script : Script α} {tree last : FileTree} {steps : List Step} {value : α}

theorem runs_of_run (script : Script α) (tree : FileTree) :
    ∃ steps, script.Runs steps (script.run tree).1 ∧
      Trail Performed tree steps (script.run tree).2 := by
  induction script generalizing tree with
  | done value => exact ⟨[], .done, .nil⟩
  | file operation next ih =>
    obtain ⟨steps, runs, trail⟩ := ih (operation.perform tree).1 (operation.perform tree).2
    exact ⟨_ :: steps, .file runs, .cons (.done operation) trail⟩
  | log event next ih =>
    obtain ⟨steps, runs, trail⟩ := ih tree
    exact ⟨steps, .log runs, trail⟩
  | print stream text next ih =>
    obtain ⟨steps, runs, trail⟩ := ih tree
    exact ⟨steps, .print runs, trail⟩
  | startLog logger next ih =>
    obtain ⟨steps, runs, trail⟩ := ih tree
    exact ⟨steps, .startLog runs, trail⟩

theorem run_of_runs (runs : script.Runs steps value) (trail : Trail Performed tree steps last) :
    script.run tree = (value, last) := by
  induction runs generalizing tree with
  | done =>
    cases trail
    rfl
  | file _ ih =>
    cases trail with
    | cons here onward =>
      cases here
      exact ih onward
  | log _ ih => exact ih trail
  | print _ ih => exact ih trail
  | startLog _ ih => exact ih trail

end Script

/-! ## Operations that may fail -/

/-- The answer of an operation that fails. -/
def Operation.refusal (error : FileError) : (operation : Operation) → operation.Reply
  | .read _ => .error error
  | .isThere _ | .isDirectory _ => false
  | .mode _ => .error error
  | .makeDirectory _ | .create _ | .write .. | .setMode .. | .rename .. | .remove _ => .error error

/-- An operation is performed, or fails and leaves the tree alone, or is a write that fails after
it has opened its file and leaves some content in it. -/
inductive Attempt (tree : FileTree) : Step → Prop
  | done {step : Step} : Performed tree step → Attempt tree step
  | failed (operation : Operation) (error : FileError) :
      Attempt tree ⟨operation, operation.refusal error, tree⟩
  | broken {path text : Text} {place : Location} {file : Option (Content × Nat)}
      (error : FileError) (left : Content) : tree.openForWriting path = .ok (place, file) →
      Attempt tree ⟨.write path text, .error error,
        tree.put place (.file left ((file.map (·.2)).getD FileTree.fileMode))⟩

theorem Trail.attempts {tree last : FileTree} {steps : List Step}
    (trail : Trail Performed tree steps last) : Trail Attempt tree steps last :=
  trail.mono fun _ _ => .done

namespace Attempt

variable {tree changed : FileTree} {path text staging : Text} {permissions : Nat}

theorem read {reply : Except FileError Text} (attempt : Attempt tree ⟨.read path, reply, changed⟩) :
    changed = tree ∧ ∀ text, reply = .ok text → tree.read path = .ok text := by
  cases attempt with
  | done performed =>
    cases performed
    exact ⟨rfl, fun _ found => found⟩
  | failed => exact ⟨rfl, by simp [Operation.refusal]⟩

theorem mode {reply : Except FileError Nat} (attempt : Attempt tree ⟨.mode path, reply, changed⟩) :
    changed = tree ∧ ∀ mode, reply = .ok mode → tree.mode path = .ok mode := by
  cases attempt with
  | done performed =>
    cases performed
    exact ⟨rfl, fun _ found => found⟩
  | failed => exact ⟨rfl, by simp [Operation.refusal]⟩

/-- What is committed is made, or the answer is an error and the tree stays. -/
theorem commit_cases (tree : FileTree) (result : Except FileError FileTree) :
    ((tree.commit result).1 = .ok () ∧ result = .ok (tree.commit result).2) ∨
      (∃ error, (tree.commit result).1 = .error error) ∧ (tree.commit result).2 = tree := by
  cases result with
  | ok changed => exact .inl ⟨rfl, rfl⟩
  | error error => exact .inr ⟨⟨error, rfl⟩, rfl⟩

variable {reply : Except FileError Unit}

theorem setMode (attempt : Attempt tree ⟨.setMode path permissions, reply, changed⟩) :
    (reply = .ok () ∧ tree.setMode path permissions = .ok changed) ∨
      (∃ error, reply = .error error) ∧ changed = tree := by
  cases attempt with
  | done performed =>
    cases performed
    exact commit_cases tree _
  | failed _ error => exact .inr ⟨⟨error, rfl⟩, rfl⟩

theorem rename (attempt : Attempt tree ⟨.rename staging path, reply, changed⟩) :
    (reply = .ok () ∧ tree.rename staging path = .ok changed) ∨
      (∃ error, reply = .error error) ∧ changed = tree := by
  cases attempt with
  | done performed =>
    cases performed
    exact commit_cases tree _
  | failed _ error => exact .inr ⟨⟨error, rfl⟩, rfl⟩

theorem remove (attempt : Attempt tree ⟨.remove path, reply, changed⟩) :
    (reply = .ok () ∧ tree.remove path = .ok changed) ∨
      (∃ error, reply = .error error) ∧ changed = tree := by
  cases attempt with
  | done performed =>
    cases performed
    exact commit_cases tree _
  | failed _ error => exact .inr ⟨⟨error, rfl⟩, rfl⟩

/-- A write replaces the content of its file, or leaves the tree alone, or leaves some content. -/
theorem write (attempt : Attempt tree ⟨.write path text, reply, changed⟩) :
    (reply = .ok () ∧ tree.write path text = .ok changed) ∨
    (∃ error, reply = .error error) ∧ (changed = tree ∨
      ∃ place file left mode, tree.openForWriting path = .ok (place, file) ∧
        changed = tree.put place (.file left mode)) := by
  cases attempt with
  | done performed =>
    cases performed
    exact (commit_cases tree _).imp_right (And.imp_right .inl)
  | failed _ error => exact .inr ⟨⟨error, rfl⟩, .inl rfl⟩
  | broken error left opened => exact .inr ⟨⟨error, rfl⟩, .inr ⟨_, _, left, _, opened, rfl⟩⟩

theorem write_of_ok (attempt : Attempt tree ⟨.write path text, .ok (), changed⟩) :
    tree.write path text = .ok changed := by
  obtain ⟨_, written⟩ | ⟨⟨_, impossible⟩, _⟩ := attempt.write
  · exact written
  · cases impossible

theorem setMode_of_ok (attempt : Attempt tree ⟨.setMode path permissions, .ok (), changed⟩) :
    tree.setMode path permissions = .ok changed := by
  obtain ⟨_, done⟩ | ⟨⟨_, impossible⟩, _⟩ := attempt.setMode
  · exact done
  · cases impossible

end Attempt

end WorkflowDocs
