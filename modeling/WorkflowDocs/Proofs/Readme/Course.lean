import WorkflowDocs.Proofs.Readme.Staging

/-!
# The course of an update

Which operations an update asks for, for every way in which they can be answered.

Results:
1. `installing_of_runs`, `replacing_of_runs`, `course_of_runs`: the steps of an update, case by
   case.
2. `Course.allowed`: each works on the README or its staging file.
3. `Installing.installed`: the staging file is written first and moved last, or there is an error.
4. `Course.still`: an update without a change does not move the staging file.
-/

namespace WorkflowDocs.Readme

variable {path staging content markdown : Text} {options : ReadmeOptions} {steps : List Step}

/-! ## Writing and moving -/

/-- The steps in which the staging file is written, given permissions and moved. -/
inductive Installing (path staging content : Text) :
    List Step → Except FileError Unit → Prop
  | unwritten {error : FileError} {tree : FileTree} :
      Installing path staging content [⟨.write staging content, .error error, tree⟩] (.error error)
  | unknown {error : FileError} {reply : Except FileError Unit} {tree tree' tree'' : FileTree} :
      Installing path staging content [⟨.write staging content, .ok (), tree⟩,
        ⟨.mode path, .error error, tree'⟩, ⟨.rename staging path, reply, tree''⟩] reply
  | refused {mode : Nat} {error : FileError} {tree tree' tree'' : FileTree} :
      Installing path staging content [⟨.write staging content, .ok (), tree⟩,
        ⟨.mode path, .ok mode, tree'⟩, ⟨.setMode staging mode, .error error, tree''⟩]
        (.error error)
  | permitted {mode : Nat} {reply : Except FileError Unit} {tree tree' tree'' last : FileTree} :
      Installing path staging content [⟨.write staging content, .ok (), tree⟩,
        ⟨.mode path, .ok mode, tree'⟩, ⟨.setMode staging mode, .ok (), tree''⟩,
        ⟨.rename staging path, reply, last⟩] reply

theorem runs_last_iff {operation : Operation} {reply : operation.Reply} :
    (Script.perform operation).Runs steps reply ↔ ∃ tree, steps = [⟨operation, reply, tree⟩] := by
  constructor
  · intro runs
    cases runs with
    | file runs =>
      cases runs
      exact ⟨_, rfl⟩
  · rintro ⟨tree, rfl⟩
    exact .file .done

theorem installing_of_runs {result : Except FileError Unit}
    (runs : (install path staging content).Runs steps result) :
    Installing path staging content steps result := by
  obtain ⟨written, tree, rest, rfl, onward⟩ := Script.runs_perform_iff.mp runs
  cases written with
  | error error =>
    obtain ⟨rfl, rfl⟩ := Script.runs_pure_iff.mp onward
    exact .unwritten
  | ok =>
    obtain ⟨found, tree', rest', rfl, onward'⟩ := Script.runs_perform_iff.mp onward
    cases found with
    | error error =>
      obtain ⟨tree'', rfl⟩ := runs_last_iff.mp onward'
      exact .unknown
    | ok mode =>
      obtain ⟨set, tree'', rest'', rfl, onward''⟩ := Script.runs_perform_iff.mp onward'
      cases set with
      | error error =>
        obtain ⟨rfl, rfl⟩ := Script.runs_pure_iff.mp onward''
        exact .refused
      | ok =>
        obtain ⟨last, rfl⟩ := runs_last_iff.mp onward''
        exact .permitted

theorem Installing.allowed {result : Except FileError Unit}
    (installing : Installing path staging content steps result) :
    ∀ step ∈ steps, Allowed path staging step.operation := by
  cases installing <;>
    simp only [List.forall_mem_cons, List.not_mem_nil, false_imp_iff, forall_true_iff, and_true]
  case unwritten => exact .write content
  case unknown => exact ⟨.write content, .mode, .rename⟩
  case refused => exact ⟨.write content, .mode, .setMode _⟩
  case permitted => exact ⟨.write content, .mode, .setMode _, .rename⟩

/-- A step that neither writes the staging file nor moves it. -/
def Quiet (path staging : Text) (step : Step) : Prop :=
  ¬ Installs path staging step ∧ ∀ text, step.operation ≠ .write staging text

/-- The staging file is written first and moved last; if it is not moved, there is an error. -/
theorem Installing.installed {result : Except FileError Unit}
    (installing : Installing path staging content steps result) :
    (result = .ok () ∧ ∃ tree between last,
      steps = ⟨.write staging content, .ok (), tree⟩ ::
        (between ++ [⟨.rename staging path, .ok (), last⟩]) ∧
      ∀ step ∈ between, Quiet path staging step) ∨
    (∃ error, result = .error error) ∧ ∀ step ∈ steps, ¬ Installs path staging step := by
  cases installing with
  | unwritten | refused => exact .inr ⟨⟨_, rfl⟩, by simp [Installs]⟩
  | unknown =>
    cases result with
    | ok => exact .inl ⟨rfl, _, [_], _, rfl, by simp [Quiet, Installs]⟩
    | error error => exact .inr ⟨⟨error, rfl⟩, by simp [Installs]⟩
  | permitted =>
    cases result with
    | ok => exact .inl ⟨rfl, _, [_, _], _, rfl, by simp [Quiet, Installs]⟩
    | error error => exact .inr ⟨⟨error, rfl⟩, by simp [Installs]⟩

/-! ## Replacing a file -/

/-- The steps in which a file is replaced: after a failure the staging file is removed. -/
inductive Replacing (path content : Text) : List Step → Except Failure Unit → Prop
  | nameless :
      sibling? path = none →
      Replacing path content []
        (.error (.of .fileWriteError (path ++ " does not name a file".toList)))
  | installed {staging : Text} {steps : List Step} :
      sibling? path = some staging → Installing path staging content steps (.ok ()) →
      Replacing path content steps (.ok ())
  | failed {staging : Text} {error : FileError} {removed : Except FileError Unit}
      {last : FileTree} {steps : List Step} :
      sibling? path = some staging → Installing path staging content steps (.error error) →
      Replacing path content (steps ++ [⟨.remove staging, removed, last⟩])
        (.error (writeFailure path error))

theorem replacing_of_runs {result : Except Failure Unit}
    (runs : (replaceFile path content).Runs steps result) :
    Replacing path content steps result := by
  unfold replaceFile at runs
  split at runs
  next nameless =>
    obtain ⟨rfl, rfl⟩ := Script.runs_pure_iff.mp runs
    exact .nameless (by simp [sibling?, nameless])
  next name named =>
    have sibling : sibling? path = some (stagingPath path name) := by simp [sibling?, named]
    obtain ⟨first, second, installed, rfl, installs, ends⟩ := Script.runs_bind_iff.mp runs
    have installing := installing_of_runs installs
    cases installed with
    | ok =>
      obtain ⟨rfl, rfl⟩ := Script.runs_pure_iff.mp ends
      rw [List.append_nil]
      exact .installed sibling installing
    | error error =>
      obtain ⟨removed, last, rest, rfl, ends'⟩ := Script.runs_perform_iff.mp ends
      obtain ⟨rfl, rfl⟩ := Script.runs_pure_iff.mp ends'
      exact .failed sibling installing

/-! ## The whole update -/

/-- The steps of an update and its result. -/
inductive Course (path markdown : Text) (options : ReadmeOptions) :
    List Step → Except Failure Update → Prop
  | unread {error : FileError} {tree : FileTree} :
      Course path markdown options [⟨.read path, .error error, tree⟩] (.error (.reading path error))
  | unmarked {content : Text} {error : MarkerError} {tree : FileTree} :
      splice content markdown options.startMarker options.endMarker = .error error →
      Course path markdown options [⟨.read path, .ok content, tree⟩]
        (.error (markerFailure path options error))
  | same {content : Text} {tree : FileTree} :
      splice content markdown options.startMarker options.endMarker = .ok content →
      Course path markdown options [⟨.read path, .ok content, tree⟩] (.ok ⟨path, false⟩)
  | nameless {content updated : Text} {failure : Failure} {tree : FileTree} :
      splice content markdown options.startMarker options.endMarker = .ok updated →
      updated ≠ content → sibling? path = none →
      Course path markdown options [⟨.read path, .ok content, tree⟩] (.error failure)
  | replaced {content updated staging : Text} {tree : FileTree} {steps : List Step} :
      splice content markdown options.startMarker options.endMarker = .ok updated →
      updated ≠ content → sibling? path = some staging →
      Installing path staging updated steps (.ok ()) →
      Course path markdown options (⟨.read path, .ok content, tree⟩ :: steps) (.ok ⟨path, true⟩)
  | failed {content updated staging : Text} {error : FileError} {removed : Except FileError Unit}
      {tree last : FileTree} {steps : List Step} :
      splice content markdown options.startMarker options.endMarker = .ok updated →
      updated ≠ content → sibling? path = some staging →
      Installing path staging updated steps (.error error) →
      Course path markdown options
        (⟨.read path, .ok content, tree⟩ :: (steps ++ [⟨.remove staging, removed, last⟩]))
        (.error (writeFailure path error))

theorem runs_tell_iff {α : Type} {level : Logging.Level} {message : String}
    {fields : List Logging.Field} {next : Unit → Script α} {value : α} :
    (tell path level message fields >>= next).Runs steps value ↔ (next ()).Runs steps value :=
  Script.runs_tell_iff

theorem course_of_runs {result : Except Failure Update}
    (runs : (update path markdown options).Runs steps result) :
    Course path markdown options steps result := by
  obtain ⟨found, tree, rest, rfl, onward⟩ := Script.runs_perform_iff.mp runs
  cases found with
  | error error =>
    obtain ⟨rfl, rfl⟩ := Script.runs_pure_iff.mp onward
    exact .unread
  | ok content =>
    simp only at onward
    split at onward
    next error spliced =>
      obtain ⟨rfl, rfl⟩ := Script.runs_pure_iff.mp onward
      exact .unmarked spliced
    next updated spliced =>
      split at onward
      next equal =>
        subst equal
        have told := runs_tell_iff.mp onward
        obtain ⟨rfl, rfl⟩ := Script.runs_pure_iff.mp told
        exact .same spliced
      next differ =>
        obtain ⟨first, second, outcome, rfl, replaces, ends⟩ := Script.runs_bind_iff.mp onward
        cases replacing_of_runs replaces with
        | nameless nameless =>
          obtain ⟨rfl, rfl⟩ := Script.runs_pure_iff.mp ends
          exact .nameless spliced differ nameless
        | installed sibling installing =>
          have told := runs_tell_iff.mp ends
          obtain ⟨rfl, rfl⟩ := Script.runs_pure_iff.mp told
          rw [List.append_nil]
          exact .replaced spliced differ sibling installing
        | failed sibling installing =>
          obtain ⟨rfl, rfl⟩ := Script.runs_pure_iff.mp ends
          rw [List.append_nil]
          exact .failed spliced differ sibling installing

theorem Course.allowed {result : Except Failure Update}
    (course : Course path markdown options steps result)
    (sibling : sibling? path = some staging) :
    ∀ step ∈ steps, Allowed path staging step.operation := by
  cases course with
  | unread | unmarked | same | nameless => simpa using Allowed.read
  | replaced _ _ sibling' installing =>
    cases sibling.symm.trans sibling'
    exact List.forall_mem_cons.mpr ⟨.read, installing.allowed⟩
  | failed _ _ sibling' installing =>
    cases sibling.symm.trans sibling'
    refine List.forall_mem_cons.mpr ⟨.read, List.forall_mem_append.mpr ⟨installing.allowed, ?_⟩⟩
    simpa using Allowed.remove

/-- Beside a path without a name there is no staging file, and no more is done than the reading. -/
theorem Course.reads {result : Except Failure Update}
    (course : Course path markdown options steps result) (nameless : sibling? path = none) :
    ∀ step ∈ steps, step.operation = .read path := by
  cases course with
  | unread | unmarked | same | nameless => simp
  | replaced _ _ sibling | failed _ _ sibling => simp [nameless] at sibling

/-- Without a change no step moves the staging file. -/
theorem Course.still {result : Except Failure Update}
    (course : Course path markdown options steps result) (sibling : sibling? path = some staging)
    (kept : ∀ update, result = .ok update → update.changed = false) :
    ∀ step ∈ steps, ¬ Installs path staging step := by
  cases course with
  | unread | unmarked | same | nameless => simp [Installs]
  | replaced => exact absurd (kept _ rfl) (by simp)
  | failed _ _ sibling' installing =>
    cases sibling.symm.trans sibling'
    rcases installing.installed with ⟨impossible, _⟩ | ⟨_, still⟩
    · cases impossible
    · refine List.forall_mem_cons.mpr ⟨not_installs (by simp), ?_⟩
      refine List.forall_mem_append.mpr ⟨still, ?_⟩
      simp [Installs]

end WorkflowDocs.Readme
