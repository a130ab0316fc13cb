import WorkflowDocs.Proofs.Trail

/-!
# Silent scripts

A script is silent if it prints nothing and starts no log, whatever it is answered. What it asks for
may be restricted further.

Results:
1. `Within.bind` and the lemmas below it: scripts in a row are silent if each of them is.
2. `Within.steps`: every step of a run is one that is allowed.
-/

namespace WorkflowDocs.Script

variable {α β : Type} {allowed : Operation → Prop}

/-- The script asks for allowed operations only, prints nothing and starts no log. -/
inductive Within (allowed : Operation → Prop) : Script α → Prop
  | done (value : α) : Within allowed (.done value)
  | file {operation : Operation} {next : operation.Reply → Script α} : allowed operation →
      (∀ reply, Within allowed (next reply)) → Within allowed (.file operation next)
  | log (event : Logging.Event) {next : Script α} : Within allowed next →
      Within allowed (.log event next)

/-- Nothing but the kinds of steps is restricted. -/
abbrev Silent : Script α → Prop := Within fun _ => True

theorem within_pure (value : α) : Within allowed (pure value : Script α) := .done value

theorem within_perform {operation : Operation} (fits : allowed operation) :
    Within allowed (perform operation) := .file fits fun _ => .done _

theorem within_tell (event : Logging.Event) : Within allowed (tell event) := .log event (.done _)

theorem Within.bind {script : Script α} {f : α → Script β} (first : Within allowed script)
    (onward : ∀ value, Within allowed (f value)) : Within allowed (script >>= f) := by
  change Within allowed (Script.bind script f)
  induction first with
  | done value => exact onward value
  | file fits _ ih => exact .file fits ih
  | log event _ ih => exact .log event ih

theorem Within.mono {allowed' : Operation → Prop} {script : Script α}
    (within : Within allowed script) (weaker : ∀ operation, allowed operation → allowed' operation) :
    Within allowed' script := by
  induction within with
  | done value => exact .done value
  | file fits _ ih => exact .file (weaker _ fits) ih
  | log event _ ih => exact .log event ih

theorem Within.steps {script : Script α} {steps : List Step} {value : α}
    (within : Within allowed script) (runs : script.Runs steps value) :
    ∀ step ∈ steps, allowed step.operation := by
  induction within generalizing steps with
  | done =>
    cases runs
    simp
  | file fits _ ih =>
    cases runs with
    | file runs => exact List.forall_mem_cons.mpr ⟨fits, ih _ runs⟩
  | log _ _ ih =>
    cases runs with
    | log runs => exact ih runs

end WorkflowDocs.Script
