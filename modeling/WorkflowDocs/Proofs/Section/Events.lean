import WorkflowDocs.Proofs.Workflow.Sections
import WorkflowDocs.Section.Triggers

/-!
# Events and what they are configured with

The parts of a document are looked up below the names of events, while the bullets go through the
whole `on` section. What is found by name is met on the way.

Results:
1. `mem_eventsOf_of_under`: an event that can be looked up is one of those with a bullet.
2. `event_of_configured`: so is one below which a part of the document stands.
3. `events_ne_nil_of_secrets`: a document with secrets has events.
-/

namespace WorkflowDocs.Section

open Workflow
open Yaml (Value)

variable {value config root part : Value} {event key : Text}

theorem eventsOf_untagged : ∀ value : Value, eventsOf value.untagged = eventsOf value
  | .tagged tag value => by rw [Value.untagged, eventsOf_untagged value, eventsOf]
  | .null | .bool _ | .number _ | .text _ | .sequence _ | .mapping _ => rfl

theorem isNull_eq_true_iff : value.isNull = true ↔ value.untagged = .null := by
  unfold Value.isNull
  split
  next bare => simp [bare]
  next other => simpa using other

theorem mem_eventsOf_of_under (under : Under value (.text event) config)
    (filled : config.isNull = false) : ⟨event, some config⟩ ∈ eventsOf value := by
  obtain ⟨before, after, isMapping, _⟩ := under
  rw [← eventsOf_untagged, isMapping, eventsOf, mappedEvents, List.mem_map]
  refine ⟨(event, config), ?_, by simp [filled]⟩
  rw [Value.namedEntries, List.mem_filterMap]
  exact ⟨(.text event, config), by simp, rfl⟩

theorem isNull_of_under (under : Under config (.text key) part) : config.isNull = false := by
  obtain ⟨before, after, isMapping, _⟩ := under
  rw [Bool.eq_false_iff, ne_eq, isNull_eq_true_iff, isMapping]
  simp

/-- The configuration below which a part stands is that of an event. -/
theorem event_of_configured (configured : Configured root event key part) :
    ∃ config, ⟨event, some config⟩ ∈ events (triggerSection? root) ∧
      Under config (.text key) part := by
  obtain ⟨triggers, config, on, named, under⟩ := configured
  refine ⟨config, ?_, under⟩
  rw [triggerSection?_eq_some_iff.2 on]
  exact mem_eventsOf_of_under named (isNull_of_under under)

theorem events_ne_nil_of_secrets {source : Text}
    (declared : (Document.ofValue root source).secrets ≠ []) :
    events (Document.ofValue root source).triggers ≠ [] := by
  have taken : Taken Secret.ofValue (Configured root "workflow_call".toList "secrets".toList)
      (Document.ofValue root source).secrets := taken_event Secret.ofValue root _ _
  by_cases nowhere : ∀ part, ¬Configured root "workflow_call".toList "secrets".toList part
  · exact absurd (taken.absent nowhere) declared
  · obtain ⟨part, configured⟩ := not_forall_not.1 nowhere
    obtain ⟨config, present, _⟩ := event_of_configured configured
    exact List.ne_nil_of_mem present

end WorkflowDocs.Section
