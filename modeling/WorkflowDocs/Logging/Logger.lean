import WorkflowDocs.Logging.Console
import WorkflowDocs.Logging.Filter

/-!
# Loggers

What is told, and where it is written.
-/

namespace WorkflowDocs.Logging

structure Logger where
  filter : Filter
  console : Console
  /-- The file that lines are added to. -/
  file : Option Text
  deriving DecidableEq, Repr

/-- The line for an event, if it is told. -/
def Logger.line? (logger : Logger) (time : Text) (event : Event) : Option Text :=
  (logger.filter.shown? event).map fun event => event.line time

end WorkflowDocs.Logging
