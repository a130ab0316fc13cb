import WorkflowDocs.Logging.Directive

/-!
# Log filters

A filter is a list of directives. An event is told if the most specific directive for its target
admits its level, or if it happens in a span for which a directive does.
-/

namespace WorkflowDocs.Logging

namespace Directive

/-- It has to do with spans. -/
def isForSpans (directive : Directive) : Bool :=
  directive.span.isSome || !directive.fields.isEmpty

/-- It can admit events wherever they happen. -/
def isForEvents (directive : Directive) : Bool :=
  directive.span.isNone && directive.fields.all (·.value.isNone)

def concerns (directive : Directive) (target : Target) : Bool :=
  (directive.target.getD []).isPrefixOf target

def hasFields (directive : Directive) (fields : List Text) : Bool :=
  directive.fields.all fun field => fields.contains field.name

def fieldNames (directive : Directive) : List Text := directive.fields.map (·.name)

/-- A longer target is more specific, and then more fields are, and then those whose names come
later in the order of texts. -/
def isAtLeastAsSpecificAs (directive other : Directive) : Bool :=
  let length (d : Directive) : Nat := (d.target.map fun target => target.length + 1).getD 0
  length other < length directive ||
    (length other = length directive &&
      (other.fields.length < directive.fields.length ||
        (other.fields.length = directive.fields.length &&
          !comesBefore directive.fieldNames other.fieldNames)))
where
  /-- The order of lists of texts of one length: the first difference decides. -/
  comesBefore : List Text → List Text → Bool
    | a :: as, b :: bs => a.precedes b || (a = b && comesBefore as bs)
    | _, _ => false

/-- It asks for the same as another directive; their limits may differ. -/
def asksForTheSameAs (directive other : Directive) : Bool :=
  directive = { other with limit := directive.limit }

/-- The values it asks for are those of a span. -/
def hasValues (directive : Directive) (fields : List Field) : Bool :=
  directive.fields.all fun pattern => fields.any pattern.accepts

end Directive

structure Filter where
  directives : List Directive
  deriving DecidableEq, Repr

namespace Filter

/-- Directives with commas between them. -/
def ofText? (text : Text) : Option Filter :=
  (((text.split ',').filter fun piece => !piece.isEmpty).mapM Directive.ofText?).map mk

/-- The last of the most specific directives. -/
def mostSpecific : List Directive → Option Directive
  | [] => none
  | directive :: rest =>
    match mostSpecific rest with
    | none => some directive
    | some other => some (if other.isAtLeastAsSpecificAs directive then other else directive)

/-- The limit for a target. Events are told apart by their fields too. -/
def limitFor (filter : Filter) (target : Target) (fields : Option (List Text)) : Limit :=
  (mostSpecific (filter.directives.filter fun directive =>
    directive.isForEvents && directive.concerns target &&
      (fields.map directive.hasFields).getD true)).bind (·.limit)

/-- The highest limit of all. A directive that asks for values needs every span. -/
def highest (filter : Filter) : Nat :=
  let asksForValues (directive : Directive) : Bool := directive.fields.any (·.value.isSome)
  filter.directives.foldl (fun most directive =>
    max most (if asksForValues directive then Limit.verbosity Directive.everything
      else directive.limit.verbosity)) 0

/-- The directives that no later one replaces by asking for the same. -/
def lasting : List Directive → List Directive
  | [] => []
  | directive :: rest =>
    if rest.any directive.asksForTheSameAs then lasting rest else directive :: lasting rest

/-- The directives for a span. -/
def forSpan (filter : Filter) (span : Span) : List Directive :=
  (lasting filter.directives).filter fun directive =>
    directive.isForSpans && directive.concerns span.target &&
      directive.span.all (· = span.name) && directive.hasFields (span.fields.map (·.1))

/-- The limit inside a span for which there are directives. -/
def limitInside (directives : List Directive) (span : Span) : Limit :=
  (directives.filter fun directive => directive.hasValues span.fields).foldl
    (fun most directive =>
      if most.verbosity ≤ directive.limit.verbosity then directive.limit else most) none

/-- A span is followed if something can be told about it. -/
def follows (filter : Filter) (span : Span) (outer : List Limit) : Bool :=
  Level.info.verbosity ≤ filter.highest &&
    (!(filter.forSpan span).isEmpty || (filter.limitFor span.target none).admits .info ||
      outer.any (·.admits .info))

/-- The spans that are followed, and the limits that they set. -/
def followed (filter : Filter) : List Span → List Limit → List Span × List Limit
  | [], limits => ([], limits)
  | span :: rest, limits =>
    if filter.follows span limits then
      let directives := filter.forSpan span
      let limits := if directives.isEmpty then limits else limitInside directives span :: limits
      let (spans, limits) := filter.followed rest limits
      (span :: spans, limits)
    else filter.followed rest limits

/-- The event as it is told, if it is told. -/
def shown? (filter : Filter) (event : Event) : Option Event :=
  let (spans, limits) := filter.followed event.spans []
  let fields := "message".toList :: event.fields.map (·.1)
  if (filter.limitFor event.target (some fields)).admits event.level ||
      limits.any (·.admits event.level) then
    some { event with spans }
  else none

end Filter

end WorkflowDocs.Logging
