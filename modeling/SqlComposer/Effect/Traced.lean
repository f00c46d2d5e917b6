import SqlComposer.Effect.Action
import SqlComposer.Log.Record

/-!
# Traced actions

A traced action runs in a span of its own, under the name of the span as the operation at hand.
A failure of the action is recorded in the span and goes on unchanged; the span always ends.

A span has fixed attributes and attributes that depend on the call. Working the latter out may
fail, which is only logged, unless it is a cancellation: that ends the action before it has begun.
-/

set_option autoImplicit false

namespace SqlComposer

/-- The logger of the tracing and retrying of actions. -/
def instrumentLogger : String := "querycraft.utils.decorators"

/-- How an action is traced. -/
structure Tracing where
  /-- The name of the tracer; its version is the library's. -/
  tracer : String
  name : String
  kind : SpanKind
  attributes : List (String × Value)
  /-- The attributes that depend on the call, or the failure to work them out. -/
  called : Except Failure (List (String × Value))

/-- The entry for a failure to work out attributes. -/
def getterEntry (f : Failure) : Log.Entry :=
  { level := .warning
    logger := instrumentLogger
    message := "trace attribute getter failed: " ++ f.text
    extra := []
    failure := none }

/-- Attributes without those that are null. -/
def presentAttributes (attributes : List (String × Value)) : List (String × Value) :=
  attributes.filter fun e => !e.2.isNull

namespace Tracing

/-- All attributes of the span, each once. -/
def allAttributes (t : Tracing) : List (String × Value) :=
  putAll [] (presentAttributes t.attributes
    ++ match t.called with
      | .ok attributes => presentAttributes attributes
      | .error _ => [])

/-- Sets attributes of a span. -/
def setAttributes (span : Nat) : List (String × Value) → Action Unit
  | [] => pure ()
  | e :: es => do
    Action.ask (.setAttribute span e.1 e.2)
    setAttributes span es

/-- The failure to work out attributes, logged if there was one that handlers deal with. -/
def noteGetter (t : Tracing) : Action Unit :=
  match t.called with
  | .ok _ => pure ()
  | .error f => if f.handled then Action.log (getterEntry f) else Action.fail f

/-- Records a failure in a span. A failure that handlers leave alone is not recorded. -/
def noteFailure (span : Nat) (f : Failure) : Action Unit :=
  if f.handled then Action.ask (.failSpan span f.name) else pure ()

/-- What a traced action does in its span. -/
def inSpan {α : Type} (t : Tracing) (span : Nat) (a : Action α) : Action α := do
  noteGetter t
  setAttributes span t.allAttributes
  match ← Action.outcome a with
  | .ok x => return x
  | .error f =>
    noteFailure span f
    Action.fail f

/-- Runs an action in a span of its own. -/
def run {α : Type} (t : Tracing) (a : Action α) : Action α := do
  let place ← Action.place
  let span ← Action.ask (.startSpan ⟨(t.tracer, Log.libraryVersion), t.name, t.kind, place.span⟩)
  Action.ending (Action.within ⟨some t.name, some span⟩ (t.inSpan span a))
    (Action.ask (.endSpan span))

end Tracing

/-- The tracing of one of the library's own operations. -/
def Tracing.ofOperation (tracer name : String) (attributes : List (String × Value)) : Tracing :=
  ⟨tracer, name, .internal, [], .ok attributes⟩

end SqlComposer
