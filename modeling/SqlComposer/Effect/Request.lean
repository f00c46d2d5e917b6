import SqlComposer.Effect.Program
import SqlComposer.Failure.QueryError
import SqlComposer.Settings.Basic
import SqlComposer.Sql.Binding

/-!
# What the library asks for

The library reaches everything outside itself by requests: the database behind a pool of
connections, the state of transaction handles, the clock, the log, the query log, spans, and code
that is not its own. Requests that can fail are answered with the fault.
-/

set_option autoImplicit false

namespace SqlComposer

/-- A connection that has been checked out. -/
structure Connection where
  number : Nat
  deriving DecidableEq, Repr

/-- A transaction that has been begun on a connection. -/
structure OpenTransaction where
  number : Nat
  deriving DecidableEq, Repr

/-- What the database says to a statement. -/
structure Reply where
  /-- The rows, if the statement is one that has rows. -/
  rows : Option (List (List (String × Value)))
  insertId : Option Int
  affected : Int

/-- A handle on a transaction. -/
structure Handle where
  number : Nat
  deriving DecidableEq, Repr

/-- What a handle holds. -/
structure HandleState where
  connection : Option Connection
  begun : Option OpenTransaction
  /-- When the transaction was begun. -/
  startedAt : Option Float

/-- A handle before its transaction is begun and after it has ended. -/
def HandleState.idle : HandleState := ⟨none, none, none⟩

/-- Whether the handle has a transaction under way. -/
def HandleState.isActive (s : HandleState) : Bool := s.connection.isSome && s.begun.isSome

/-- The kinds of spans. -/
inductive SpanKind where
  | internal
  | server
  | client
  | producer
  | consumer
  deriving DecidableEq, Repr

/-- The name of a kind of spans. -/
def SpanKind.name : SpanKind → String
  | .internal => "INTERNAL"
  | .server => "SERVER"
  | .client => "CLIENT"
  | .producer => "PRODUCER"
  | .consumer => "CONSUMER"

/-- The kind of spans with a name. -/
def SpanKind.ofName? (name : String) : Option SpanKind :=
  [internal, server, client, producer, consumer].find? (·.name == name)

/-- What a span is started with. -/
structure SpanStart where
  /-- Who traces: a name and a version. -/
  tracer : String × String
  name : String
  kind : SpanKind
  /-- The number of the enclosing span. -/
  parent : Option Nat

/-- The requests of the library. -/
inductive Request where
  /-- Check out a connection. -/
  | connect
  | begin (c : Connection)
  | execute (c : Connection) (s : Sql.BoundStatement)
  | commit (t : OpenTransaction)
  | rollback (t : OpenTransaction)
  /-- Give a connection back. -/
  | close (c : Connection)
  /-- Close all connections of the pool. -/
  | dispose
  /-- Whether there is a pool. -/
  | poolExists
  | setPool (there : Bool)
  | newHandle
  | handleState (h : Handle)
  | setHandleState (h : Handle) (s : HandleState)
  /-- Seconds since the start of 1970. -/
  | now
  | sleep (seconds : Float)
  | log (e : Log.Entry)
  /-- Tell the query log of a statement that was completed. -/
  | reportQuery (sql : String) (values : Value) (milliseconds : Float)
  /-- Tell the query log of a statement that failed. -/
  | reportError (sql : String) (failure : Failure) (values : Value)
  | settings
  | startSpan (s : SpanStart)
  | setAttribute (span : Nat) (name : String) (value : Value)
  /-- The failure that ends a span. -/
  | failSpan (span : Nat) (kind : String)
  | endSpan (span : Nat)
  /-- Code that is not the library's own, by its name. -/
  | call (name : String) (argument : Value)

/-- What a request is answered with. -/
@[reducible] def Request.Answer : Request → Type
  | .connect => Except Fault Connection
  | .begin _ => Except Fault OpenTransaction
  | .execute _ _ => Except Fault Reply
  | .commit _ => Except Fault Unit
  | .rollback _ => Except Fault Unit
  | .close _ => Except Fault Unit
  | .dispose => Except Fault Unit
  | .poolExists => Bool
  | .setPool _ => Unit
  | .newHandle => Handle
  | .handleState _ => HandleState
  | .setHandleState _ _ => Unit
  | .now => Float
  | .sleep _ => Unit
  | .log _ => Unit
  | .reportQuery _ _ _ => Except Failure Unit
  | .reportError _ _ _ => Except Failure Unit
  | .settings => Except Failure Settings
  | .startSpan _ => Nat
  | .setAttribute _ _ _ => Unit
  | .failSpan _ _ => Unit
  | .endSpan _ => Unit
  | .call _ _ => Except Failure Value

/-- The interface of the library to everything outside it. -/
@[reducible] def outside : Interface := ⟨Request, Request.Answer⟩

end SqlComposer
