import SqlComposer.Execution.Engine
import SqlComposer.Log.Desk

/-!
# Rehearsals

A rehearsal runs an action without a database. A script says what the database answers and when
it fails; everything that happens is written down: the events at the database, the pauses, the
log, the spans, and what the query log is told. The clock stands still but for the time that the
script gives to each statement.

Since a script can let any event fail and answer every statement in any way, what holds for all
scripts holds for all behaviours of a database. The engine of a rehearsal leaves a connection alone
as soon as anything has failed on it but a statement.
-/

set_option autoImplicit false

namespace SqlComposer.Rehearsal

/-- What happens at the database. -/
inductive Event where
  | connect
  | begin
  | execute (s : Sql.BoundStatement)
  | commit
  | rollback
  | close
  | dispose
  /-- Something that code outside the library notes in between. -/
  | noted (v : Value)

/-- The name of an event in a script. -/
def Event.name : Event → String
  | .connect => "connect"
  | .begin => "begin"
  | .execute _ => "execute"
  | .commit => "commit"
  | .rollback => "rollback"
  | .close => "close"
  | .dispose => "dispose"
  | .noted _ => "noted"

/-- What the database says to one statement, and how long it takes. -/
structure ScriptedReply where
  outcome : Except Fault Reply
  milliseconds : Float

/-- What is said when the script has nothing more to say. -/
def ScriptedReply.nothing : ScriptedReply := ⟨.ok ⟨none, none, 0⟩, 0.0⟩

/-- What the database does. -/
structure Script where
  /-- What it says to each statement in turn. -/
  replies : List ScriptedReply
  /-- For the name of an event, which of these events fail. -/
  faults : List (String × List (Option Fault))

/-- What the query log is told. -/
inductive Report where
  | query (sql : String) (values : List Value) (milliseconds : Float)
  | error (sql : String) (failure : Failure) (values : List Value)

/-- A span that was started. -/
structure Span where
  start : SpanStart
  attributes : List (String × Value)
  /-- The failures recorded in it. -/
  failures : List String
  ended : Bool

/-- All that an action can reach, and what it has done so far. -/
structure World (ν : Type) where
  clock : Float
  script : Script
  settings : Except Failure Settings
  /-- Whether reports are written down, or else go to the process's own query log. -/
  recording : Bool
  pool : Bool
  /-- How many connections have been checked out. -/
  connections : Nat
  /-- How many transactions have been begun at the database. -/
  transactions : Nat
  handles : List HandleState
  events : List Event
  sleeps : List Float
  logs : List Log.Entry
  spans : List Span
  reports : List Report
  desk : Log.Desk
  /-- What code outside the library keeps. -/
  notes : ν

/-- Code outside the library, by its name and its argument. -/
abbrev Foreign (ν : Type) := String → Value → World ν → Except Failure Value × World ν

/-- The engine of a rehearsal. -/
def engine (s : DatabaseSettings) : Engine where
  settings := s
  enter := do
    let c ← Action.connect
    let t ← Action.begin c
    return ⟨c, t⟩
  leave scope failure := do
    match failure with
    | none => Action.commit scope.transaction
    | some _ => Action.rollback scope.transaction
    Action.close scope.connection

/-- The script after an event of a name, and the fault if the event is to fail. -/
def Script.next (s : Script) (name : String) : Option Fault × Script :=
  match lookup? name s.faults with
  | some (fault :: rest) => (fault, { s with faults := put name rest s.faults })
  | _ => (none, s)

namespace World

variable {ν : Type}

/-- A world at the beginning, with an existing pool. -/
def start (clock : Float) (settings : Except Failure Settings) (recording : Bool) (notes : ν) :
    World ν :=
  { clock := clock
    script := ⟨[], []⟩
    settings := settings
    recording := recording
    pool := true
    connections := 0
    transactions := 0
    handles := []
    events := []
    sleeps := []
    logs := []
    spans := []
    reports := []
    desk := .empty
    notes := notes }

/-- Writes an event down; it fails if the script says so. -/
def happen (w : World ν) (e : Event) : Option Fault × World ν :=
  let (fault, script) := w.script.next e.name
  (fault, { w with events := w.events ++ [e], script := script })

/-- An event that yields something unless it fails. -/
def attempt {α : Type} (w : World ν) (e : Event) (good : World ν → α × World ν) :
    Except Fault α × World ν :=
  match w.happen e with
  | (some fault, w) => (.error fault, w)
  | (none, w) =>
    let (a, w) := good w
    (.ok a, w)

/-- What the script says to the next statement, after the time that takes. -/
def reply (w : World ν) : Except Fault Reply × World ν :=
  let r := w.script.replies.head?.getD .nothing
  (r.outcome,
    { w with
      clock := w.clock + r.milliseconds / 1000.0
      script := { w.script with replies := w.script.replies.tail } })

/-- The state of a handle. -/
def handle (w : World ν) (h : Handle) : HandleState := w.handles.getD h.number .idle

/-- Changes a span. -/
def onSpan (w : World ν) (number : Nat) (f : Span → Span) : World ν :=
  { w with spans := w.spans.modify number f }

/-- Writes a report on values down, or tells the process's own query log. What yields no values
cannot be written down. -/
def report (w : World ν) (values : Value) (r : List Value → Report)
    (told : Log.QueryLog → Log.Outlets → Log.Told) : Except Failure Unit × World ν :=
  if w.recording then
    match values.elements with
    | .error f => (.error (.fault f), w)
    | .ok vs => (.ok (), { w with reports := w.reports ++ [r vs] })
  else match w.desk.default (w.settings.bind Log.QueryLogConfig.ofSettings) with
    | (.error f, desk) => (.error f, { w with desk := desk })
    | (.ok number, desk) =>
      let (outcome, desk) := desk.tell number told
      (outcome, { w with desk := desk })

/-- Answers a request. -/
def answer (foreign : Foreign ν) : (r : Request) → World ν → Request.Answer r × World ν
  | .connect, w =>
    w.attempt .connect fun w => (⟨w.connections⟩, { w with connections := w.connections + 1 })
  | .begin _, w =>
    w.attempt .begin fun w => (⟨w.transactions⟩, { w with transactions := w.transactions + 1 })
  | .execute _ s, w =>
    match w.happen (.execute s) with
    | (some fault, w) => (.error fault, w)
    | (none, w) => w.reply
  | .commit _, w => w.attempt .commit fun w => ((), w)
  | .rollback _, w => w.attempt .rollback fun w => ((), w)
  | .close _, w => w.attempt .close fun w => ((), w)
  | .dispose, w => w.attempt .dispose fun w => ((), w)
  | .poolExists, w => (w.pool, w)
  | .setPool there, w => ((), { w with pool := there })
  | .newHandle, w => (⟨w.handles.length⟩, { w with handles := w.handles ++ [.idle] })
  | .handleState h, w => (w.handle h, w)
  | .setHandleState h s, w => ((), { w with handles := w.handles.set h.number s })
  | .now, w => (w.clock, w)
  | .sleep seconds, w => ((), { w with sleeps := w.sleeps ++ [seconds] })
  | .log e, w => ((), { w with logs := w.logs ++ [e] })
  | .reportQuery sql values ms, w =>
    w.report values (.query sql · ms) fun log =>
      log.logQuery w.clock (.text sql) values (.float ms)
  | .reportError sql f values, w =>
    w.report values (.error sql f ·) fun log => log.logError w.clock (.text sql) f values
  | .settings, w => (w.settings, w)
  | .startSpan s, w => (w.spans.length, { w with spans := w.spans ++ [⟨s, [], [], false⟩] })
  | .setAttribute span name value, w =>
    ((), w.onSpan span fun s => { s with attributes := put name value s.attributes })
  | .failSpan span kind, w =>
    ((), w.onSpan span fun s => { s with failures := s.failures ++ [kind] })
  | .endSpan span, w => ((), w.onSpan span fun s => { s with ended := true })
  | .call name argument, w => foreign name argument w

/-- Runs an action in a world. -/
def perform {α : Type} (foreign : Foreign ν) (a : Action α) (w : World ν) :
    Except Failure α × World ν :=
  Program.run (I := outside) (m := StateM (World ν)) (fun r w => answer foreign r w) (a .top) w

end World

end SqlComposer.Rehearsal
