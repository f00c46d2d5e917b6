import SqlComposer.Log.QueryLog

/-!
# The query logs of a process

A process can have any number of query logs, one of which is its own. It is made when it is first
asked for, can be replaced, and can be closed and forgotten.
-/

set_option autoImplicit false

namespace SqlComposer.Log

/-- The query logs of a process by number, and the outlets they share. -/
structure Desk where
  outlets : Outlets
  logs : List QueryLog
  /-- The number of the process's own log. -/
  own : Option Nat

namespace Desk

/-- No query logs. -/
def empty : Desk := ⟨.empty, [], none⟩

/-- The log with a number. -/
def log? (d : Desk) (number : Nat) : Option QueryLog := d.logs[number]?

/-- Makes a log; its number comes with it. A log that is at fault leaves only its folders. -/
def make (d : Desk) (c : QueryLogConfig) : Except Failure Nat × Desk :=
  let told := QueryLog.ofConfig c d.outlets
  let d := { d with outlets := told.outlets }
  match told.outcome with
  | .error f => (.error (.fault f), d)
  | .ok () => (.ok d.logs.length, { d with logs := d.logs ++ [told.log] })

/-- Tells a log to do something. -/
def tell (d : Desk) (number : Nat) (f : QueryLog → Outlets → Told) : Except Failure Unit × Desk :=
  match d.log? number with
  | none => (.ok (), d)
  | some log =>
    let told := f log d.outlets
    (told.outcome.mapError .fault,
      { d with outlets := told.outlets, logs := d.logs.set number told.log })

/-- Closes the process's own log. -/
def closeOwn (d : Desk) : Desk :=
  match d.own with
  | none => d
  | some number => (d.tell number QueryLog.close).2

/-- Makes a log for the process, unless there is no configuration for it. -/
def makeOwn (d : Desk) (config : Except Failure QueryLogConfig) : Except Failure Nat × Desk :=
  match config with
  | .error f => (.error f, d)
  | .ok c =>
    match d.make c with
    | (.ok number, d) => (.ok number, { d with own := some number })
    | (.error f, d) => (.error f, d)

/-- The process's own log, made with the configuration if there is none. -/
def default (d : Desk) (config : Except Failure QueryLogConfig) : Except Failure Nat × Desk :=
  match d.own with
  | some number => (.ok number, d)
  | none => d.makeOwn config

/-- Closes the process's own log and puts a new one in its place, if that can be made. -/
def replace (d : Desk) (config : Except Failure QueryLogConfig) : Except Failure Nat × Desk :=
  d.closeOwn.makeOwn config

/-- Closes the process's own log and forgets it. -/
def forgetOwn (d : Desk) : Desk := { d.closeOwn with own := none }

end Desk

end SqlComposer.Log
