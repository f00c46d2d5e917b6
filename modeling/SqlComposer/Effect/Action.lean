import SqlComposer.Effect.Request

/-!
# Actions

An action is a program of the library that runs somewhere, within an operation and a span, and
can fail. A failure ends the action unless it is handled; handlers deal with all failures but a
cancellation, which only passes through `ending`.
-/

set_option autoImplicit false

namespace SqlComposer

/-- Where an action runs. -/
structure Place where
  /-- The operation at hand. -/
  operation : Option String
  /-- The number of the span at hand. -/
  span : Option Nat

/-- Nowhere in particular. -/
def Place.top : Place := ⟨none, none⟩

/-- A program that runs somewhere and can fail. -/
def Action (α : Type) : Type := Place → Program outside (Except Failure α)

namespace Action

variable {α β : Type}

/-- Goes on with another action if the first one succeeds. -/
def bind (a : Action α) (f : α → Action β) : Action β := fun place =>
  (a place).bind fun
    | .ok x => f x place
    | .error failure => .done (.error failure)

instance : Monad Action where
  pure x := fun _ => .done (.ok x)
  bind := bind

/-- Fails. -/
def fail (f : Failure) : Action α := fun _ => .done (.error f)

/-- The outcome of an action, which does not fail itself. -/
def outcome (a : Action α) : Action (Except Failure α) := fun place =>
  (a place).bind fun r => .done (.ok r)

/-- An outcome as an action. -/
def ofOutcome (r : Except Failure α) : Action α := fun _ => .done r

/-- Where the action runs. -/
def place : Action Place := fun p => .done (.ok p)

/-- Runs an action elsewhere. -/
def within (p : Place) (a : Action α) : Action α := fun _ => a p

/-- Asks for something that cannot fail. -/
def ask (r : Request) : Action (Request.Answer r) := fun _ =>
  .ask r fun answer => .done (.ok answer)

/-- Writes an entry to the log. -/
def log (e : Log.Entry) : Action Unit := ask (.log e)

/-- Writes several entries to the log. -/
def logAll : List Log.Entry → Action Unit
  | [] => pure ()
  | e :: es => bind (log e) fun _ => logAll es

/-- Fails in a new way, which is logged. -/
def raise (f : Failure) : Action α := bind (logAll f.entries) fun _ => fail f

/-- An outcome whose failure is new. -/
def raising : Except Failure α → Action α
  | .ok x => pure x
  | .error f => raise f

/-- Something from outside that can be at fault. -/
def ofFault (r : Except Fault α) : Action α := ofOutcome (r.mapError .fault)

/-- Does something after an action, however it ends. If that fails, its failure is the one that
counts. -/
def ending (a : Action α) (after : Action Unit) : Action α := do
  let r ← outcome a
  after
  ofOutcome r

/-- Deals with a failure, unless it is one that handlers leave alone. -/
def handling (a : Action α) (h : Failure → Action α) : Action α := do
  match ← outcome a with
  | .ok x => pure x
  | .error f => if f.handled then h f else fail f

/-- Checks out a connection. -/
def connect : Action Connection := do ofFault (← ask .connect)

/-- Begins a transaction on a connection. -/
def begin (c : Connection) : Action OpenTransaction := do ofFault (← ask (.begin c))

/-- Executes a bound statement. -/
def execute (c : Connection) (s : Sql.BoundStatement) : Action Reply := do
  ofFault (← ask (.execute c s))

/-- Commits a transaction. -/
def commit (t : OpenTransaction) : Action Unit := do ofFault (← ask (.commit t))

/-- Rolls a transaction back. -/
def rollback (t : OpenTransaction) : Action Unit := do ofFault (← ask (.rollback t))

/-- Gives a connection back. -/
def close (c : Connection) : Action Unit := do ofFault (← ask (.close c))

/-- Tells the query log of a statement that was completed. -/
def reportQuery (sql : String) (values : Value) (milliseconds : Float) : Action Unit := do
  ofOutcome (← ask (.reportQuery sql values milliseconds))

/-- Tells the query log of a statement that failed. -/
def reportError (sql : String) (f : Failure) (values : Value) : Action Unit := do
  ofOutcome (← ask (.reportError sql f values))

/-- The settings. -/
def settings : Action Settings := do ofOutcome (← ask .settings)

/-- Calls code that is not the library's own. -/
def call (name : String) (argument : Value) : Action Value := do
  ofOutcome (← ask (.call name argument))

/-- What two outcomes come to. If both are failures, the one that came first counts. -/
def joined (x : Except Failure α) (y : Except Failure β) (firstEarlier : Bool) :
    Except Failure (α × β) :=
  match x, y with
  | .ok a, .ok b => .ok (a, b)
  | .ok _, .error g => .error g
  | .error f, .ok _ => .error f
  | .error f, .error g => .error (if firstEarlier then f else g)

/-- Runs two actions side by side, in the order that a schedule gives, until both have ended. If
both fail, the failure that came first counts. -/
def both (schedule : List Bool) (a : Action α) (b : Action β) : Action (α × β) := do
  let p ← place
  let (x, y, firstEarlier) ← (fun _ =>
    (Program.interleave schedule (a p) (b p)).bind fun r => .done (.ok r)
    : Action (Except Failure α × Except Failure β × Bool))
  ofOutcome (joined x y firstEarlier)

end Action

end SqlComposer
