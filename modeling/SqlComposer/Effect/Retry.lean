import SqlComposer.Effect.Traced
import SqlComposer.Number.Fixed
import SqlComposer.Value.Amount

/-!
# Retrying

Work that fails can be tried again, so many times at most, with a pause before every new attempt.
The pauses grow by a factor from one to the next and never beyond a limit. Only failures that the
policy retries lead to another attempt; a cancellation never does.

The policy is stated for any type of delays, and the loop for any monad the work runs in.
-/

set_option autoImplicit false

namespace SqlComposer

/-- When to try again, and how long to wait before. -/
structure RetryPolicy (δ : Type) where
  /-- The number of attempts after the first. -/
  maxRetries : Nat
  initialDelay : δ
  maxDelay : δ
  base : δ
  /-- Whether a failure is worth another attempt. -/
  retries : Failure → Bool

/-- Whether a failure leads to another attempt, if there is one left. -/
def RetryPolicy.accepts {δ : Type} (p : RetryPolicy δ) (f : Failure) : Bool :=
  f.handled && p.retries f

/-- The delay after a delay. -/
def RetryPolicy.nextDelay {δ : Type} [Mul δ] [LT δ] [DecidableLT δ] (p : RetryPolicy δ) (d : δ) :
    δ :=
  let grown := d * p.base
  if p.maxDelay < grown then p.maxDelay else grown

/-- What is done around the attempts. -/
structure Attempts (m : Type → Type) (δ : Type) where
  /-- Before another attempt: the number of the attempt that failed, the delay, the failure. -/
  pause : Nat → δ → Failure → m Unit
  /-- After the last attempt has failed. -/
  giveUp : m Unit

/-- Tries work until it succeeds, or fails for good. `left` attempts may follow this one. -/
def retryFrom {m : Type → Type} [Monad m] {δ α : Type} [Mul δ] [LT δ] [DecidableLT δ]
    (p : RetryPolicy δ) (around : Attempts m δ) (work : m (Except Failure α)) :
    (left attempt : Nat) → δ → m (Except Failure α)
  | left, attempt, delay => do
    match ← work with
    | .ok x => return .ok x
    | .error f =>
      if p.accepts f then
        match left with
        | 0 =>
          around.giveUp
          return .error f
        | left + 1 =>
          around.pause attempt delay f
          retryFrom p around work left (attempt + 1) (p.nextDelay delay)
      else return .error f

/-- Tries work as often as the policy allows. -/
def retry {m : Type → Type} [Monad m] {δ α : Type} [Mul δ] [LT δ] [DecidableLT δ]
    (p : RetryPolicy δ) (around : Attempts m δ) (work : m (Except Failure α)) :
    m (Except Failure α) :=
  retryFrom p around work p.maxRetries 1 p.initialDelay

/-- The entry before another attempt. -/
def retryEntry (name : String) (attempt : Nat) (delay : Float) (f : Failure) : Log.Entry :=
  { level := .warning
    logger := instrumentLogger
    message := "Attempt " ++ toString attempt ++ " failed for " ++ name ++ ", retrying in "
      ++ Number.fixedText 2 delay ++ " seconds"
    extra := [("retry.attempt", .int attempt), ("error", .text f.name)]
    failure := none }

/-- The entry after the last attempt. -/
def exhaustedEntry (name : String) (attempts : Nat) : Log.Entry :=
  { level := .error
    logger := instrumentLogger
    message := "All " ++ toString attempts ++ " attempts failed for " ++ name
    extra := []
    failure := none }

/-- The library logs around the attempts and sleeps between them. `seconds` says how long a delay
is. -/
def Attempts.logged {δ : Type} (seconds : δ → Float) (name : String) (p : RetryPolicy δ) :
    Attempts Action δ where
  pause attempt delay f := do
    Action.log (retryEntry name attempt (seconds delay) f)
    Action.ask (.sleep (seconds delay))
  giveUp := Action.log (exhaustedEntry name (p.maxRetries + 1))

/-- A class of failures that a policy can name. -/
inductive FailureClass where
  /-- All failures that handlers deal with. -/
  | any
  /-- The library's own errors. -/
  | own
  /-- Values that do not make a record. -/
  | refused
  /-- The faults of a kind. -/
  | kind (k : FaultKind)
  deriving DecidableEq, Repr

/-- Whether a failure is of a class. Values that do not make a record are not acceptable. -/
def FailureClass.has : FailureClass → Failure → Bool
  | .any, f => f.handled
  | .own, .error _ => true
  | .refused, .refusal .. => true
  | .kind k, .fault f => f.kind.isA k
  | .kind k, .refusal .. => k == .value
  | _, _ => false

/-- Retries failures of some classes that meet a condition; without classes, all failures that meet
it. -/
def retriesOn (classes : Option (List FailureClass)) (condition : Failure → Bool) (f : Failure) :
    Bool :=
  (match classes with
    | none => true
    | some cs => cs.any (·.has f)) && condition f

/-- Retries an action under a name. -/
def Action.retrying {δ α : Type} [Mul δ] [LT δ] [DecidableLT δ] (seconds : δ → Float)
    (name : String) (p : RetryPolicy δ) (a : Action α) : Action α := do
  ofOutcome (← retry p (.logged seconds name p) (outcome a))

/-- Retries an action so many times at most. With less than no retries it is not even tried, and
what is no whole number cannot be counted up to. -/
def Action.retryingAtMost {δ α : Type} [Mul δ] [LT δ] [DecidableLT δ] (seconds : δ → Float)
    (name : String) (maxRetries : Value) (p : RetryPolicy δ) (a : Action α) :
    Action (Option α) :=
  match maxRetries.whole? with
  | none => Action.fail (.fault ⟨.type, ""⟩)
  | some n =>
    if n < 0 then pure none
    else do return some (← retrying seconds name { p with maxRetries := n.toNat } a)

end SqlComposer
