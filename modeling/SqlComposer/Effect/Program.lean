/-!
# Programs that ask

A program either has its result or asks for something and goes on with the answer. What can be
asked for, and what the answers look like, is an interface. Nothing happens until somebody
answers: `Program.run` has every request answered in a monad of the answerer's choice, so one
and the same program can be run against a database, against a script, or be reasoned about.

`Program.interleave` runs two programs side by side, in the order that a schedule gives.
-/

set_option autoImplicit false

namespace SqlComposer

/-- What can be asked for, and what each request is answered with. -/
structure Interface where
  Request : Type
  Answer : Request → Type

/-- A program that asks through an interface before it has its result. -/
inductive Program (I : Interface) (α : Type) where
  | done (a : α)
  | ask (r : I.Request) (next : I.Answer r → Program I α)

namespace Program

variable {I : Interface} {α β : Type}

/-- Goes on with another program when the first has its result. -/
def bind (p : Program I α) (f : α → Program I β) : Program I β :=
  match p with
  | .done a => f a
  | .ask r next => .ask r fun answer => (next answer).bind f

instance : Monad (Program I) where
  pure := .done
  bind := bind

/-- The program that asks once. -/
def request (r : I.Request) : Program I (I.Answer r) := .ask r .done

/-- Runs a program with somebody who answers. -/
def run {m : Type → Type} [Monad m] (answer : (r : I.Request) → m (I.Answer r)) :
    Program I α → m α
  | .done a => pure a
  | .ask r next => do run answer (next (← answer r))

/-- Runs two programs side by side. The schedule says for every request whether it is the first
program's turn. When the schedule is used up, the first program is run to its end and then the
second. Both results come with whether the first program ended before the second. -/
def interleave : List Bool → Program I α → Program I β → Program I (α × β × Bool)
  | _, .done a, q => q.bind fun b => .done (a, b, true)
  | _, p, .done b => p.bind fun a => .done (a, b, false)
  | [], p, q => p.bind fun a => q.bind fun b => .done (a, b, true)
  | true :: turns, .ask r next, q => .ask r fun answer => interleave turns (next answer) q
  | false :: turns, p, .ask r next => .ask r fun answer => interleave turns p (next answer)

end Program

end SqlComposer
