import Mathlib.Data.List.Nodup
import Mathlib.Logic.Function.Basic
import SqlComposer.Effect.Traced

/-!
# Actions in any surroundings

Whatever answers the requests of an action is its surroundings: a database that fails when it
likes, a clock, code of somebody else. `Surroundings.perform` runs an action in surroundings that
keep a state of their own, and keeps a `Scene` beside it: what the handles hold, and the story of
what was asked of the database, the query log, the clock and foreign code, each with its answer.
Connections and transactions are told apart by the order in which they were handed out, and a
handle holds what it was last given.

What is true of an action in all surroundings is stated by `Action.Always`, the weakest
precondition of a result and a scene over all answers. `Manner` limits the answers where
something is known of the surroundings. `always_perform` takes such a statement to every run.
-/

set_option autoImplicit false

namespace SqlComposer

/-! ## Scenes -/

/-- A request with its answer. -/
structure Exchange where
  request : Request
  answer : Request.Answer request

/-- Whether a request leaves no trace in a scene: it only looks, or it writes to the log or to a
span. -/
def Request.isQuiet : Request → Bool
  | .poolExists | .setPool _ | .handleState _ | .now | .log _ | .settings | .startSpan _
  | .setAttribute .. | .failSpan .. | .endSpan _ => true
  | _ => false

/-- Whether a request changes which handles there are or what they hold. -/
def Request.isOnHandles : Request → Bool
  | .newHandle | .setHandleState .. => true
  | _ => false

/-- What has become of an action so far. -/
structure Scene where
  /-- What each handle holds. -/
  handles : Handle → HandleState
  /-- How many handles there are. -/
  handleCount : Nat
  /-- What was asked, from the first request to the last. -/
  story : List Exchange

namespace Exchange

/-- The connection that was checked out. -/
def checkedOut? : Exchange → Option Connection
  | ⟨.connect, .ok c⟩ => some c
  | _ => none

/-- The connection that was to be given back, whether that failed or not. -/
def closed? : Exchange → Option Connection
  | ⟨.close c, _⟩ => some c
  | _ => none

/-- The transaction that was begun. -/
def begun? : Exchange → Option OpenTransaction
  | ⟨.begin _, .ok t⟩ => some t
  | _ => none

/-- The transaction that was to be ended in either way, whether that failed or not. -/
def ended? : Exchange → Option OpenTransaction
  | ⟨.commit t, _⟩ => some t
  | ⟨.rollback t, _⟩ => some t
  | _ => none

/-- The statement that was to be executed, whether that failed or not. -/
def executed? : Exchange → Option Sql.BoundStatement
  | ⟨.execute _ b, _⟩ => some b
  | _ => none

end Exchange

namespace Scene

/-- The scene before anything was asked, with idle handles. -/
def start : Scene := ⟨fun _ => .idle, 0, []⟩

/-- The connections that were checked out. -/
def checkedOut (s : Scene) : List Connection := s.story.filterMap Exchange.checkedOut?

/-- The connections that were to be given back. -/
def closed (s : Scene) : List Connection := s.story.filterMap Exchange.closed?

/-- The transactions that were begun. -/
def begun (s : Scene) : List OpenTransaction := s.story.filterMap Exchange.begun?

/-- The transactions that were to be committed or rolled back. -/
def ended (s : Scene) : List OpenTransaction := s.story.filterMap Exchange.ended?

/-- The statements that were executed, whether that failed or not. -/
def executed (s : Scene) : List Sql.BoundStatement := s.story.filterMap Exchange.executed?

/-- The scene after one more exchange. -/
def tell (s : Scene) (x : Exchange) : Scene := { s with story := s.story ++ [x] }

/-- The scene after some exchanges. -/
def tellAll (s : Scene) (told : List Exchange) : Scene := { s with story := s.story ++ told }

/-- The scene when a handle holds something else. -/
def hold (s : Scene) (h : Handle) (state : HandleState) : Scene :=
  { s with handles := Function.update s.handles h state }

/-- The scene with one more handle, which is idle. -/
def withHandle (s : Scene) : Scene :=
  { s.hold ⟨s.handleCount⟩ .idle with handleCount := s.handleCount + 1 }

/-- The answer that is given in a scene when the surroundings answer `a`. What is handed out is
new, and a handle holds what it was given. -/
def settle (s : Scene) : (r : Request) → Request.Answer r → Request.Answer r
  | .connect, .ok _ => .ok ⟨s.checkedOut.length⟩
  | .begin _, .ok _ => .ok ⟨s.begun.length⟩
  | .newHandle, _ => ⟨s.handleCount⟩
  | .handleState h, _ => s.handles h
  | _, a => a

/-- The scene after a request and its answer. -/
def after (s : Scene) : (r : Request) → Request.Answer r → Scene
  | .newHandle, _ => s.withHandle
  | .setHandleState h state, _ => s.hold h state
  | r, a => if r.isQuiet then s else s.tell ⟨r, a⟩

theorem filterMap_snoc {α β : Type} (f : α → Option β) (xs : List α) (x : α) :
    (xs ++ [x]).filterMap f = xs.filterMap f ++ (f x).toList := by
  rw [List.filterMap_append, List.filterMap_cons, List.filterMap_nil]
  cases f x <;> rfl

section Ledger

variable (s : Scene) (x : Exchange) (h : Handle) (state : HandleState)

@[simp] theorem tell_story : (s.tell x).story = s.story ++ [x] := rfl

@[simp] theorem tell_handles : (s.tell x).handles = s.handles := rfl

@[simp] theorem tell_checkedOut :
    (s.tell x).checkedOut = s.checkedOut ++ x.checkedOut?.toList :=
  filterMap_snoc Exchange.checkedOut? s.story x

@[simp] theorem tell_closed : (s.tell x).closed = s.closed ++ x.closed?.toList :=
  filterMap_snoc Exchange.closed? s.story x

@[simp] theorem tell_begun : (s.tell x).begun = s.begun ++ x.begun?.toList :=
  filterMap_snoc Exchange.begun? s.story x

@[simp] theorem tell_ended : (s.tell x).ended = s.ended ++ x.ended?.toList :=
  filterMap_snoc Exchange.ended? s.story x

@[simp] theorem tell_executed : (s.tell x).executed = s.executed ++ x.executed?.toList :=
  filterMap_snoc Exchange.executed? s.story x

@[simp] theorem tellAll_story (told : List Exchange) :
    (s.tellAll told).story = s.story ++ told := rfl

@[simp] theorem tellAll_handles (told : List Exchange) :
    (s.tellAll told).handles = s.handles := rfl

theorem tellAll_executed (told : List Exchange) :
    (s.tellAll told).executed = s.executed ++ told.filterMap Exchange.executed? :=
  List.filterMap_append

theorem tellAll_nil : s.tellAll [] = s := by
  simp only [tellAll, List.append_nil]

theorem tellAll_cons (told : List Exchange) : s.tellAll (x :: told) = (s.tell x).tellAll told := by
  simp only [tellAll, tell, List.append_assoc, List.singleton_append]

@[simp] theorem hold_story : (s.hold h state).story = s.story := rfl

@[simp] theorem hold_handles : (s.hold h state).handles h = state := Function.update_self ..

@[simp] theorem hold_checkedOut : (s.hold h state).checkedOut = s.checkedOut := rfl

@[simp] theorem hold_closed : (s.hold h state).closed = s.closed := rfl

@[simp] theorem hold_begun : (s.hold h state).begun = s.begun := rfl

@[simp] theorem hold_ended : (s.hold h state).ended = s.ended := rfl

end Ledger

/-- The connections and the transactions of a scene are numbered in the order in which they were
handed out. -/
structure Numbered (s : Scene) : Prop where
  connections : s.checkedOut = (List.range s.checkedOut.length).map Connection.mk
  transactions : s.begun = (List.range s.begun.length).map OpenTransaction.mk

theorem Numbered.nodup {s : Scene} (hs : s.Numbered) : s.checkedOut.Nodup ∧ s.begun.Nodup := by
  rw [hs.connections, hs.transactions]
  refine ⟨List.Nodup.map ?_ List.nodup_range, List.Nodup.map ?_ List.nodup_range⟩
  · exact fun _ _ h => Connection.mk.inj h
  · exact fun _ _ h => OpenTransaction.mk.inj h

/-- Numbers that go on by one more, if there is one more. -/
theorem range_snoc {α : Type} {mk : Nat → α} {xs : List α} {next : Option α}
    (hxs : xs = (List.range xs.length).map mk) (hnext : ∀ x ∈ next, x = mk xs.length) :
    xs ++ next.toList = (List.range (xs ++ next.toList).length).map mk := by
  cases next with
  | none => simpa using hxs
  | some x =>
    have hx : x = mk xs.length := hnext x rfl
    rw [Option.toList_some, List.length_append, List.length_singleton, List.range_succ,
      List.map_append, ← hxs, hx, List.map_singleton]

theorem Numbered.tell {s : Scene} (hs : s.Numbered) {x : Exchange}
    (hconnection : ∀ c ∈ x.checkedOut?, c = ⟨s.checkedOut.length⟩)
    (htransaction : ∀ t ∈ x.begun?, t = ⟨s.begun.length⟩) : (s.tell x).Numbered := by
  refine ⟨?_, ?_⟩
  · rw [tell_checkedOut]
    exact range_snoc hs.connections hconnection
  · rw [tell_begun]
    exact range_snoc hs.transactions htransaction

/-- What is handed out goes on with the numbers. -/
theorem Numbered.after {s : Scene} (hs : s.Numbered) (r : Request) (a : Request.Answer r) :
    (s.after r (s.settle r a)).Numbered := by
  cases r with
  | connect =>
    cases a with
    | error f => exact hs.tell nofun nofun
    | ok c => exact hs.tell (fun d hd => (Option.some.inj hd).symm) nofun
  | begin c =>
    cases a with
    | error f => exact hs.tell nofun nofun
    | ok t => exact hs.tell nofun (fun u hu => (Option.some.inj hu).symm)
  | execute | commit | rollback | close | dispose | sleep | reportQuery | reportError | call =>
    exact hs.tell nofun nofun
  | newHandle | setHandleState => exact ⟨hs.connections, hs.transactions⟩
  | _ => exact hs

/-- A request that leaves handles alone is told. -/
theorem after_loud (s : Scene) {r : Request} (hr : r.isQuiet = false)
    (hhandles : r.isOnHandles = false) (a : Request.Answer r) : s.after r a = s.tell ⟨r, a⟩ := by
  cases r <;> first | rfl | exact Bool.noConfusion hr | exact Bool.noConfusion hhandles

theorem after_handles (s : Scene) {r : Request} (hr : r.isOnHandles = false)
    (a : Request.Answer r) : (s.after r a).handles = s.handles := by
  cases r <;> first | rfl | exact Bool.noConfusion hr

theorem after_quiet (s : Scene) {r : Request} (hr : r.isQuiet = true) (a : Request.Answer r) :
    s.after r a = s := by
  cases r <;> first | rfl | exact nomatch hr

end Scene

/-! ## Running in surroundings -/

/-- Whatever answers requests, from a state of its own. -/
abbrev Surroundings (σ : Type) := (r : Request) → σ → Request.Answer r × σ

/-- What is known of the answers to requests. -/
abbrev Manner := (r : Request) → Request.Answer r → Prop

/-- Nothing is known. -/
def Manner.any : Manner := fun _ _ => True

/-- What is answered in a manner, in a scene with handles as in this one. -/
def Manner.settledIn (m : Manner) (s : Scene) : Manner := fun r a =>
  ∃ s' b, s'.handles = s.handles ∧ m r b ∧ a = Scene.settle s' r b

/-- A request whose answer does not depend on the scene. -/
theorem Manner.of_settledIn {m : Manner} {s : Scene} {r : Request} {a : Request.Answer r}
    (hr : ∀ s b, Scene.settle s r b = b) (h : m.settledIn s r a) : m r a := by
  obtain ⟨s', b, -, hb, rfl⟩ := h
  rwa [hr]

/-- A handle is found to hold what it holds in the scene. -/
theorem Manner.handleState_of_settledIn {m : Manner} {s : Scene} {h : Handle}
    {state : HandleState} (hstate : m.settledIn s (.handleState h) state) :
    state = s.handles h := by
  obtain ⟨s', b, hhandles, -, rfl⟩ := hstate
  exact congrFun hhandles h

/-- An exchange that can take place in a manner. -/
def Manner.Admits (m : Manner) (x : Exchange) : Prop := m x.request x.answer

namespace Surroundings

variable {σ α β : Type}

/-- Answers a request in a scene. -/
def answer (env : Surroundings σ) (r : Request) : StateM (Scene × σ) (Request.Answer r) :=
  fun now =>
    let raw := env r now.2
    let a := now.1.settle r raw.1
    (a, now.1.after r a, raw.2)

/-- Runs a program from a scene and a state of the surroundings. -/
def run (env : Surroundings σ) (p : Program outside α) (now : Scene × σ) : α × (Scene × σ) :=
  Program.run (I := outside) (m := StateM (Scene × σ)) env.answer p now

/-- Performs an action at a place. -/
def perform (env : Surroundings σ) (place : Place) (act : Action α) (now : Scene × σ) :
    Except Failure α × (Scene × σ) :=
  env.run (act place) now

/-- The surroundings answer in a manner only. -/
def Keeps (env : Surroundings σ) (m : Manner) : Prop := ∀ r w, m r (env r w).1

theorem keeps_any (env : Surroundings σ) : env.Keeps .any := fun _ _ => trivial

/-- What the surroundings can answer. -/
def manner (env : Surroundings σ) : Manner := fun r a => ∃ w, (env r w).1 = a

theorem keeps_manner (env : Surroundings σ) : env.Keeps env.manner := fun _ w => ⟨w, rfl⟩

/-- A program after another is run from where the first has ended. -/
theorem run_bind (env : Surroundings σ) (p : Program outside α) (f : α → Program outside β)
    (now : Scene × σ) :
    env.run (p.bind f) now = env.run (f (env.run p now).1) (env.run p now).2 := by
  induction p generalizing now with
  | done a => rfl
  | ask r next ih => exact ih _ _

/-- A run goes on with the numbers of connections and transactions. -/
theorem numbered_run (env : Surroundings σ) (p : Program outside α) (now : Scene × σ)
    (hnow : now.1.Numbered) : (env.run p now).2.1.Numbered := by
  induction p generalizing now with
  | done a => exact hnow
  | ask r next ih => exact ih _ _ (hnow.after r _)

/-- Surroundings that refuse nothing: the pool is there and the database does what it is told. -/
def obliging : Surroundings Unit := fun r _ => (answer r, ())
where
  answer : (r : Request) → Request.Answer r
    | .connect => .ok ⟨0⟩
    | .begin _ => .ok ⟨0⟩
    | .execute .. => .ok ⟨none, none, 0⟩
    | .commit _ | .rollback _ | .close _ | .dispose => .ok ()
    | .reportQuery .. | .reportError .. => .ok ()
    | .poolExists => true
    | .newHandle => ⟨0⟩
    | .handleState _ => .idle
    | .now => 0.0
    | .settings => .error (.fault ⟨.settings, ""⟩)
    | .startSpan _ => 0
    | .call .. => .ok .null
    | .setPool _ | .setHandleState .. | .sleep _ | .log _ | .setAttribute .. | .failSpan ..
    | .endSpan _ => ()

end Surroundings

/-! ## What is true in all surroundings -/

/-- A statement about the result and the scene at the end that is true whatever is answered, in a
manner. -/
def Program.Always {α : Type} (m : Manner) :
    Program outside α → (α → Scene → Prop) → Scene → Prop
  | .done a, Q, s => Q a s
  | .ask r next, Q, s =>
    ∀ a, m r a → (next (s.settle r a)).Always m Q (s.after r (s.settle r a))

namespace Program

variable {α β : Type} {m : Manner}

theorem Always.mono {p : Program outside α} {Q R : α → Scene → Prop} {s : Scene}
    (h : p.Always m Q s) (hQ : ∀ a s', Q a s' → R a s') : p.Always m R s := by
  induction p generalizing s with
  | done a => exact hQ a s h
  | ask r next ih =>
    intro a ha
    exact ih _ (h a ha)

theorem Always.bind {p : Program outside α} {f : α → Program outside β} {Q : β → Scene → Prop}
    {s : Scene} (h : p.Always m (fun a s' => (f a).Always m Q s') s) :
    (p.bind f).Always m Q s := by
  induction p generalizing s with
  | done a => exact h
  | ask r next ih =>
    intro a ha
    exact ih _ (h a ha)

/-- What is always true is true at the end of a run. -/
theorem Always.run {σ : Type} {env : Surroundings σ} (henv : env.Keeps m)
    {p : Program outside α} {Q : α → Scene → Prop} {s : Scene} (h : p.Always m Q s) (w : σ) :
    Q (env.run p (s, w)).1 (env.run p (s, w)).2.1 := by
  induction p generalizing s w with
  | done a => exact h
  | ask r next ih => exact ih _ (h _ (henv r w)) _

end Program

namespace Action

variable {α β : Type} {m : Manner} {place : Place} {s : Scene}

/-- A statement about the outcome of an action and the scene at the end that is true whatever is
answered, in a manner. -/
def Always (act : Action α) (m : Manner) (place : Place)
    (Q : Except Failure α → Scene → Prop) (s : Scene) : Prop :=
  (act place).Always m Q s

/-- What another action ensures after the result of a first; a failure of the first counts. -/
def GoesOn (f : α → Action β) (m : Manner) (place : Place) (T : Except Failure β → Scene → Prop) :
    Except Failure α → Scene → Prop
  | .ok x, s => (f x).Always m place T s
  | .error e, s => T (.error e) s

/-- What is always true of an action is true when it is performed. -/
theorem always_perform {σ : Type} {env : Surroundings σ} (henv : env.Keeps m) {act : Action α}
    {Q : Except Failure α → Scene → Prop} (h : act.Always m place Q s) (w : σ) :
    Q (env.perform place act (s, w)).1 (env.perform place act (s, w)).2.1 :=
  Program.Always.run henv h w

theorem perform_ask {σ : Type} (env : Surroundings σ) (r : Request) (now : Scene × σ) :
    env.perform place (Action.ask r) now = (.ok (env.answer r now).1, (env.answer r now).2) := rfl

/-- An action after another is performed from where the first has ended, if it has not failed. -/
theorem perform_bind {σ : Type} (env : Surroundings σ) (act : Action α) (f : α → Action β)
    (now : Scene × σ) :
    env.perform place (act >>= f) now = match env.perform place act now with
      | (.ok x, later) => env.perform place (f x) later
      | (.error e, later) => (.error e, later) := by
  refine (Surroundings.run_bind env (act place) _ now).trans ?_
  unfold Surroundings.perform
  cases henv : env.run (act place) now with
  | mk r later => cases r <;> rfl

/-- An action after one that succeeds. -/
theorem perform_of_ok {σ : Type} (env : Surroundings σ) {act : Action α} (f : α → Action β)
    {now : Scene × σ} {x : α} (h : (env.perform place act now).1 = .ok x) :
    env.perform place (act >>= f) now
      = env.perform place (f x) (env.perform place act now).2 := by
  rw [perform_bind]
  cases hact : env.perform place act now with
  | mk r later =>
    rw [hact] at h
    cases h
    rfl

/-- An action after the outcome of another. -/
theorem perform_outcome {σ : Type} (env : Surroundings σ) (act : Action α)
    (f : Except Failure α → Action β) (now : Scene × σ) :
    env.perform place (Action.outcome act >>= f) now
      = env.perform place (f (env.perform place act now).1) (env.perform place act now).2 := by
  have houtcome : env.perform place (Action.outcome act) now
      = (.ok (env.perform place act now).1, (env.perform place act now).2) :=
    Surroundings.run_bind env (act place) (fun r => .done (Except.ok r)) now
  rw [perform_bind, houtcome]

namespace Always

variable {Q R : Except Failure α → Scene → Prop} {T : Except Failure β → Scene → Prop}

theorem mono {act : Action α} (h : act.Always m place Q s) (hQ : ∀ r s', Q r s' → R r s') :
    act.Always m place R s :=
  Program.Always.mono h hQ

theorem pure {x : α} (h : Q (.ok x) s) : (Pure.pure x : Action α).Always m place Q s := h

theorem fail {f : Failure} (h : Q (.error f) s) : (Action.fail f).Always m place Q s := h

theorem ofOutcome {r : Except Failure α} (h : Q r s) :
    (Action.ofOutcome r).Always m place Q s := h

theorem within {act : Action α} {elsewhere : Place} (h : act.Always m elsewhere Q s) :
    (Action.within elsewhere act).Always m place Q s := h

theorem here {f : Place → Action β} (h : (f place).Always m place T s) :
    (Action.place >>= f).Always m place T s := h

/-- An action after another goes on where the first has ended, if it has not failed. -/
theorem next {act : Action α} {f : α → Action β} (h : act.Always m place (GoesOn f m place T) s) :
    (act >>= f).Always m place T s := by
  refine Program.Always.bind (Program.Always.mono h ?_)
  intro r s' hr
  cases r with
  | ok x => exact hr
  | error e => exact hr

/-- An action after another: what the first ensures has to ensure the rest. -/
theorem bind {act : Action α} {f : α → Action β} (h : act.Always m place Q s)
    (hok : ∀ x s', Q (.ok x) s' → (f x).Always m place T s')
    (herror : ∀ e s', Q (.error e) s' → T (.error e) s') :
    (act >>= f).Always m place T s := by
  refine next (mono h ?_)
  intro r s' hr
  cases r with
  | ok x => exact hok x s' hr
  | error e => exact herror e s' hr

/-- An action after the outcome of another, which may be a failure. -/
theorem outcome {act : Action α} {f : Except Failure α → Action β}
    (h : act.Always m place (fun r s' => (f r).Always m place T s') s) :
    (Action.outcome act >>= f).Always m place T s :=
  Program.Always.bind (Program.Always.bind h)

/-- A request leads to an answer and to the scene after it. -/
theorem ask {r : Request} {Q : Except Failure (Request.Answer r) → Scene → Prop}
    (h : ∀ a, m r a → Q (.ok (s.settle r a)) (s.after r (s.settle r a))) :
    (Action.ask r).Always m place Q s := h

/-- An action that succeeds without a trace does not count. -/
theorem silent {act : Action Unit} {f : Unit → Action β}
    (hact : act.Always m place (fun r s' => r = .ok () ∧ s' = s) s)
    (h : (f ()).Always m place T s) : (act >>= f).Always m place T s := by
  refine bind hact ?_ ?_
  · rintro _ s' ⟨-, rfl⟩
    exact h
  · rintro e s' ⟨he, -⟩
    cases he

/-- A quiet request leaves the scene as it is. -/
theorem quiet {r : Request} {f : Request.Answer r → Action β} (hr : r.isQuiet = true)
    (h : ∀ a, (f a).Always m place T s) : (Action.ask r >>= f).Always m place T s := by
  intro a _
  rw [Scene.after_quiet s hr]
  exact h _

/-! ### The library's own ways to go on -/

theorem log {e : Log.Entry} {Q : Except Failure Unit → Scene → Prop} (h : Q (.ok ()) s) :
    (Action.log e).Always m place Q s :=
  ask fun _ _ => h

theorem logAll {es : List Log.Entry} {Q : Except Failure Unit → Scene → Prop}
    (h : Q (.ok ()) s) : (Action.logAll es).Always m place Q s := by
  induction es with
  | nil => exact h
  | cons e es ih => exact quiet rfl fun _ => ih

/-- Failing in a new way. -/
theorem raise {f : Failure} (h : Q (.error f) s) : (Action.raise f).Always m place Q s :=
  silent (logAll ⟨rfl, rfl⟩) (fail h)

theorem raised {f : Failure} {next : α → Action β} (h : T (.error f) s) :
    (Action.raise f >>= next).Always m place T s := by
  refine bind (Q := fun r s' => r = .error f ∧ s' = s) (raise ⟨rfl, rfl⟩) ?_ ?_
  · rintro x s' ⟨hx, -⟩
    cases hx
  · rintro e s' ⟨he, rfl⟩
    cases he
    exact h

theorem raising {r : Except Failure α} (h : Q r s) : (Action.raising r).Always m place Q s := by
  cases r with
  | ok x => exact h
  | error f => exact raise h

theorem ofFault {r : Except Fault α} (h : Q (r.mapError .fault) s) :
    (Action.ofFault r).Always m place Q s := h

/-- What comes after an action comes after its failure too, and its own failure counts. -/
theorem ending {act : Action α} {later : Action Unit} (h : act.Always m place R s)
    (hlater : ∀ r s', R r s' →
      later.Always m place (fun r' s'' => Q (r' >>= fun _ => r) s'') s') :
    (Action.ending act later).Always m place Q s := by
  refine outcome (h.mono ?_)
  intro r s' hr
  refine bind (hlater r s' hr) ?_ ?_
  · exact fun _ _ h' => ofOutcome h'
  · exact fun _ _ h' => h'

/-- A failure is dealt with unless handlers leave it alone. -/
theorem handling {act : Action α} {handler : Failure → Action α} (h : act.Always m place R s)
    (hok : ∀ x s', R (.ok x) s' → Q (.ok x) s')
    (hpassed : ∀ f s', R (.error f) s' → f.handled = false → Q (.error f) s')
    (hhandled : ∀ f s', R (.error f) s' → f.handled = true →
      (handler f).Always m place Q s') : (Action.handling act handler).Always m place Q s := by
  refine outcome (h.mono ?_)
  intro r s' hr
  cases r with
  | ok x => exact pure (hok x s' hr)
  | error f =>
    cases hf : f.handled with
    | true => simpa [hf] using hhandled f s' hr hf
    | false => simpa [hf] using fail (hpassed f s' hr hf)

/-! ### Spans -/

theorem setAttributes {span : Nat} {attributes : List (String × Value)}
    {Q : Except Failure Unit → Scene → Prop} (h : Q (.ok ()) s) :
    (Tracing.setAttributes span attributes).Always m place Q s := by
  induction attributes with
  | nil => exact h
  | cons e es ih => exact quiet rfl fun _ => ih

/-- A traced operation does what it does without a span, at some place. -/
theorem traced {tracer name : String} {attributes : List (String × Value)} {act : Action α}
    (h : ∀ elsewhere, act.Always m elsewhere Q s) :
    ((Tracing.ofOperation tracer name attributes).run act).Always m place Q s := by
  -- all requests about the span are quiet, so the scene passes through them as it is
  have hnoted (span : Nat) (f : Failure) (elsewhere : Place) {s' : Scene} (h' : Q (.error f) s') :
      (Tracing.noteFailure span f >>= fun _ => Action.fail f).Always m elsewhere Q s' := by
    unfold Tracing.noteFailure
    split
    · exact quiet rfl fun _ => fail h'
    · exact h'
  have hspan (span : Nat) (elsewhere : Place) :
      ((Tracing.ofOperation tracer name attributes).inSpan span act).Always m elsewhere Q s := by
    refine silent (pure ⟨rfl, rfl⟩) (silent (setAttributes ⟨rfl, rfl⟩) ?_)
    refine outcome ((h elsewhere).mono ?_)
    intro r s' hr
    cases r with
    | ok x => exact pure hr
    | error f => exact hnoted span f elsewhere hr
  refine here (quiet rfl fun span => ?_)
  exact ending (within (hspan span _)) fun _ _ hr => ask fun _ _ => hr

/-! ### The database and the query log -/

theorem begin {c : Connection} {Q : Except Failure OpenTransaction → Scene → Prop}
    (hfault : ∀ f, m (.begin c) (.error f) → Q (.error (.fault f)) (s.tell ⟨.begin c, .error f⟩))
    (hok : Q (.ok ⟨s.begun.length⟩) (s.tell ⟨.begin c, .ok ⟨s.begun.length⟩⟩)) :
    (Action.begin c).Always m place Q s
  | .error f, hf => hfault f hf
  | .ok _, _ => hok

theorem commit {t : OpenTransaction} {Q : Except Failure Unit → Scene → Prop}
    (h : ∀ a, m (.commit t) a → Q (a.mapError .fault) (s.tell ⟨.commit t, a⟩)) :
    (Action.commit t).Always m place Q s := h

theorem rollback {t : OpenTransaction} {Q : Except Failure Unit → Scene → Prop}
    (h : ∀ a, m (.rollback t) a → Q (a.mapError .fault) (s.tell ⟨.rollback t, a⟩)) :
    (Action.rollback t).Always m place Q s := h

theorem close {c : Connection} {Q : Except Failure Unit → Scene → Prop}
    (h : ∀ a, m (.close c) a → Q (a.mapError .fault) (s.tell ⟨.close c, a⟩)) :
    (Action.close c).Always m place Q s := h

theorem reportError {sql : String} {f : Failure} {values : Value}
    {Q : Except Failure Unit → Scene → Prop}
    (h : ∀ a, m (.reportError sql f values) a → Q a (s.tell ⟨.reportError sql f values, a⟩)) :
    (Action.reportError sql f values).Always m place Q s := h

end Always

-- runs and what is always true of them are only taken apart by the rules above
attribute [irreducible] Action.Always Surroundings.run

end Action

end SqlComposer
