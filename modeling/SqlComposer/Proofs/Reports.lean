import SqlComposer.Database.Basic
import SqlComposer.Proofs.Handles
import SqlComposer.Proofs.Reading

/-!
# What the query log is told of a statement

A statement runs on the pool, where it only reads or may write, or within the transaction of a
handle: `StatementStory` has the story of each. The database tells the query log of it once it was
executed, however that went. `Reported` lists the cases by the outcome of the execution: what the
outcome is then, and what is told. An error of the library and a cancellation go on as they are and
are not reported. `RunStory` is both, one after the other.
-/

set_option autoImplicit false

namespace SqlComposer

/-- Whether a failure is reported and wrapped: it is not the library's own and handlers deal with
it. -/
def Failure.isForeign : Failure → Bool
  | .error _ => false
  | f => f.handled

/-- Whether errors of a database show faults: it says so itself or leaves it to the settings. -/
def Database.Reveals (db : Database) (m : Manner) (revealing : Bool) : Prop :=
  db.development = some revealing ∨ db.development = none
    ∧ ∃ settings : Settings, m .settings (.ok settings) ∧ settings.isDevelopment = revealing

/-- What reporting a statement can do, by the outcome of its execution. -/
inductive Reported (m : Manner) (db : Database) (what : Attempted) (sql : String)
    (values : Value) :
    Except Failure QueryResult → Except Failure QueryResult → List Exchange → Prop
  | completed (x : QueryResult) (milliseconds : Float) (a : Except Failure Unit)
      (ha : m (.reportQuery sql values milliseconds) a) :
      Reported m db what sql values (.ok x) (a >>= fun _ => .ok x)
        [⟨.reportQuery sql values milliseconds, a⟩]
  | passed (f : Failure) (hf : f.isForeign = false) :
      Reported m db what sql values (.error f) (.error f) []
  /-- The query log refused to be told. -/
  | unheard (f : Failure) (hf : f.isForeign = true) (g : Failure)
      (hg : m (.reportError sql f values) (.error g)) :
      Reported m db what sql values (.error f) (.error g) [⟨.reportError sql f values, .error g⟩]
  /-- The settings, which say how much an error shows, could not be read. -/
  | unsettled (f : Failure) (hf : f.isForeign = true) (hdb : db.development = none) (g : Failure)
      (hg : m .settings (.error g)) :
      Reported m db what sql values (.error f) (.error g) [⟨.reportError sql f values, .ok ()⟩]
  | wrapped (f : Failure) (hf : f.isForeign = true) (revealing : Bool)
      (hdb : db.Reveals m revealing) :
      Reported m db what sql values (.error f)
        (.error (.error
          (.execution what.text (Database.causeOf f) (some sql) revealing .empty)))
        [⟨.reportError sql f values, .ok ()⟩]

/-- A statement goes as a story says, and then it is reported. -/
def RunStory (m : Manner) (db : Database) (what : Attempted) (sql : String) (values : Value)
    (story : Except Failure QueryResult → List Exchange → Prop) (r : Except Failure QueryResult)
    (t : List Exchange) : Prop :=
  ∃ x told reports, story x told ∧ Reported m db what sql values x r reports ∧ t = told ++ reports

/-- Running a statement where it is to run. `lack` says of which failures there can be no pool, and
`held` what a handle can be found to hold. -/
inductive StatementStory (lack : Failure → Prop) (held : Handle → HandleState → Prop)
    (sql : String) (values : Value) : Executor → Except Failure QueryResult → List Exchange → Prop
  | read {r : Except Failure QueryResult} {told : List Exchange} (hsql : Sql.isRead sql = true)
      (h : ReadStory lack sql values 2 r told) : StatementStory lack held sql values .pool r told
  | written {r : Except Failure QueryResult} {told : List Exchange} (hsql : Sql.isRead sql = false)
      (h : WriteStory lack sql values r told) : StatementStory lack held sql values .pool r told
  | within (h : Handle) (state : HandleState) (hstate : held h state)
      {r : Except Failure QueryResult} {told : List Exchange}
      (hr : HeldStory sql values state r told) :
      StatementStory lack held sql values (.transaction h) r told

/-- What a handle holds in a scene. -/
def Scene.Holds (s : Scene) (h : Handle) (state : HandleState) : Prop := state = s.handles h

section Reported

variable {m m' : Manner} {db : Database} {what : Attempted} {sql : String} {values : Value}
  {r r' : Except Failure QueryResult} {told : List Exchange}

/-- What errors show depends on what the settings may be. -/
theorem Database.Reveals.mono {revealing : Bool} (h : db.Reveals m revealing)
    (hm : ∀ a, m .settings a → m' .settings a) : db.Reveals m' revealing := by
  rcases h with hdb | ⟨hdb, settings, hsettings, hrevealing⟩
  · exact .inl hdb
  · exact .inr ⟨hdb, settings, hm _ hsettings, hrevealing⟩

/-- What is reported in a scene does not depend on it. -/
theorem Reported.of_settledIn {s : Scene}
    (h : Reported (m.settledIn s) db what sql values r r' told) :
    Reported m db what sql values r r' told := by
  cases h with
  | completed x milliseconds a ha =>
    exact .completed x milliseconds a (Manner.of_settledIn (fun _ _ => rfl) ha)
  | passed f hf => exact .passed f hf
  | unheard f hf g hg => exact .unheard f hf g (Manner.of_settledIn (fun _ _ => rfl) hg)
  | unsettled f hf hdb g hg =>
    exact .unsettled f hf hdb g (Manner.of_settledIn (fun _ _ => rfl) hg)
  | wrapped f hf revealing hdb =>
    exact .wrapped f hf revealing (hdb.mono fun _ => Manner.of_settledIn fun _ _ => rfl)

/-- A report is not about handles. -/
theorem Reported.not_isOnHandles (h : Reported m db what sql values r r' told) :
    ∀ x ∈ told, x.request.isOnHandles = false := by
  cases h <;> simp [Request.isOnHandles]

/-- A failure that is not reported is the outcome. -/
theorem Reported.of_own {f : Failure} (hf : f.isForeign = false)
    (h : Reported m db what sql values (.error f) r told) : r = .error f ∧ told = [] := by
  cases h with
  | passed => exact ⟨rfl, rfl⟩
  | unheard _ hforeign | unsettled _ hforeign | wrapped _ hforeign =>
    rw [hf] at hforeign
    cases hforeign

/-- Running a statement only asks the database, and pauses. -/
theorem StatementStory.isDriving {lack : Failure → Prop} {held : Handle → HandleState → Prop}
    {e : Executor} (h : StatementStory lack held sql values e r told) :
    ∀ x ∈ told, x.request.isDriving = true := by
  cases h with
  | read hsql h => exact h.isDriving
  | written hsql h => exact h.isDriving
  | within h state hstate hr => exact hr.isDriving

end Reported

namespace Action.Tells

variable {m : Manner} {place : Place} {db : Database} {what : Attempted} {sql : String}
  {values : Value}

/-- Whether faults are shown is said by the database or else by the settings. -/
theorem isDevelopment {β : Type} {f : Bool → Action β} {T : Except Failure β → List Exchange → Prop}
    (hfail : ∀ g, db.development = none → m .settings (.error g) → T (.error g) [])
    (hnext : ∀ revealing, db.Reveals m revealing → (f revealing).Tells m place T) :
    (db.isDevelopment >>= f).Tells m place T := by
  unfold Database.isDevelopment
  cases hdb : db.development with
  | some revealing => exact next (pure (hnext revealing (.inl hdb)))
  | none =>
    have hsettings : Action.settings.Tells m place fun r t => t = [] ∧ m .settings r :=
      quiet rfl fun a ha => ofOutcome ⟨rfl, ha⟩
    refine next (bind hsettings ?_ ?_)
    · rintro settings _ ⟨rfl, hsettings⟩
      exact pure (hnext settings.isDevelopment (.inr ⟨hdb, settings, hsettings, rfl⟩))
    · rintro g _ ⟨rfl, hg⟩
      exact hfail g hdb hg

/-- A failure of a statement is reported and wrapped, unless it is the library's own. -/
theorem mapFailure {f : Failure} (hhandled : f.handled = true) :
    (db.mapFailure what sql values f : Action QueryResult).Tells m place
      (Reported m db what sql values (.error f)) := by
  have hwrapped (hf : f.isForeign = true) :
      (Action.reportError sql f values >>= fun _ => db.isDevelopment >>= fun revealing =>
        Action.raise (.error (.execution what.text (Database.causeOf f) (some sql) revealing
          .empty)) : Action QueryResult).Tells m place
        (Reported m db what sql values (.error f)) := by
    have htold : (Action.reportError sql f values).Tells m place fun r t =>
        m (.reportError sql f values) r ∧ t = [⟨.reportError sql f values, r⟩] :=
      answered rfl fun a ha => ⟨ha, rfl⟩
    refine bind htold ?_ ?_
    · rintro _ _ ⟨-, rfl⟩
      refine isDevelopment ?_ ?_
      · exact fun g hdb hg => .unsettled f hf hdb g hg
      · exact fun revealing hdb => raise (.wrapped f hf revealing hdb)
    · rintro g _ ⟨hg, rfl⟩
      exact .unheard f hf g hg
  cases f with
  | error e => exact fail (.passed _ rfl)
  | fault f => exact hwrapped hhandled
  | refusal title issues => exact hwrapped rfl

/-- A statement is executed and then reported. -/
theorem runStatement {e : Executor} {story : Except Failure QueryResult → List Exchange → Prop}
    (h : (db.execute e sql values).Tells m place story) :
    (db.run e what sql values).Tells m place (RunStory m db what sql values story) := by
  unfold Database.run
  refine quiet rfl fun start _ => next (handling h ?_ ?_ ?_)
  · intro x t hx
    refine quiet rfl fun stop _ => next (answered rfl fun a ha => ?_)
    have hdone : RunStory m db what sql values story _ _ :=
      ⟨.ok x, t, _, hx, .completed x ((stop - start) * 1000.0) a ha, rfl⟩
    cases a with
    | error g => exact hdone
    | ok _ => exact pure hdone
  · intro f t hf hpassed
    refine ⟨_, t, [], hf, .passed f ?_, (List.append_nil t).symm⟩
    cases f with
    | error e => rfl
    | fault f => exact hpassed
    | refusal title issues => cases hpassed
  · intro f t hf hhandled
    refine (mapFailure hhandled).mono ?_
    intro r reports hr
    have hdone : RunStory m db what sql values story r (t ++ reports) :=
      ⟨_, t, reports, hf, hr, rfl⟩
    cases r with
    | ok x => cases hr
    | error g => exact hdone

/-- A statement goes as it does where it is to run. -/
theorem executeStatement (hengine : db.engine.Transacts) (e : Executor) (sql : String)
    (values : Value) {held : Handle → HandleState → Prop}
    (hheld : ∀ h state, m (.handleState h) state → held h state) :
    (db.execute e sql values).Tells m place
      (StatementStory (Pool.Missing m db.settings) held sql values e) := by
  cases e with
  | pool =>
    cases hsql : Sql.isRead sql with
    | true => exact (queryReading db.engine values hsql).mono fun _ _ => .read hsql
    | false => exact (queryWriting hengine values hsql).mono fun _ _ => .written hsql
  | transaction h =>
    refine Tells.mono (queryHeld (hheld h) sql values) ?_
    rintro r told ⟨state, hstate, hr⟩
    exact .within h state hstate hr

end Action.Tells

open Action.Tells in
/-- In a scene, a statement is run and reported with the handles as they are. -/
theorem Action.Always.runStatement {m : Manner} {place : Place} {s : Scene} {db : Database}
    (hengine : db.engine.Transacts) (e : Executor) (what : Attempted) (sql : String)
    (values : Value) :
    (db.run e what sql values).Always m place (fun r s' => ∃ told,
      RunStory m db what sql values
        (StatementStory (Pool.Missing m db.settings) s.Holds sql values e) r told
      ∧ (∀ x ∈ told, (m.settledIn s).Admits x) ∧ s' = s.tellAll told) s := by
  have hrun {m : Manner} {held : Handle → HandleState → Prop}
      (hheld : ∀ h state, m (.handleState h) state → held h state) :
      (db.run e what sql values).Tells m place (RunStory m db what sql values
        (StatementStory (Pool.Missing m db.settings) held sql values e)) :=
    Tells.runStatement (executeStatement hengine e sql values hheld)
  have htold := hrun fun h state => Manner.handleState_of_settledIn (m := m) (s := s) (h := h)
  have hnone := hrun (m := .any) fun _ _ => id
  refine (htold.admitted.always (hnone.mono ?_)).mono ?_
  · rintro r _ ⟨x, told, reports, hx, hreported, rfl⟩
    refine List.forall_mem_append.mpr ⟨fun y hy => ?_, hreported.not_isOnHandles⟩
    exact Request.not_isOnHandles_of_isDriving (hx.isDriving y hy)
  · rintro r _ ⟨_, ⟨⟨x, told, reports, hx, hreported, rfl⟩, hadmitted⟩, rfl⟩
    rw [Pool.missing_settledIn] at hx
    exact ⟨_, ⟨x, told, reports, hx, hreported.of_settledIn, rfl⟩, hadmitted, rfl⟩

end SqlComposer
