import SqlComposer.Execution.Transaction
import SqlComposer.Proofs.Statements

/-!
# Handles keep account of their connections

A handle checks a connection out when its transaction is begun and gives it back when the
transaction is committed or rolled back, and each of the requests that this takes can fail. What a
call on a handle can do is said once for each call (`Begun`, `Finished`, `HeldStory`). Every case
keeps the account (`Scene.Balanced`): the connections that were checked out are those that were
given back and the one that the handle holds, and so with transactions.
-/

set_option autoImplicit false

namespace SqlComposer

/-! ## What each call can do -/

section Calls

variable (m : Manner) (h : Handle) (s : Scene)

/-- What beginning a transaction can do. -/
inductive Begun : Except Failure Unit → Scene → Prop
  /-- The handle has one under way. -/
  | active (hactive : (s.handles h).isActive = true) (e : QueryError)
      (he : e.code = .transaction) : Begun (.error (.error e)) s
  /-- There is no pool. -/
  | poolless (hidle : (s.handles h).isActive = false) (f : Failure) : Begun (.error f) s
  /-- No connection could be checked out. -/
  | unconnected (hidle : (s.handles h).isActive = false) (f : Fault) :
      Begun (.error (.fault f)) (s.tell ⟨.connect, .error f⟩)
  /-- None could be begun on the connection, which was given back. -/
  | unbegun (hidle : (s.handles h).isActive = false) (c : Connection) (f : Fault)
      (b : Except Fault Unit) :
      Begun (b.mapError .fault >>= fun _ => .error (.fault f))
        (((s.tell ⟨.connect, .ok c⟩).tell ⟨.begin c, .error f⟩).tell ⟨.close c, b⟩)
  /-- It was begun, and the handle holds it with its connection. -/
  | started (hidle : (s.handles h).isActive = false) (c : Connection) (t : OpenTransaction)
      (start : Float) :
      Begun (.ok ())
        (((s.tell ⟨.connect, .ok c⟩).tell ⟨.begin c, .ok t⟩).hold h ⟨some c, some t, some start⟩)

/-- What ending the transaction can do. -/
inductive Finished (how : Ending) : Except Failure Unit → Scene → Prop
  /-- The handle has none under way. -/
  | idle (hidle : (s.handles h).isActive = false) (e : QueryError)
      (he : e.code = .transaction) : Finished how (.error (.error e)) s
  /-- The transaction was ended and its connection given back, each with or without success. -/
  | ended (c : Connection) (t : OpenTransaction) (start : Option Float)
      (hheld : s.handles h = ⟨some c, some t, start⟩) (a b : Except Fault Unit)
      (ha : m.Admits (how.exchange t a)) (hb : m.Admits ⟨.close c, b⟩) :
      Finished how (b.mapError .fault >>= fun _ => a.mapError .fault)
        (((s.tell (how.exchange t a)).hold h .idle).tell ⟨.close c, b⟩)

/-- Running a statement within the transaction of a handle that holds `state`. -/
inductive HeldStory (sql : String) (values : Value) (state : HandleState) :
    Except Failure QueryResult → List Exchange → Prop
  /-- The handle has no transaction under way. -/
  | idle (hidle : state.isActive = false) (e : QueryError) (he : e.code = .transaction) :
      HeldStory sql values state (.error (.error e)) []
  /-- The statement runs on the connection that the handle holds. -/
  | active (hactive : state.isActive = true) (c : Connection) (hc : state.connection = some c)
      {r : Except Failure QueryResult} {told : List Exchange}
      (hr : ExecutionStory sql values c r told) : HeldStory sql values state r told

end Calls

/-- A call is refused as an error about the transaction and leaves no trace. -/
def Refused {α : Type} (s : Scene) (r : Except Failure α) (s' : Scene) : Prop :=
  s' = s ∧ ∃ e, r = .error (.error e) ∧ e.code = .transaction

section Refusals

variable {m : Manner} {h : Handle} {s s' : Scene}

/-- A handle that is active refuses to begin. -/
theorem Begun.refused {r : Except Failure Unit} (hr : Begun h s r s')
    (hactive : (s.handles h).isActive = true) : Refused s r s' := by
  cases hr with
  | active _ e he => exact ⟨rfl, e, rfl, he⟩
  | poolless hidle | unconnected hidle | unbegun hidle | started hidle =>
    rw [hidle] at hactive
    cases hactive

/-- A handle that is idle refuses to finish. -/
theorem Finished.refused {how : Ending} {r : Except Failure Unit} (hr : Finished m h s how r s')
    (hidle : (s.handles h).isActive = false) : Refused s r s' := by
  cases hr with
  | idle _ e he => exact ⟨rfl, e, rfl, he⟩
  | ended c t start hheld a b ha hb =>
    rw [hheld] at hidle
    cases hidle

theorem Finished.held {how : Ending} {r : Except Failure Unit} (hr : Finished m h s how r s')
    (hactive : (s.handles h).isActive = true) :
    ∃ c t start a b, s.handles h = ⟨some c, some t, start⟩ ∧ m.Admits (how.exchange t a)
      ∧ m.Admits ⟨.close c, b⟩ ∧ r = (b.mapError .fault >>= fun _ => a.mapError .fault)
      ∧ s' = ((s.tell (how.exchange t a)).hold h .idle).tell ⟨.close c, b⟩ := by
  cases hr with
  | idle hidle e he =>
    rw [hidle] at hactive
    cases hactive
  | ended c t start hheld a b ha hb => exact ⟨c, t, start, a, b, hheld, ha, hb, rfl, rfl⟩

/-- A handle that is idle refuses a statement. -/
theorem HeldStory.refused {sql : String} {values : Value} {r : Except Failure QueryResult}
    {told : List Exchange} (hr : HeldStory sql values (s.handles h) r told)
    (hidle : (s.handles h).isActive = false) : Refused s r (s.tellAll told) := by
  cases hr with
  | idle _ e he => exact ⟨s.tellAll_nil, e, rfl, he⟩
  | active hactive =>
    rw [hidle] at hactive
    cases hactive

theorem HeldStory.isDriving {sql : String} {values : Value} {state : HandleState}
    {r : Except Failure QueryResult} {told : List Exchange}
    (hr : HeldStory sql values state r told) : ∀ x ∈ told, x.request.isDriving = true := by
  cases hr with
  | idle => exact fun _ hx => absurd hx List.not_mem_nil
  | active hactive c hc hr => exact hr.isDriving

end Refusals

open Action.Tells in
/-- What a statement within the transaction tells depends on what the handle is found to hold. -/
theorem Action.Tells.queryHeld {m : Manner} {place : Place} {h : Handle} {P : HandleState → Prop}
    (hP : ∀ state, m (.handleState h) state → P state) (sql : String) (values : Value) :
    (h.query sql values).Tells m place fun r told =>
      ∃ state, P state ∧ HeldStory sql values state r told := by
  unfold Handle.query
  refine traced fun elsewhere => ?_
  have hconnection : h.connection.Tells m elsewhere fun r told => told = [] ∧ ∃ state, P state
      ∧ (state.isActive = true ∧ (∃ c, r = .ok c ∧ state.connection = some c)
        ∨ state.isActive = false ∧ ∃ e, r = .error (.error e) ∧ e.code = .transaction) := by
    unfold Handle.connection
    refine quiet rfl fun state hstate => ?_
    obtain ⟨connection, begun, start⟩ := state
    rcases connection with _ | c
    · exact raise ⟨rfl, _, hP _ hstate, .inr ⟨rfl, _, rfl, rfl⟩⟩
    · rcases begun with _ | t
      · exact raise ⟨rfl, _, hP _ hstate, .inr ⟨rfl, _, rfl, rfl⟩⟩
      · exact pure ⟨rfl, _, hP _ hstate, .inl ⟨rfl, c, rfl, rfl⟩⟩
  refine bind hconnection ?_ ?_
  · rintro c _ ⟨rfl, state, hstate, ⟨hactive, _, ⟨⟩, hc⟩ | ⟨-, e, he, -⟩⟩
    · exact (executeOn c sql values).mono fun r told hr => ⟨state, hstate, .active hactive c hc hr⟩
    · cases he
  · rintro f _ ⟨rfl, state, hstate, ⟨-, c, hc, -⟩ | ⟨hidle, e, ⟨⟩, he⟩⟩
    · cases hc
    · exact ⟨state, hstate, .idle hidle e he⟩

namespace Action.Always

variable {α β : Type} {m : Manner} {place : Place} {s : Scene} {h : Handle}

theorem state {f : HandleState → Action β} {T : Except Failure β → Scene → Prop}
    (hnext : (f (s.handles h)).Always m place T s) : (h.state >>= f).Always m place T s :=
  next (ask fun _ _ => hnext)

theorem isActive {f : Bool → Action β} {T : Except Failure β → Scene → Prop}
    (hnext : (f (s.handles h).isActive).Always m place T s) :
    (h.isActive >>= f).Always m place T s :=
  next (state (pure hnext))

/-- How a handle begins. -/
theorem beginHandle (settings : DatabaseSettings) :
    (h.begin settings).Always m place (Begun h s) s := by
  unfold Handle.begin
  refine isActive ?_
  cases hactive : (s.handles h).isActive with
  | true => exact raised (.active hactive _ rfl)
  | false =>
    refine next ((connectPool settings).mono ?_)
    rintro _ _ ⟨_, hconnected, rfl⟩
    cases hconnected with
    | poolless f hf =>
      rw [Scene.tellAll_nil]
      exact .poolless hactive f
    | refused f => exact .unconnected hactive f
    | connected c =>
      refine outcome (begin ?_ ?_)
      · intro f _
        refine next (close ?_)
        rintro (g | ⟨⟩) _
        · exact .unbegun hactive _ f (.error g)
        · exact fail (.unbegun hactive _ f (.ok ()))
      · refine quiet rfl fun start => next (ask fun _ _ => ?_)
        exact log (.started hactive _ _ start)

theorem elapsed {state : HandleState} {f : Float → Action β}
    {T : Except Failure β → Scene → Prop} (hnext : ∀ seconds, (f seconds).Always m place T s) :
    (Handle.elapsed state >>= f).Always m place T s := by
  unfold Handle.elapsed
  refine next ?_
  split
  · exact pure (hnext _)
  · split
    · exact pure (hnext _)
    · exact quiet rfl fun _ => pure (hnext _)

/-- Giving the connection back leaves the handle idle, also if that fails. -/
theorem release {c : Connection} {t : OpenTransaction} {start : Option Float}
    (hheld : s.handles h = ⟨some c, some t, start⟩) :
    h.release.Always m place (fun r s' => ∃ b, m.Admits ⟨.close c, b⟩
      ∧ r = b.mapError .fault ∧ s' = (s.hold h .idle).tell ⟨.close c, b⟩) s := by
  unfold Handle.release
  refine state ?_
  rw [hheld]
  refine elapsed fun seconds => next (ask fun _ _ => ?_)
  refine next (close ?_)
  rintro (g | ⟨⟩) hb
  · exact ⟨.error g, hb, rfl, rfl⟩
  · exact log ⟨.ok (), hb, rfl, rfl⟩

/-- How a handle finishes, either way. -/
theorem finishHandle (how : Ending) :
    (how.finish h).Always m place (Finished m h s how) s := by
  have hfinish : ∃ verb done, how.finish h = h.finish verb done how.act := by
    cases how <;> exact ⟨_, _, rfl⟩
  obtain ⟨verb, done, hfinish⟩ := hfinish
  rw [hfinish]
  unfold Handle.finish
  refine state ?_
  cases hheld : s.handles h with
  | mk connection begun start =>
    rcases connection with _ | c
    · exact raise (.idle (by rw [hheld]; rfl) _ rfl)
    · rcases begun with _ | t
      · exact raise (.idle (by rw [hheld]; rfl) _ rfl)
      · have hended : (how.act t).Always m place (fun r s' => ∃ a, m.Admits (how.exchange t a)
            ∧ r = a.mapError .fault ∧ s' = s.tell (how.exchange t a)) s :=
          endTransaction fun a ha => ⟨a, ha, rfl, rfl⟩
        refine next (ending hended ?_)
        rintro _ _ ⟨a, ha, rfl, rfl⟩
        refine mono (release hheld) ?_
        rintro _ _ ⟨b, hb, rfl, rfl⟩
        have hdone := Finished.ended c t start hheld a b ha hb
        cases b with
        | error g => exact hdone
        | ok _ =>
          cases a with
          | error f => exact hdone
          | ok _ => exact log hdone

/-- A statement within the transaction is executed on the connection of the handle, or refused
because there is no transaction. -/
theorem queryHeld (sql : String) (values : Value) :
    (h.query sql values).Always m place (fun r s' => ∃ told,
      HeldStory sql values (s.handles h) r told ∧ s' = s.tellAll told) s := by
  have hquery {m : Manner} {P : HandleState → Prop}
      (hP : ∀ state, m (.handleState h) state → P state) :
      (h.query sql values).Tells m place fun r told =>
        ∃ state, P state ∧ HeldStory sql values state r told :=
    Tells.queryHeld hP sql values
  refine (Tells.always (hquery fun state => Manner.handleState_of_settledIn) ?_).mono ?_
  · refine (hquery (P := fun _ => True) fun _ _ => trivial).mono ?_
    rintro r told ⟨state, -, hr⟩ x hx
    exact Request.not_isOnHandles_of_isDriving (hr.isDriving x hx)
  · rintro r s' ⟨told, ⟨state, rfl, hr⟩, hs⟩
    exact ⟨told, hr, hs⟩

end Action.Always

/-! ## The account -/

/-- A handle holds a connection exactly if it holds a transaction. The connections that were
checked out are those that were given back and the one that the handle holds; the transactions
that were begun are those that were ended and the one that it holds. -/
structure Scene.Balanced (s : Scene) (h : Handle) : Prop where
  paired : (s.handles h).connection.isSome = (s.handles h).begun.isSome
  connections : s.checkedOut = s.closed ++ (s.handles h).connection.toList
  transactions : s.begun = s.ended ++ (s.handles h).begun.toList

namespace Scene.Balanced

variable {m : Manner} {h : Handle} {s s' : Scene}

/-- A balanced handle that is idle holds nothing. -/
theorem idle (hs : s.Balanced h) (hidle : (s.handles h).isActive = false) :
    (s.handles h).connection = none ∧ (s.handles h).begun = none := by
  have hpaired := hs.paired
  unfold HandleState.isActive at hidle
  cases hc : (s.handles h).connection with
  | none =>
    rw [hc] at hpaired
    exact ⟨rfl, Option.isSome_eq_false_iff.mp hpaired.symm |> Option.isNone_iff_eq_none.mp⟩
  | some c =>
    rw [hc] at hpaired hidle
    rw [← hpaired] at hidle
    cases hidle

/-- An idle handle holds neither a connection nor a transaction. -/
theorem of_idle (hconnections : s.checkedOut = s.closed) (htransactions : s.begun = s.ended)
    (hheld : (s.handles h).connection = none ∧ (s.handles h).begun = none) : s.Balanced h := by
  obtain ⟨hc, ht⟩ := hheld
  refine ⟨by rw [hc, ht]; rfl, ?_, ?_⟩
  · rw [hc, hconnections, Option.toList_none, List.append_nil]
  · rw [ht, htransactions, Option.toList_none, List.append_nil]

/-- When a balanced handle is idle, all that was taken has been given back and all that was begun
has ended. -/
theorem settled (hs : s.Balanced h) (hidle : (s.handles h).isActive = false) :
    s.checkedOut = s.closed ∧ s.begun = s.ended := by
  obtain ⟨hc, ht⟩ := hs.idle hidle
  have hconnections := hs.connections
  have htransactions := hs.transactions
  rw [hc, Option.toList_none, List.append_nil] at hconnections
  rw [ht, Option.toList_none, List.append_nil] at htransactions
  exact ⟨hconnections, htransactions⟩

theorem begin {r : Except Failure Unit} (hs : s.Balanced h) (hr : Begun h s r s') :
    s'.Balanced h := by
  cases hr with
  | active hactive e he => exact hs
  | poolless hidle f => exact hs
  | unconnected hidle f =>
    obtain ⟨hconnections, htransactions⟩ := hs.settled hidle
    refine of_idle ?_ ?_ (hs.idle hidle)
    · simpa [Exchange.checkedOut?, Exchange.closed?] using hconnections
    · simpa [Exchange.begun?, Exchange.ended?] using htransactions
  | unbegun hidle c f b =>
    obtain ⟨hconnections, htransactions⟩ := hs.settled hidle
    refine of_idle ?_ ?_ (hs.idle hidle)
    · simpa [Exchange.checkedOut?, Exchange.closed?] using hconnections
    · simpa [Exchange.begun?, Exchange.ended?] using htransactions
  | started hidle c t start =>
    obtain ⟨hconnections, htransactions⟩ := hs.settled hidle
    refine ⟨by simp, ?_, ?_⟩
    · simpa [Exchange.checkedOut?, Exchange.closed?] using hconnections
    · simpa [Exchange.begun?, Exchange.ended?] using htransactions

theorem finish {how : Ending} {r : Except Failure Unit} (hs : s.Balanced h)
    (hr : Finished m h s how r s') : s'.Balanced h := by
  cases hr with
  | idle hidle e he => exact hs
  | ended c t start hheld a b ha hb =>
    have hconnections := hs.connections
    have htransactions := hs.transactions
    rw [hheld] at hconnections htransactions
    refine of_idle ?_ ?_ (by simp [HandleState.idle])
    · cases how <;>
        simpa [Ending.exchange, Exchange.checkedOut?, Exchange.closed?] using hconnections
    · cases how <;>
        simpa [Ending.exchange, Exchange.begun?, Exchange.ended?] using htransactions

theorem query {sql : String} {values : Value} {r : Except Failure QueryResult}
    {told : List Exchange} (hs : s.Balanced h) (hr : HeldStory sql values (s.handles h) r told) :
    (s.tellAll told).Balanced h := by
  cases hr with
  | idle hidle e he => rwa [Scene.tellAll_nil]
  | active hactive c hc hr =>
    cases hr with
    | unbound f hf => rwa [Scene.tellAll_nil]
    | executed b hb a =>
      rw [Scene.tellAll_cons, Scene.tellAll_nil]
      refine ⟨hs.paired, ?_, ?_⟩
      · simpa [Exchange.checkedOut?, Exchange.closed?] using hs.connections
      · simpa [Exchange.begun?, Exchange.ended?] using hs.transactions

end Scene.Balanced

/-! ## Calls one after another -/

/-- A call on a handle. -/
inductive HandleCall where
  | begin
  | commit
  | rollback
  | query (sql : String) (values : Value)

namespace HandleCall

/-- What a call yields. -/
@[reducible] def Result : HandleCall → Type
  | .query .. => QueryResult
  | _ => Unit

/-- Makes a call. -/
def act (settings : DatabaseSettings) (h : Handle) : (call : HandleCall) → Action call.Result
  | .begin => h.begin settings
  | .commit => h.commit
  | .rollback => h.rollback
  | .query sql values => h.query sql values

/-- Whether a call is out of place while the handle holds this: beginning in a transaction, or
anything else outside one. -/
def isMisplaced (state : HandleState) : HandleCall → Bool
  | .begin => state.isActive
  | _ => !state.isActive

variable {m : Manner} {h : Handle} {s : Scene}

/-- A call that is out of place is refused and leaves no trace, and any call keeps the account. -/
theorem always_act (settings : DatabaseSettings) (place : Place) (hs : s.Balanced h)
    (call : HandleCall) : (call.act settings h).Always m place (fun r s' => s'.Balanced h
      ∧ (call.isMisplaced (s.handles h) = true → Refused s r s')) s := by
  have hfinish (how : Ending) : (how.finish h).Always m place (fun r s' => s'.Balanced h
      ∧ ((!(s.handles h).isActive) = true → Refused s r s')) s := by
    refine (Action.Always.finishHandle how).mono ?_
    intro r s' hr
    exact ⟨hs.finish hr, fun hidle => hr.refused (by simpa using hidle)⟩
  have hquery (sql : String) (values : Value) : (h.query sql values).Always m place
      (fun r s' => s'.Balanced h ∧ ((!(s.handles h).isActive) = true → Refused s r s')) s := by
    refine Action.Always.mono (Action.Always.queryHeld sql values) ?_
    rintro r _ ⟨told, hr, rfl⟩
    exact ⟨hs.query hr, fun hidle => hr.refused (by simpa using hidle)⟩
  cases call with
  | begin =>
    refine (Action.Always.beginHandle settings).mono ?_
    intro r s' hr
    exact ⟨hs.begin hr, fun hactive => hr.refused hactive⟩
  | commit => exact hfinish .commit
  | rollback => exact hfinish .rollback
  | query sql values =>
    rw [act]
    exact hquery sql values

end HandleCall

/-- The scene and the surroundings after calls on a handle, each made at its place, whatever
becomes of those before it. -/
def Surroundings.afterCalls {σ : Type} (env : Surroundings σ) (settings : DatabaseSettings)
    (h : Handle) : List (Place × HandleCall) → Scene × σ → Scene × σ
  | [], now => now
  | (place, call) :: calls, now =>
    env.afterCalls settings h calls (env.perform place (call.act settings h) now).2

theorem Scene.balanced_start (h : Handle) : Scene.start.Balanced h := ⟨rfl, rfl, rfl⟩

theorem Scene.numbered_start : Scene.start.Numbered := ⟨rfl, rfl⟩

/-- Calls keep the account and the numbers. -/
theorem Surroundings.balanced_afterCalls {σ : Type} (env : Surroundings σ)
    (settings : DatabaseSettings) (h : Handle) (calls : List (Place × HandleCall))
    {now : Scene × σ} (hbalanced : now.1.Balanced h) (hnumbered : now.1.Numbered) :
    (env.afterCalls settings h calls now).1.Balanced h
      ∧ (env.afterCalls settings h calls now).1.Numbered := by
  -- each call keeps the account from whatever scene the calls before it have left
  induction calls generalizing now with
  | nil => exact ⟨hbalanced, hnumbered⟩
  | cons first calls ih =>
    obtain ⟨place, call⟩ := first
    have hcall := Action.always_perform env.keeps_any
      (call.always_act settings place hbalanced) now.2
    exact ih hcall.1 (env.numbered_run _ now hnumbered)

/-- After any calls on a handle, in any surroundings: it holds a connection exactly if it holds a
transaction; the connections that were checked out are one more than those that were given back
if it is active, and as many if it is not; no connection is given back twice and no transaction is
ended twice; and a call that is out of place is refused as an error about the transaction and
leaves no trace. -/
theorem handle_keeps_account {σ : Type} (env : Surroundings σ) (settings : DatabaseSettings)
    (h : Handle) (calls : List (Place × HandleCall)) (w : σ) :
    let now := env.afterCalls settings h calls (.start, w)
    let state := now.1.handles h
    state.connection.isSome = state.begun.isSome
      ∧ now.1.checkedOut.length = now.1.closed.length + (if state.isActive then 1 else 0)
      ∧ now.1.closed.Nodup ∧ now.1.closed ⊆ now.1.checkedOut
      ∧ now.1.ended.Nodup ∧ now.1.ended ⊆ now.1.begun
      ∧ ∀ place (call : HandleCall), call.isMisplaced state = true →
        (env.perform place (call.act settings h) now).2.1 = now.1
          ∧ ∃ e, (env.perform place (call.act settings h) now).1 = .error (.error e)
            ∧ e.code = .transaction := by
  intro now state
  obtain ⟨hbalanced, hnumbered⟩ : now.1.Balanced h ∧ now.1.Numbered :=
    env.balanced_afterCalls settings h calls (Scene.balanced_start h) Scene.numbered_start
  obtain ⟨hconnections, htransactions⟩ := hnumbered.nodup
  have hpaired := hbalanced.paired
  rw [hbalanced.connections] at hconnections
  rw [hbalanced.transactions] at htransactions
  refine ⟨hbalanced.paired, ?_, hconnections.of_append_left, ?_, htransactions.of_append_left,
    ?_, ?_⟩
  · rw [hbalanced.connections, List.length_append, HandleState.isActive, ← hbalanced.paired,
      Bool.and_self]
    cases state.connection <;> rfl
  · rw [hbalanced.connections]
    exact List.subset_append_left _ _
  · rw [hbalanced.transactions]
    exact List.subset_append_left _ _
  · intro place call hmisplaced
    have hcall := Action.always_perform env.keeps_any
      (call.always_act settings place hbalanced) now.2
    exact hcall.2 hmisplaced

end SqlComposer
