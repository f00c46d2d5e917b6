import SqlComposer.Execution.Transaction
import SqlComposer.Proofs.Runs

/-!
# What a statement does to the database

Before a statement is executed there has to be a pool, a connection and a bound statement. Each
can be missing, and each in a way of its own: without a pool or without a bound statement the
database is not reached at all. What each part tells is a story (`ConnectStory`, `ExecutionStory`),
which is read off its runs once and holds in every scene too.

A statement that does not only read, which can be told from its beginning, is executed in a
transaction of its own. That is entered and left by the engine, of which no more is known than
`Engine.Transacts` says: a transaction is begun first, and it is committed or rolled back in the
end, as the engine is told. What else it does about a connection on which something has failed is
its own affair. `WriteStory` follows a statement through all that.
-/

set_option autoImplicit false

namespace SqlComposer

namespace Sql

open SqlComposer.Text

/-- Whether a text begins in a way in which no statement that only reads goes on. -/
def beginsChange (sql : String) : Bool :=
  match sql.toList with
  | [] => false
  | c :: cs => !isBlank c && c != '(' && readingWords.all fun word =>
      !(word.toList.zip (c :: cs)).all fun p => sameFolded p.1 p.2

/-- A word that does not agree with the beginning of a text is not found there. -/
theorem afterFolded?_of_mismatch {word cs : List Char} (rest : List Char)
    (h : ((word.zip cs).all fun p => sameFolded p.1 p.2) = false) :
    afterFolded? word (cs ++ rest) = none := by
  induction word generalizing cs with
  | nil => simp at h
  | cons w word ih =>
    cases cs with
    | nil => simp at h
    | cons c cs =>
      cases hc : sameFolded w c with
      | false => simp [afterFolded?, hc]
      | true =>
        have hrest : ((word.zip cs).all fun p => sameFolded p.1 p.2) = false := by
          simpa [hc] using h
        simp [afterFolded?, hc, ih hrest]

/-- Whether a statement only reads can be told from its beginning. -/
theorem isRead_of_beginsChange {sql : String} (rest : String) (h : beginsChange sql = true) :
    isRead (sql ++ rest) = false := by
  unfold beginsChange at h
  cases hsql : sql.toList with
  | nil => simp [hsql] at h
  | cons c cs =>
    simp only [hsql, Bool.and_eq_true, Bool.not_eq_true', bne_iff_ne, ne_eq, List.all_eq_true] at h
    obtain ⟨⟨hblank, hparen⟩, hwords⟩ := h
    have hopening : afterOpening ((c :: cs) ++ rest.toList) = (c :: cs) ++ rest.toList := by
      simp only [afterOpening, List.cons_append, List.dropWhile_cons, hblank]
      split
      · rename_i hcs
        exact absurd (List.cons.inj hcs).1 hparen
      · rfl
    unfold isRead
    rw [String.toList_append, hsql, hopening, List.any_eq_false]
    intro word hword
    rw [startsWord, afterFolded?_of_mismatch rest.toList (hwords word hword)]
    exact Bool.false_ne_true

end Sql

/-! ## Transactions and their ends -/

/-- The two ways to end a transaction. -/
inductive Ending where
  | commit
  | rollback

namespace Ending

/-- Ends a transaction. -/
def act : Ending → OpenTransaction → Action Unit
  | .commit => Action.commit
  | .rollback => Action.rollback

/-- The request to end a transaction, with its answer. -/
def exchange : Ending → OpenTransaction → Except Fault Unit → Exchange
  | .commit, t, a => ⟨.commit t, a⟩
  | .rollback, t, a => ⟨.rollback t, a⟩

/-- Ends the transaction of a handle. -/
def finish : Ending → Handle → Action Unit
  | .commit, h => h.commit
  | .rollback, h => h.rollback

/-- How the transaction of some work is to be ended, given the failure of the work. -/
def upon : Option Failure → Ending
  | none => .commit
  | some _ => .rollback

/-- How the transaction of an execution is to be ended. -/
def after : Except Failure QueryResult → Ending
  | .ok _ => .commit
  | .error _ => .rollback

/-- The transaction if it is still open when ending it has failed: it can only be rolled back. -/
def leftOpen : Ending → OpenTransaction → Option OpenTransaction
  | .commit, t => some t
  | .rollback, _ => none

end Ending

/-! ## Faults that stand -/

/-- The fault that the database raised. -/
def Exchange.fault? : Exchange → Option Fault
  | ⟨.connect, .error f⟩ => some f
  | ⟨.begin _, .error f⟩ => some f
  | ⟨.execute .., .error f⟩ => some f
  | ⟨.commit _, .error f⟩ => some f
  | ⟨.rollback _, .error f⟩ => some f
  | ⟨.close _, .error f⟩ => some f
  | _ => none

/-- The fault that stands after an exchange. A pause comes before another attempt, which is not
charged with the faults of those before it. -/
def Exchange.standing (before : Option Fault) : Exchange → Option Fault
  | ⟨.sleep _, _⟩ => none
  | x => x.fault?.or before

/-- The fault that stands at the end of a story. -/
def standingFault? (told : List Exchange) : Option Fault := told.foldl Exchange.standing none

/-- A fault that stands at the end of what is told stands whatever was told before. -/
theorem standingFault?_append {told rest : List Exchange} {f : Fault}
    (h : standingFault? rest = some f) : standingFault? (told ++ rest) = some f := by
  have hstep (x : Exchange) : (∀ before, Exchange.standing before x = none)
      ∨ ∀ before, Exchange.standing before x = x.fault?.or before := by
    obtain ⟨request, answer⟩ := x
    cases request <;> first | exact .inr fun _ => rfl | exact .inl fun _ => rfl
  have hfrom {before after : Option Fault} (h : rest.foldl Exchange.standing before = some f)
      (hle : ∀ g, before = some g → after = some g) :
      rest.foldl Exchange.standing after = some f := by
    clear * - hstep h hle
    induction rest generalizing before after with
    | nil => exact hle f h
    | cons x rest ih =>
      refine ih h ?_
      rcases hstep x with hnone | hor
      · simp [hnone]
      · intro g
        rw [hor, hor, Option.or_eq_some_iff, Option.or_eq_some_iff]
        exact Or.imp_right (And.imp_right (hle g))
  rw [standingFault?, List.foldl_append]
  exact hfrom h fun _ hg => nomatch hg

/-! ## Stories -/

/-- There is no pool, and none can be made from the settings. -/
def Pool.Missing (m : Manner) (settings : DatabaseSettings) (f : Failure) : Prop :=
  m .poolExists false ∧ Pool.usable settings = .error f

/-- Whether there is a pool does not depend on the scene. -/
theorem Pool.missing_settledIn (m : Manner) (s : Scene) (settings : DatabaseSettings) :
    Pool.Missing (m.settledIn s) settings = Pool.Missing m settings := by
  funext f
  refine propext (and_congr_left' ?_)
  exact ⟨Manner.of_settledIn fun _ _ => rfl, fun h => ⟨s, false, rfl, h, rfl⟩⟩

/-- Settings that do not do for a pool are an error, and no rejection of a statement. -/
theorem Pool.usable_error {settings : DatabaseSettings} {f : Failure}
    (h : Pool.usable settings = .error f) : ∃ e, f = .error e ∧ e.code.isValidation = false := by
  unfold Pool.usable at h
  cases hrequired : settings.require with
  | error g =>
    rw [hrequired] at h
    cases h
    unfold DatabaseSettings.require at hrequired
    split at hrequired
    · cases hrequired
    · cases hrequired
      exact ⟨_, rfl, rfl⟩
  | ok required =>
    rw [hrequired] at h
    cases hdriver : driverFault? required.driver with
    | none =>
      simp [hdriver, bind, Except.bind] at h
    | some fault =>
      simp only [hdriver, bind, Except.bind] at h
      cases h
      exact ⟨_, rfl, rfl⟩

section Stories

variable (lack : Failure → Prop) (sql : String) (values : Value)

/-- Checking out a connection of the pool. `lack` says of which failures there can be no pool. -/
inductive ConnectStory : Except Failure Connection → List Exchange → Prop
  | poolless (f : Failure) (h : lack f) : ConnectStory (.error f) []
  | refused (f : Fault) : ConnectStory (.error (.fault f)) [⟨.connect, .error f⟩]
  | connected (c : Connection) : ConnectStory (.ok c) [⟨.connect, .ok c⟩]

/-- Executing a statement on a connection. -/
inductive ExecutionStory (c : Connection) : Except Failure QueryResult → List Exchange → Prop
  /-- The values do not fit the statement. -/
  | unbound (f : Failure) (hf : Sql.bindValues sql values = .error f) :
      ExecutionStory c (.error f) []
  | executed (b : Sql.BoundStatement) (hb : Sql.bindValues sql values = .ok b)
      (a : Except Fault Reply) :
      ExecutionStory c (a.mapError .fault >>= fun reply => .ok reply.result) [⟨.execute c b, a⟩]

/-- What may be done about a connection on which something has failed: a transaction that is open
on it is rolled back, and it is given back. -/
inductive Abandoned (c : Connection) : Option OpenTransaction → List Exchange → Prop
  | kept (left : Option OpenTransaction) : Abandoned c left []
  | closed (left : Option OpenTransaction) (b : Except Fault Unit) :
      Abandoned c left [⟨.close c, b⟩]
  | rolledBack (t : OpenTransaction) (a : Except Fault Unit) {rest : List Exchange}
      (h : Abandoned c none rest) : Abandoned c (some t) (⟨.rollback t, a⟩ :: rest)

/-- Entering a transaction. -/
inductive EnterStory : Except Failure TransactionScope → List Exchange → Prop
  | unconnected (f : Fault) : EnterStory (.error (.fault f)) [⟨.connect, .error f⟩]
  /-- No transaction could be begun on the connection. The fault that came last counts. -/
  | unbegun (c : Connection) (f : Fault) {rest : List Exchange} (h : Abandoned c none rest)
      (g : Fault) (hg : standingFault? (⟨.begin c, .error f⟩ :: rest) = some g) :
      EnterStory (.error (.fault g)) (⟨.connect, .ok c⟩ :: ⟨.begin c, .error f⟩ :: rest)
  | entered (c : Connection) (t : OpenTransaction) :
      EnterStory (.ok ⟨c, t⟩) [⟨.connect, .ok c⟩, ⟨.begin c, .ok t⟩]

/-- Leaving a transaction, to be ended in one of the two ways. -/
inductive LeaveStory (c : Connection) (t : OpenTransaction) (how : Ending) :
    Except Failure Unit → List Exchange → Prop
  | ended (b : Except Fault Unit) :
      LeaveStory c t how (b.mapError .fault) [how.exchange t (.ok ()), ⟨.close c, b⟩]
  /-- The transaction could not be ended. The fault that came last counts. -/
  | unended (f : Fault) {rest : List Exchange} (h : Abandoned c (how.leftOpen t) rest) (g : Fault)
      (hg : standingFault? (how.exchange t (.error f) :: rest) = some g) :
      LeaveStory c t how (.error (.fault g)) (how.exchange t (.error f) :: rest)

/-- Executing a statement in a transaction of its own. -/
inductive WriteStory : Except Failure QueryResult → List Exchange → Prop
  | poolless (f : Failure) (h : lack f) : WriteStory (.error f) []
  | unentered (f : Failure) (told : List Exchange) (h : EnterStory (.error f) told) :
      WriteStory (.error f) told
  | left (c : Connection) (t : OpenTransaction) (x : Except Failure QueryResult)
      (told : List Exchange) (h : ExecutionStory sql values c x told) (r : Except Failure Unit)
      (rest : List Exchange) (hr : LeaveStory c t (.after x) r rest) :
      WriteStory (r >>= fun _ => x)
        (⟨.connect, .ok c⟩ :: ⟨.begin c, .ok t⟩ :: (told ++ rest))

end Stories

/-- What an engine is relied on for. To enter is to check out a connection and to begin a
transaction on it. To leave is to commit the transaction if the work in it has not failed, or to
roll it back if it has, and to give the connection back. When one of these fails, the rest may be
done or not, and the last fault is what the engine fails with. -/
structure Engine.Transacts (e : Engine) : Prop where
  enters : ∀ place, e.enter.Tells .any place EnterStory
  leaves : ∀ place scope failure, (e.leave scope failure).Tells .any place
    (LeaveStory scope.connection scope.transaction (.upon failure))

/-! ## What is not told -/

/-- Whether a request is one to the database or a pause. -/
def Request.isDriving : Request → Bool
  | .connect | .begin _ | .execute .. | .commit _ | .rollback _ | .close _ | .sleep _ => true
  | _ => false

/-- No request to the database is about a handle. -/
theorem Request.not_isOnHandles_of_isDriving {r : Request} (h : r.isDriving = true) :
    r.isOnHandles = false := by
  cases r <;> first | rfl | exact Bool.noConfusion h

section Driving

variable {lack : Failure → Prop} {sql : String} {values : Value} {c : Connection}
  {t : OpenTransaction} {told : List Exchange}

/-- Checking out a connection only asks the database. -/
theorem ConnectStory.isDriving {r : Except Failure Connection} (h : ConnectStory lack r told) :
    ∀ x ∈ told, x.request.isDriving = true := by
  cases h <;> simp [Request.isDriving]

/-- So does executing a statement. -/
theorem ExecutionStory.isDriving {r : Except Failure QueryResult}
    (h : ExecutionStory sql values c r told) : ∀ x ∈ told, x.request.isDriving = true := by
  cases h <;> simp [Request.isDriving]

/-- So does giving a connection up. -/
theorem Abandoned.isDriving {left : Option OpenTransaction} (h : Abandoned c left told) :
    ∀ x ∈ told, x.request.isDriving = true := by
  induction h with
  | kept => simp
  | closed => simp [Request.isDriving]
  | rolledBack t a h ih => exact List.forall_mem_cons.mpr ⟨rfl, ih⟩

/-- So does entering a transaction. -/
theorem EnterStory.isDriving {r : Except Failure TransactionScope} (h : EnterStory r told) :
    ∀ x ∈ told, x.request.isDriving = true := by
  cases h with
  | unconnected | entered => simp [Request.isDriving]
  | unbegun c f h =>
    exact List.forall_mem_cons.mpr ⟨rfl, List.forall_mem_cons.mpr ⟨rfl, h.isDriving⟩⟩

/-- So does leaving a transaction. -/
theorem LeaveStory.isDriving {how : Ending} {r : Except Failure Unit}
    (h : LeaveStory c t how r told) : ∀ x ∈ told, x.request.isDriving = true := by
  have hend (a : Except Fault Unit) : (how.exchange t a).request.isDriving = true := by
    cases how <;> rfl
  cases h with
  | ended b => exact List.forall_mem_cons.mpr ⟨hend _, by simp [Request.isDriving]⟩
  | unended f h => exact List.forall_mem_cons.mpr ⟨hend _, h.isDriving⟩

/-- So does writing from the first of these to the last. -/
theorem WriteStory.isDriving {r : Except Failure QueryResult}
    (h : WriteStory lack sql values r told) : ∀ x ∈ told, x.request.isDriving = true := by
  cases h with
  | poolless => simp
  | unentered f told h => exact h.isDriving
  | left c t x told h r rest hr =>
    refine List.forall_mem_cons.mpr ⟨rfl, List.forall_mem_cons.mpr ⟨rfl, ?_⟩⟩
    exact List.forall_mem_append.mpr ⟨h.isDriving, hr.isDriving⟩

end Driving

/-! ## How the stories come about -/

namespace Action.Tells

variable {m : Manner} {place : Place}

/-- Making a pool tells nothing, and it fails only for want of settings. -/
theorem makePool (settings : DatabaseSettings) :
    (Pool.make settings).Tells m place fun r t => t = []
      ∧ ∀ f, r = .error f → Pool.usable settings = .error f := by
  unfold Pool.make
  refine bind (Q := fun r t => t = [] ∧ r = Pool.usable settings) (raising ⟨rfl, rfl⟩) ?_ ?_
  · rintro config _ ⟨rfl, -⟩
    exact silent (log ⟨rfl, rfl⟩) (pure ⟨rfl, nofun⟩)
  · rintro f _ ⟨rfl, hf⟩
    refine ⟨rfl, ?_⟩
    rintro _ ⟨⟩
    exact hf.symm

/-- Making the pool tells nothing, and it fails only where there can be no pool. -/
theorem ensurePool (settings : DatabaseSettings) :
    (Pool.ensure settings).Tells m place fun r t => t = []
      ∧ ∀ f, r = .error f → Pool.Missing m settings f := by
  unfold Pool.ensure
  refine quiet rfl fun there hthere => ?_
  cases there with
  | true => exact pure ⟨rfl, nofun⟩
  | false =>
    refine bind (makePool settings) ?_ ?_
    · rintro pool _ ⟨rfl, -⟩
      exact ask fun _ _ => ⟨rfl, nofun⟩
    · rintro f _ ⟨rfl, hf⟩
      refine ⟨rfl, ?_⟩
      rintro _ ⟨⟩
      exact ⟨hthere, hf f rfl⟩

theorem connectPool (settings : DatabaseSettings) :
    (Pool.connect settings).Tells m place (ConnectStory (Pool.Missing m settings)) := by
  refine bind (ensurePool settings) ?_ ?_
  · rintro _ _ ⟨rfl, -⟩
    refine answered rfl fun a _ => ?_
    cases a with
    | error f => exact .refused f
    | ok c => exact .connected c
  · rintro f _ ⟨rfl, hf⟩
    exact .poolless f (hf f rfl)

/-- Executing a statement is told by the story of an execution. -/
theorem executeOn (c : Connection) (sql : String) (values : Value) :
    (SqlComposer.executeOn c sql values).Tells m place (ExecutionStory sql values c) := by
  unfold SqlComposer.executeOn
  refine bind (Q := fun r t => t = [] ∧ r = Sql.bindValues sql values) (raising ⟨rfl, rfl⟩) ?_ ?_
  · rintro b _ ⟨rfl, hb⟩
    refine next (answered rfl fun a _ => ?_)
    have hstory := ExecutionStory.executed (c := c) b hb.symm a
    cases a with
    | error f => exact hstory
    | ok reply => exact pure hstory
  · rintro f _ ⟨rfl, hf⟩
    exact .unbound f hf.symm

/-- Logging how an execution went changes nothing about it. -/
theorem logged {operation countName : String} {count : QueryResult → Int}
    {execution : Action QueryResult} {Q : Except Failure QueryResult → List Exchange → Prop}
    (h : execution.Tells m place Q) :
    (SqlComposer.logged operation countName count execution).Tells m place Q := by
  unfold SqlComposer.logged
  refine quiet rfl fun start _ => ?_
  refine bind (Q := Q) (handling h ?_ ?_ ?_) ?_ ?_
  · exact fun _ _ hr => hr
  · exact fun _ _ hr _ => hr
  · intro f t hr _
    refine quiet rfl fun now _ => silent (log ⟨rfl, rfl⟩) (fail ?_)
    rwa [List.append_nil]
  · intro x t hr
    refine quiet rfl fun now _ => silent (log ⟨rfl, rfl⟩) (pure ?_)
    rwa [List.append_nil]
  · exact fun _ _ hr => hr

/-- Leaving a transaction goes before the outcome of the work in it, and a failure to leave it
counts. -/
theorem leave {α : Type} {e : Engine} (he : e.Transacts) (scope : TransactionScope)
    (failure : Option Failure) (x : Except Failure α)
    {T : Except Failure α → List Exchange → Prop}
    (hT : ∀ r rest, LeaveStory scope.connection scope.transaction (.upon failure) r rest →
      T (r >>= fun _ => x) rest) :
    (e.leave scope failure >>= fun _ => Action.ofOutcome x).Tells m place T := by
  refine bind (ofAny (he.leaves place scope failure)) ?_ ?_
  · intro _ rest hr
    refine ofOutcome ?_
    rw [List.append_nil]
    exact hT _ rest hr
  · exact fun f rest hr => hT _ rest hr

/-- A statement in a transaction of its own is told by the story of writing. -/
theorem executeCommitted {e : Engine} (he : e.Transacts) (sql : String) (values : Value) :
    (e.executeCommitted sql values).Tells m place
      (WriteStory (Pool.Missing m e.settings) sql values) := by
  unfold Engine.executeCommitted Engine.transacting
  refine bind (ensurePool e.settings) ?_ ?_
  · rintro _ _ ⟨rfl, -⟩
    refine bind (ofAny (he.enters place)) ?_ ?_
    · rintro scope entry (_ | _ | ⟨c, t⟩)
      refine outcome ((executeOn c sql values).mono ?_)
      intro x told hx
      cases x with
      | ok y => exact leave he ⟨c, t⟩ none (.ok y) fun r rest hr => .left c t _ told hx r rest hr
      | error f =>
        exact leave he ⟨c, t⟩ (some f) (.error f) fun r rest hr => .left c t _ told hx r rest hr
    · exact fun f entry h => .unentered f entry h
  · rintro f _ ⟨rfl, hf⟩
    exact .poolless f (hf f rfl)

/-- A statement that may write is executed in a transaction of its own. -/
theorem queryWriting {e : Engine} (he : e.Transacts) {sql : String} (values : Value)
    (hsql : Sql.isRead sql = false) :
    (e.query sql values).Tells m place (WriteStory (Pool.Missing m e.settings) sql values) := by
  unfold Engine.query
  refine traced fun elsewhere => ?_
  rw [hsql]
  exact logged (executeCommitted he sql values)

end Action.Tells

open Action.Tells in
/-- An engine that takes care of all its connections is one to rely on. -/
theorem Engine.transacts_careful (settings : DatabaseSettings) :
    (Engine.careful settings).Transacts where
  enters place := by
    refine next (answered rfl fun a _ => ?_)
    cases a with
    | error f => exact .unconnected f
    | ok c =>
      refine Action.Tells.outcome (answered rfl fun b _ => ?_)
      cases b with
      | ok t => exact pure (.entered c t)
      | error f =>
        refine next (answered rfl fun d _ => ?_)
        cases d with
        | ok _ => exact fail (.unbegun c f (.closed none (.ok ())) f rfl)
        | error g => exact .unbegun c f (.closed none (.error g)) g rfl
  leaves := by
    rintro place ⟨c, t⟩ (_ | failure)
    · have hcommit : (Engine.commitOrRollBack t).Tells .any place fun r told =>
          (r = .ok () ∧ told = [⟨.commit t, .ok ()⟩])
            ∨ ∃ f a, r = (a.mapError .fault >>= fun _ => .error (.fault f))
              ∧ told = [⟨.commit t, .error f⟩, ⟨.rollback t, a⟩] := by
        unfold Engine.commitOrRollBack
        refine Action.Tells.outcome (answered rfl fun b _ => ?_)
        cases b with
        | ok _ => exact pure (.inl ⟨rfl, rfl⟩)
        | error f =>
          refine next (answered rfl fun a _ => ?_)
          cases a with
          | ok _ => exact fail (.inr ⟨f, .ok (), rfl, rfl⟩)
          | error g => exact .inr ⟨f, .error g, rfl, rfl⟩
      refine ending hcommit ?_
      rintro _ _ (⟨rfl, rfl⟩ | ⟨f, a, rfl, rfl⟩)
      · refine answered rfl fun b _ => ?_
        rcases b with g | ⟨⟩
        · exact .ended (.error g)
        · exact .ended (.ok ())
      · refine answered rfl fun b _ => ?_
        have hleft := Abandoned.rolledBack t a (.closed (c := c) none b)
        rcases a with g | ⟨⟩ <;> rcases b with g' | ⟨⟩ <;> exact .unended f hleft _ rfl
    · have hrollback : (Action.rollback t).Tells .any place fun r told => ∃ a,
          r = a.mapError .fault ∧ told = [⟨.rollback t, a⟩] :=
        answered rfl fun a _ => ⟨a, rfl, rfl⟩
      refine ending hrollback ?_
      rintro _ _ ⟨a, rfl, rfl⟩
      refine answered rfl fun b _ => ?_
      rcases a with g | ⟨⟩ <;> rcases b with g' | ⟨⟩
      · exact .unended g (.closed none (.error g')) g' rfl
      · exact .unended g (.closed none (.ok ())) g rfl
      · exact .ended (.error g')
      · exact .ended (.ok ())

namespace Action.Always

variable {m : Manner} {place : Place} {s : Scene}

theorem connectPool (settings : DatabaseSettings) :
    (Pool.connect settings).Always m place (fun r s' => ∃ told,
      ConnectStory (Pool.Missing m settings) r told ∧ s' = s.tellAll told) s := by
  rw [← Pool.missing_settledIn m s]
  refine (Tells.connectPool settings).always ((Tells.connectPool settings).mono fun _ _ h x hx => ?_)
  exact Request.not_isOnHandles_of_isDriving (h.isDriving x hx)

/-- Ending a transaction has any answer that may be given to the request. -/
theorem endTransaction {how : Ending} {t : OpenTransaction} {Q : Except Failure Unit → Scene → Prop}
    (hQ : ∀ a, m.Admits (how.exchange t a) → Q (a.mapError .fault) (s.tell (how.exchange t a))) :
    (how.act t).Always m place Q s := by
  cases how with
  | commit => exact commit hQ
  | rollback => exact rollback hQ

end Action.Always

end SqlComposer
