import SqlComposer.Proofs.Masking
import SqlComposer.Proofs.SentOnce

/-!
# Errors show neither values nor faults

Unless it is being developed, a database wraps whatever the driver raises in an error that tells
what could not be done and which statement was refused, and nothing else. The fault is told to the
query log and kept as the cause.

A run ended because of the driver if the last fault of its story still stands (`standingFault?`):
nothing was raised after it, and no other attempt was made. Then the run yields the error of that
fault and of the statement (`RunStory.discreet`). Two runs of operations that are masked alike
compose the same statement, so their errors can only differ in their causes.
-/

set_option autoImplicit false

namespace SqlComposer

open SqlComposer.Sql

/-! ## Runs that faults have ended -/

/-- A run from one scene to another ended because the database raised a fault, which is no
cancellation. -/
structure EndedBy (f : Fault) (s s' : Scene) : Prop where
  handled : f.handled = true
  standing : ∃ told, s'.story = s.story ++ told ∧ standingFault? told = some f

section Standing

variable {lack : Failure → Prop} {held : Handle → HandleState → Prop} {sql : String}
  {values : Value} {c : Connection} {left : Nat} {s : Scene} {r : Except Failure QueryResult}
  {told rest : List Exchange} {f : Fault}

theorem ExecutionStory.standing (h : ExecutionStory sql values c r told)
    (hf : standingFault? told = some f) : r = .error (.fault f) := by
  rcases h with ⟨f', -⟩ | ⟨b', -, g' | reply⟩ <;> cases hf
  rfl

theorem EnterStory.standing {r : Except Failure TransactionScope} (h : EnterStory r told)
    (hf : standingFault? told = some f) : r = .error (.fault f) := by
  cases h with
  | unconnected g =>
    cases hf
    rfl
  | @unbegun c g rest h g' hg =>
    -- that the connection was there raises nothing
    have hsame : standingFault? (⟨.connect, .ok c⟩ :: ⟨.begin c, .error g⟩ :: rest)
        = standingFault? (⟨.begin c, .error g⟩ :: rest) := rfl
    rw [hsame, hg] at hf
    cases hf
    rfl
  | entered c t => cases hf

/-- A fault of leaving a transaction stands whatever went before. If there is none, the fault of
the work in it stands. -/
theorem LeaveStory.standing {t : OpenTransaction} {how : Ending} {a : Except Failure Unit}
    (h : LeaveStory c t how a rest) (hf : standingFault? (told ++ rest) = some f) :
    a = .error (.fault f) ∨ a = .ok () ∧ standingFault? told = some f := by
  cases h with
  | ended b =>
    rw [standingFault?, List.foldl_append] at hf
    cases b with
    | error g =>
      have hlast : some g = some f := by cases how <;> exact hf
      cases hlast
      exact .inl rfl
    | ok _ =>
      refine .inr ⟨rfl, ?_⟩
      cases how <;> exact hf
  | unended g h g' hg =>
    rw [standingFault?_append hg] at hf
    cases hf
    exact .inl rfl

theorem WriteStory.standing (h : WriteStory lack sql values r told)
    (hf : standingFault? told = some f) : r = .error (.fault f) := by
  cases h with
  | poolless g hg => cases hf
  | unentered g told h =>
    cases h.standing hf
    rfl
  | left c t x told h a rest hr =>
    have hsame : standingFault? (⟨.connect, .ok c⟩ :: ⟨.begin c, .ok t⟩ :: (told ++ rest))
        = standingFault? (told ++ rest) := rfl
    rw [hsame] at hf
    rcases hr.standing hf with rfl | ⟨rfl, hx⟩
    · rfl
    · exact h.standing hx

theorem AttemptStory.standing (h : AttemptStory lack sql values r told)
    (hf : standingFault? told = some f) : r = .error (.fault f) := by
  cases h with
  | unconnected g told h =>
    cases h with
    | poolless g hg => cases hf
    | refused g =>
      cases hf
      rfl
  | lent c x told h b =>
    rcases h with ⟨f', -⟩ | ⟨b', -, g' | reply⟩ <;> rcases b with g | ⟨⟩ <;> cases hf <;> rfl

/-- Only the faults of the last attempt stand. -/
theorem ReadStory.standing (h : ReadStory lack sql values left r told)
    (hf : standingFault? told = some f) : r = .error (.fault f) := by
  induction h with
  | last h => exact h.standing hf
  | again g h hkind delay hrest ih =>
    rw [standingFault?, List.foldl_append] at hf
    exact ih hf

/-- A fault that stands is how the statement failed. -/
theorem StatementStory.standing {e : Executor}
    (h : StatementStory lack held sql values e r told) (hf : standingFault? told = some f) :
    r = .error (.fault f) := by
  cases h with
  | read hsql h => exact h.standing hf
  | written hsql h => exact h.standing hf
  | within h state hstate hr =>
    cases hr with
    | idle hidle e he => cases hf
    | active hactive c hc hr => exact hr.standing hf

/-- Reports raise nothing. -/
theorem Reported.standing {m : Manner} {db : Database} {what : Attempted}
    {r' : Except Failure QueryResult} {reports : List Exchange}
    (h : Reported m db what sql values r r' reports) (told : List Exchange) :
    standingFault? (told ++ reports) = standingFault? told := by
  rw [standingFault?, List.foldl_append]
  cases h <;> rfl

theorem not_endedBy_self : ¬ EndedBy f s s := by
  rintro ⟨-, told, htold, hf⟩
  rw [List.self_eq_append_right.mp htold] at hf
  cases hf

end Standing

/-! ## Errors in production -/

/-- Surroundings of a database in production: the query log takes what it is told, and the
settings, if it is up to them, say that the program is not being developed. -/
def Manner.discreet (db : Database) : Manner
  | .reportQuery .., a => a = .ok ()
  | .reportError .., a => a = .ok ()
  | .settings, a => db.development = none →
    ∃ settings : Settings, a = .ok settings ∧ settings.isDevelopment = false
  | _, _ => True

/-- The error as a dictionary. -/
def QueryError.dictionary (e : QueryError) : Value :=
  .dict [("type", .text (Failure.error e).name), ("message", .text e.message),
    ("error_code", .text e.code.text), ("error_name", .text e.code.name),
    ("details", .dict e.details), ("is_retryable", .bool e.retryable)]

/-- The error of a statement that the database refused, as it is surfaced in production. -/
def refusedError (what : Attempted) (sql : String) (f : Fault) : QueryError :=
  .execution what.text f (some sql) false .empty

section Discreet

variable {db : Database} {what : Attempted} {sql : String} {values : Value}
  {r : Except Failure QueryResult} {told : List Exchange} {f : Fault}

theorem Database.Reveals.discreet {revealing : Bool} (h : db.Reveals (.discreet db) revealing)
    (hdev : db.development ≠ some true) : revealing = false := by
  rcases h with hdb | ⟨hdb, settings, hsettings, rfl⟩
  · cases revealing with
    | true => exact absurd hdb hdev
    | false => rfl
  · obtain ⟨_, ⟨⟩, hproduction⟩ := hsettings hdb
    exact hproduction

/-- A fault is reported and wrapped without its text. -/
theorem Reported.discreet (h : Reported (.discreet db) db what sql values (.error (.fault f)) r told)
    (hdev : db.development ≠ some true) (hhandled : f.handled = true) :
    r = .error (.error (refusedError what sql f)) := by
  cases h with
  | passed _ hf => exact absurd (hf.symm.trans hhandled) nofun
  | unheard _ hf g hg => cases hg
  | unsettled _ hf hdb g hg =>
    obtain ⟨_, hsettings, -⟩ := hg hdb
    cases hsettings
  | wrapped _ hf revealing hdb =>
    rw [hdb.discreet hdev]
    rfl

/-- A statement that a fault has ended is wrapped without the text of the fault. -/
theorem RunStory.discreet {lack : Failure → Prop} {held : Handle → HandleState → Prop}
    {e : Executor} (h : RunStory (.discreet db) db what sql values
      (StatementStory lack held sql values e) r told)
    (hdev : db.development ≠ some true) (hhandled : f.handled = true)
    (hf : standingFault? told = some f) : r = .error (.error (refusedError what sql f)) := by
  obtain ⟨x, told, reports, hx, hreported, rfl⟩ := h
  rw [hreported.standing] at hf
  obtain rfl : x = .error (.fault f) := hx.standing hf
  exact hreported.discreet hdev hhandled

end Discreet

namespace Action.Always

variable {α β : Type} {place : Place} {s : Scene} {db : Database} {e : Executor}
  {what : Attempted} {sql : String} {values : Value}

/-- A fault that ends a statement in production is wrapped without its text. -/
theorem runInProduction (hengine : db.engine.Transacts) (hdev : db.development ≠ some true) :
    (db.run e what sql values).Always (.discreet db) place (fun r s' => ∀ f, EndedBy f s s' →
      r = .error (.error (refusedError what sql f))) s := by
  refine (runStatement hengine e what sql values).mono ?_
  rintro r _ ⟨told, hstory, -, rfl⟩ f ⟨hhandled, told', htold, hf⟩
  rw [Scene.tellAll_story, List.append_cancel_left_eq] at htold
  rw [← htold] at hf
  exact hstory.discreet hdev hhandled hf

/-- What comes after a statement does not change how it ended. -/
theorem runThen (hengine : db.engine.Transacts) (hdev : db.development ≠ some true)
    {next : QueryResult → Action β}
    (hnext : ∀ x s₁, (next x).Always (.discreet db) place (fun _ s₂ => s₂ = s₁) s₁) :
    (db.run e what sql values >>= next).Always (.discreet db) place (fun r s' =>
      ∀ f, EndedBy f s s' → r = .error (.error (refusedError what sql f))) s := by
  refine bind (runInProduction hengine hdev) ?_ ?_
  · intro x s₁ hx
    refine (hnext x s₁).mono ?_
    rintro r _ rfl f hf
    cases hx f hf
  · intro g s₁ hg f hf
    cases hg f hf
    rfl

end Action.Always

namespace RowOperation

variable {place : Place} {s : Scene} {db : Database}

/-- If the driver ended an operation, its error is that of the fault and of the statement that the
operation composes. -/
def Wraps {α : Type} (o : RowOperation) (s : Scene) (r : Except Failure α) (s' : Scene) : Prop :=
  ∀ f, EndedBy f s s' → ∃ sql, o.Composes sql ∧ r = .error (.error (refusedError o.what sql f))

theorem Wraps.unreached {α : Type} {o : RowOperation} (r : Except Failure α) : o.Wraps s r s :=
  fun _ hf => absurd hf not_endedBy_self

open Action.Always in
theorem always_raising {α β : Type} {o : RowOperation} {r : Except Failure α}
    {next : α → Action β}
    (h : ∀ x, r = .ok x → (next x).Always (.discreet db) place (o.Wraps s) s) :
    (Action.raising r >>= next).Always (.discreet db) place (o.Wraps s) s := by
  cases r with
  | error f => exact raised (.unreached _)
  | ok x => exact Action.Always.next (pure (h x rfl))

open Action.Always in
theorem always_composed {β : Type} {o : RowOperation} {q : Query} {mode : Mode}
    {next : CompiledQuery → Action β}
    (h : ∀ c, q.compile mode = .ok c → (next c).Always (.discreet db) place (o.Wraps s) s) :
    (Database.composed q mode >>= next).Always (.discreet db) place (o.Wraps s) s := by
  refine bind (Q := fun r s' => s' = s ∧ ∀ c, r = .ok c → q.compile mode = .ok c) ?_ ?_ ?_
  · unfold Database.composed
    refine bind (Q := fun r s' => s' = s ∧ r = (q.compile mode).mapError (·.failure))
      (raising ⟨rfl, rfl⟩) ?_ ?_
    · rintro c _ ⟨rfl, hc⟩
      refine silent (log ⟨rfl, rfl⟩) (pure ⟨rfl, ?_⟩)
      rintro _ ⟨⟩
      exact ok_of_rejecting hc.symm
    · rintro f _ ⟨rfl, -⟩
      refine ⟨rfl, ?_⟩
      rintro _ ⟨⟩
  · rintro c _ ⟨rfl, hc⟩
    exact h c (hc c rfl)
  · rintro f _ ⟨rfl, -⟩
    exact .unreached _

open Action.Always in
theorem always_bound {β : Type} {o : RowOperation} {c : CompiledQuery} {values : Value}
    {next : Value → Action β}
    (h : ∀ vs, (next vs).Always (.discreet db) place (o.Wraps s) s) :
    (Database.bound c values >>= next).Always (.discreet db) place (o.Wraps s) s := by
  refine bind (Q := fun _ s' => s' = s) ?_ ?_ ?_
  · unfold Database.bound
    refine bind (Q := fun _ s' => s' = s) (raising rfl) ?_ ?_
    · exact fun vs _ hs => pure hs
    · exact fun f _ hs => hs
  · rintro vs _ rfl
    exact h vs
  · rintro f _ rfl
    exact .unreached _

open Action.Always in
theorem always_run {β : Type} {o : RowOperation} (hengine : db.engine.Transacts)
    (hdev : db.development ≠ some true) {e : Executor} {sql : String} {values : Value}
    {next : QueryResult → Action β} (hsql : o.Composes sql)
    (hnext : ∀ x s₁, (next x).Always (.discreet db) place (fun _ s₂ => s₂ = s₁) s₁) :
    (db.run e o.what sql values >>= next).Always (.discreet db) place (o.Wraps s) s :=
  mono (runThen hengine hdev hnext) fun _ _ hr f hf => ⟨sql, hsql, hr f hf⟩

open Action.Always in
/-- What the driver does to an operation in production is wrapped. -/
theorem always_act (hengine : db.engine.Transacts) (hdev : db.development ≠ some true)
    (o : RowOperation) :
    (o.act db).Always (.discreet db) place (o.Wraps s) s := by
  cases o with
  | getFirst q values =>
    unfold act Database.getFirst Database.traced
    refine traced fun elsewhere => always_composed fun c hc => always_bound fun vs => ?_
    exact always_run (o := .getFirst q values) hengine hdev (.getFirst hc) fun _ _ => pure rfl
  | getData q values =>
    unfold act Database.getData Database.traced
    refine traced fun elsewhere => ?_
    rw [if_pos rfl]
    refine always_composed fun c hc => always_bound fun vs => ?_
    exact always_run (o := .getData q values) hengine hdev (.getData hc) fun _ _ => pure rfl
  | insert table data h =>
    unfold act Database.insertData Database.traced
    refine traced fun elsewhere => always_raising fun statement hstatement => ?_
    exact always_run (o := .insert table data h) hengine hdev (.insert hstatement) fun _ _ => pure rfl
  | update table data conditions values h =>
    unfold act Database.updateData Database.traced
    refine traced fun elsewhere => always_raising fun fragments hfragments => ?_
    refine always_raising fun statement hstatement => ?_
    exact always_run (o := .update table data conditions values h) hengine hdev
      (.update hfragments hstatement) fun _ _ => pure rfl
  | delete table key h =>
    unfold act Database.deleteData Database.traced
    refine traced fun elsewhere => ?_
    cases hentries : key.asDict with
    | error f => exact next (ofFault (.unreached _))
    | ok entries =>
      refine next (ofFault (always_raising fun statement hstatement => ?_))
      exact always_run (o := .delete table key h) hengine hdev (.delete hentries hstatement)
        fun _ _ => pure rfl
  | batchInsert table rows h =>
    unfold act Database.batchInsert Database.traced
    refine traced fun elsewhere => ?_
    cases rows.truthy with
    | false => exact pure (.unreached _)
    | true =>
      refine always_raising fun statement hstatement => ?_
      exact always_run (o := .batchInsert table rows h) hengine hdev (.batchInsert hstatement)
        fun _ _ => silent (log ⟨rfl, rfl⟩) (pure rfl)

end RowOperation

/-! ## Two runs -/

/-- In production, two operations on rows that differ in bound values only, each ended by whatever
fault the driver raised, surface errors that agree in all they show: both are the error of what
could not be done and of the statement that both operations compose. -/
theorem errors_hide_values_and_faults {σ σ' : Type} {env : Surroundings σ}
    {env' : Surroundings σ'} {db : Database} (hengine : db.engine.Transacts)
    (hdev : db.development ≠ some true)
    (henv : env.Keeps (.discreet db)) (henv' : env'.Keeps (.discreet db)) {o o' : RowOperation}
    (h : o.masked = o'.masked) (place place' : Place) (s s' : Scene) (w : σ) (w' : σ')
    {f f' : Fault} :
    let run := env.perform place (o.act db) (s, w)
    let run' := env'.perform place' (o'.act db) (s', w')
    EndedBy f s run.2.1 → EndedBy f' s' run'.2.1 →
      ∃ e e' sql, run.1 = .error (.error e) ∧ run'.1 = .error (.error e')
        ∧ (o.Composes sql ∧ o'.Composes sql)
        ∧ (e = refusedError o.what sql f ∧ e' = refusedError o.what sql f')
        ∧ e.message = e'.message ∧ e.text = e'.text ∧ e.code = e'.code ∧ e.details = e'.details
        ∧ e.dictionary = e'.dictionary := by
  intro run run' hf hf'
  have hwraps : o.Wraps s run.1 run.2.1 := Action.always_perform henv (o.always_act hengine hdev) w
  have hwraps' : o'.Wraps s' run'.1 run'.2.1 :=
    Action.always_perform henv' (o'.always_act hengine hdev) w'
  obtain ⟨sql, hsql, hrun⟩ := hwraps f hf
  obtain ⟨sql', hsql', hrun'⟩ := hwraps' f' hf'
  obtain rfl : sql = sql' := hsql.unique h hsql'
  have hwhat : o'.what = o.what := RowOperation.what_of_masked h.symm
  rw [hwhat] at hrun'
  exact ⟨_, _, sql, hrun, hrun', ⟨hsql, hsql'⟩, ⟨rfl, rfl⟩, rfl, rfl, rfl, rfl, rfl⟩

/-- Surroundings in which the driver refuses every statement with a fault. -/
def Surroundings.refusing (f : Fault) : Surroundings Unit
  | .execute .., w => (.error f, w)
  | r, w => Surroundings.obliging r w

theorem Surroundings.refusing_discreet (f : Fault) :
    (Surroundings.refusing f).Keeps (.discreet plainDatabase) := by
  intro r w
  cases r <;> first | trivial | rfl | (rintro ⟨⟩)

/-- Registers a user by an address. -/
def registration (address : String) : RowOperation :=
  .insert "users" (.dict [("email", .text address)]) none

/-- The fault of a driver that finds an address taken. -/
def addressTaken (address : String) : Fault :=
  ⟨.runtime, "Duplicate entry '" ++ address ++ "' for key 'email'"⟩

/-- A registration when its address is taken. -/
def refusedRegistration (address : String) : Except Failure Int × (Scene × Unit) :=
  (Surroundings.refusing (addressTaken address)).perform .top
    ((registration address).act plainDatabase) (.start, ())

/-- Two registrations are refused for their addresses, and their errors do not tell which. -/
theorem registrations_alike :
    (registration "ada").masked = (registration "bob").masked
      ∧ EndedBy (addressTaken "ada") .start (refusedRegistration "ada").2.1
      ∧ EndedBy (addressTaken "bob") .start (refusedRegistration "bob").2.1
      ∧ ∃ e e', (refusedRegistration "ada").1 = .error (.error e)
        ∧ (refusedRegistration "bob").1 = .error (.error e')
        ∧ e.cause ≠ e'.cause ∧ e.text = e'.text ∧ e.dictionary = e'.dictionary := by
  have hsame : (registration "ada").masked = (registration "bob").masked := rfl
  have hada : EndedBy (addressTaken "ada") .start (refusedRegistration "ada").2.1 :=
    ⟨by decide, _, rfl, by decide +kernel⟩
  have hbob : EndedBy (addressTaken "bob") .start (refusedRegistration "bob").2.1 :=
    ⟨by decide, _, rfl, by decide +kernel⟩
  have hdev : plainDatabase.development ≠ some true := by decide
  obtain ⟨e, e', sql, he, he', -, ⟨rfl, rfl⟩, -, htext, -, -, hdictionary⟩ :=
    errors_hide_values_and_faults plainDatabase_transacts hdev
      (Surroundings.refusing_discreet (addressTaken "ada"))
      (Surroundings.refusing_discreet (addressTaken "bob")) hsame .top .top .start .start () ()
      hada hbob
  have hcauses : some (addressTaken "ada") ≠ some (addressTaken "bob") := by decide
  exact ⟨hsame, hada, hbob, _, _, he, he', hcauses, htext, hdictionary⟩

end SqlComposer
