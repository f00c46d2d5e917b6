import SqlComposer.Proofs.Reports
import SqlComposer.Proofs.Routing

/-!
# A change is sent once

What a statement asks of the database is a story of its own, which goes on from the story of the
scene: `WriteStory` for a statement that may write and `ReadStory` for one that only reads. A story
of writing sends its statement once at most, in a transaction that is to be committed if the
statement succeeded and rolled back if it did not (`SentOnce`). A story of reading is one of three
attempts at most, and each goes on only if the database broke off in the one before it
(`ReadApart`). However the story goes, the query log is told of it once (`Reported`).
-/

set_option autoImplicit false

namespace SqlComposer

open SqlComposer.Sql

/-! ## What the stories say -/

namespace Exchange

/-- The transaction that was to be committed, whether that failed or not. -/
def committed? : Exchange → Option OpenTransaction
  | ⟨.commit t, _⟩ => some t
  | _ => none

/-- The transaction that was to be rolled back, whether that failed or not. -/
def rolledBack? : Exchange → Option OpenTransaction
  | ⟨.rollback t, _⟩ => some t
  | _ => none

/-- Whether a statement was executed and did not fail. -/
def succeeds : Exchange → Bool
  | ⟨.execute .., .ok _⟩ => true
  | _ => false

/-- Whether a connection was asked for. -/
def connects : Exchange → Bool
  | ⟨.connect, _⟩ => true
  | _ => false

/-- Whether the query log was told of a statement. -/
def reports : Exchange → Bool
  | ⟨.reportQuery .., _⟩ => true
  | ⟨.reportError .., _⟩ => true
  | _ => false

end Exchange

/-- A statement is executed once at most, in one transaction at most, which is to be committed if
the statement succeeded and rolled back if it did not. -/
structure SentOnce (told : List Exchange) : Prop where
  executed : (told.filterMap Exchange.executed?).length ≤ 1
  begun : (told.filterMap Exchange.begun?).length ≤ 1
  committed : told.filterMap Exchange.committed?
    = if told.any Exchange.succeeds then told.filterMap Exchange.begun? else []
  rolledBack : told.any Exchange.succeeds = false →
    told.filterMap Exchange.rolledBack? = told.filterMap Exchange.begun?
  /-- What was committed is not rolled back, and what could not be is at most once. -/
  kept : told.any Exchange.succeeds = true →
    told.filterMap Exchange.rolledBack? = [] ∨ (∃ t f, ⟨.commit t, .error f⟩ ∈ told)
      ∧ told.filterMap Exchange.rolledBack? = told.filterMap Exchange.begun?

/-- A connection is asked for so many times at most, each one is given back, and there are no
transactions. -/
structure ReadApart (attempts : Nat) (told : List Exchange) : Prop where
  connected : (told.filter Exchange.connects).length ≤ attempts
  closed : told.filterMap Exchange.closed? = told.filterMap Exchange.checkedOut?
  begun : told.filterMap Exchange.begun? = []
  ended : told.filterMap Exchange.ended? = []

section Writing

variable {lack : Failure → Prop} {sql : String} {values : Value} {c : Connection}
  {t : OpenTransaction} {r : Except Failure QueryResult} {told : List Exchange}

/-- To give a connection up executes nothing, and at most the transaction that is left open on it is
rolled back. -/
structure Undoing (left : Option OpenTransaction) (told : List Exchange) : Prop where
  executed : told.filterMap Exchange.executed? = []
  begun : told.filterMap Exchange.begun? = []
  committed : told.filterMap Exchange.committed? = []
  succeeds : told.any Exchange.succeeds = false
  rolledBack : told.filterMap Exchange.rolledBack? = []
    ∨ told.filterMap Exchange.rolledBack? = left.toList

/-- To give a connection up is to undo what is left open on it. -/
theorem Abandoned.undoing {left : Option OpenTransaction} (h : Abandoned c left told) :
    Undoing left told := by
  cases h with
  | kept | closed => exact ⟨rfl, rfl, rfl, rfl, .inl rfl⟩
  | rolledBack t a h =>
    cases h with
    | kept | closed => exact ⟨rfl, rfl, rfl, rfl, .inr rfl⟩

/-- To end a transaction executes nothing. It is committed or rolled back as it is to be, and after
a commit it is rolled back only if the commit has failed. -/
structure EndedOnce (t : OpenTransaction) (how : Ending) (told : List Exchange) : Prop where
  executed : told.filterMap Exchange.executed? = []
  begun : told.filterMap Exchange.begun? = []
  succeeds : told.any Exchange.succeeds = false
  commit : how = .commit → told.filterMap Exchange.committed? = [t]
    ∧ (told.filterMap Exchange.rolledBack? = [] ∨ (∃ f, ⟨.commit t, .error f⟩ ∈ told)
      ∧ told.filterMap Exchange.rolledBack? = [t])
  rollback : how = .rollback → told.filterMap Exchange.committed? = []
    ∧ told.filterMap Exchange.rolledBack? = [t]

/-- To leave a transaction is to end it once. -/
theorem LeaveStory.endedOnce {how : Ending} {a : Except Failure Unit}
    (h : LeaveStory c t how a told) : EndedOnce t how told := by
  cases h with
  | ended b =>
    cases how with
    | commit => exact ⟨rfl, rfl, rfl, fun _ => ⟨rfl, .inl rfl⟩, nofun⟩
    | rollback => exact ⟨rfl, rfl, rfl, nofun, fun _ => ⟨rfl, rfl⟩⟩
  | @unended f rest h g hg =>
    obtain ⟨hexecuted, hbegun, hcommitted, hsucceeds, hrolledBack⟩ := h.undoing
    cases how with
    | commit =>
      refine ⟨hexecuted, hbegun, hsucceeds, fun _ => ⟨congrArg (t :: ·) hcommitted, ?_⟩, nofun⟩
      exact hrolledBack.imp id fun hundone => ⟨⟨f, List.mem_cons_self⟩, hundone⟩
    | rollback =>
      refine ⟨hexecuted, hbegun, hsucceeds, nofun, fun _ => ⟨hcommitted, ?_⟩⟩
      -- there is nothing left open that could be rolled back again
      exact congrArg (t :: ·) (hrolledBack.elim id id)

/-- An execution sends the statement once at most, and tells how its transaction is to be ended. -/
structure ExecutedOnce (how : Ending) (told : List Exchange) : Prop where
  executed : (told.filterMap Exchange.executed?).length ≤ 1
  begun : told.filterMap Exchange.begun? = []
  ended : told.filterMap Exchange.committed? = [] ∧ told.filterMap Exchange.rolledBack? = []
  succeeds : how = if told.any Exchange.succeeds then .commit else .rollback

/-- To execute a statement is to send it once. -/
theorem ExecutionStory.executedOnce (h : ExecutionStory sql values c r told) :
    ExecutedOnce (.after r) told := by
  cases h with
  | unbound f hf => exact ⟨Nat.zero_le 1, rfl, ⟨rfl, rfl⟩, rfl⟩
  | executed b hb a => cases a <;> exact ⟨Nat.le_refl 1, rfl, ⟨rfl, rfl⟩, rfl⟩

/-- Where nothing is left open, undoing sends nothing. -/
theorem Undoing.sentOnce (h : Undoing none told) : SentOnce told := by
  have hrolledBack : told.filterMap Exchange.rolledBack? = [] := h.rolledBack.elim id id
  refine ⟨?_, ?_, ?_, fun _ => hrolledBack.trans h.begun.symm, fun _ => .inl hrolledBack⟩
  · rw [h.executed]
    exact Nat.zero_le 1
  · rw [h.begun]
    exact Nat.zero_le 1
  · rw [h.committed, h.succeeds]
    rfl

/-- A transaction that cannot be entered sends nothing. -/
theorem EnterStory.sentOnce {f : Failure} (h : EnterStory (.error f) told) : SentOnce told := by
  cases h with
  | unconnected f =>
    have hnothing : Undoing none [⟨.connect, .error f⟩] := ⟨rfl, rfl, rfl, rfl, .inl rfl⟩
    exact hnothing.sentOnce
  | @unbegun c f rest h g hg =>
    obtain ⟨hexecuted, hbegun, hcommitted, hsucceeds, hrolledBack⟩ := h.undoing
    have hnothing : Undoing none (⟨.connect, .ok c⟩ :: ⟨.begin c, .error f⟩ :: rest) :=
      ⟨hexecuted, hbegun, hcommitted, hsucceeds, hrolledBack⟩
    exact hnothing.sentOnce

/-- Between the beginning and the end of a transaction a statement is sent once. -/
theorem ExecutedOnce.sentOnce {how : Ending} {rest : List Exchange} (h : ExecutedOnce how told)
    (hrest : EndedOnce t how rest) :
    SentOnce (⟨.connect, .ok c⟩ :: ⟨.begin c, .ok t⟩ :: (told ++ rest)) := by
  have hbegun : (told ++ rest).filterMap Exchange.begun? = [] := by
    rw [List.filterMap_append, h.begun, hrest.begun, List.append_nil]
  have hsucceeds : (told ++ rest).any Exchange.succeeds = told.any Exchange.succeeds := by
    rw [List.any_append, hrest.succeeds, Bool.or_false]
  have hcommitted : (told ++ rest).filterMap Exchange.committed?
      = rest.filterMap Exchange.committed? := by
    rw [List.filterMap_append, h.ended.1, List.nil_append]
  have hrolledBack : (told ++ rest).filterMap Exchange.rolledBack?
      = rest.filterMap Exchange.rolledBack? := by
    rw [List.filterMap_append, h.ended.2, List.nil_append]
  have hexecuted : ((told ++ rest).filterMap Exchange.executed?).length ≤ 1 := by
    rw [List.filterMap_append, hrest.executed, List.append_nil]
    exact h.executed
  have hopened : (⟨.connect, .ok c⟩ :: ⟨.begin c, .ok t⟩ :: (told ++ rest) : List Exchange).filterMap
      Exchange.begun? = [t] := congrArg (t :: ·) hbegun
  have hhow := h.succeeds
  rw [← hsucceeds] at hhow
  cases hany : (told ++ rest).any Exchange.succeeds with
  | true =>
    obtain ⟨hcommit, hkept⟩ := hrest.commit (by rw [hhow, hany]; rfl)
    refine ⟨hexecuted, (congrArg List.length hopened).le, ?_, fun hnone => ?_, fun _ => ?_⟩
    · exact (hcommitted.trans hcommit).trans ((if_pos hany).trans hopened).symm
    · exact absurd (hany.symm.trans hnone) nofun
    · refine hkept.imp hrolledBack.trans ?_
      rintro ⟨⟨f, hf⟩, hundone⟩
      refine ⟨⟨t, f, ?_⟩, (hrolledBack.trans hundone).trans hopened.symm⟩
      exact .tail _ (.tail _ (List.mem_append_right told hf))
  | false =>
    obtain ⟨hcommit, hundone⟩ := hrest.rollback (by rw [hhow, hany]; rfl)
    refine ⟨hexecuted, (congrArg List.length hopened).le, ?_, fun _ => ?_, fun hsome => ?_⟩
    · exact (hcommitted.trans hcommit).trans (if_neg (ne_true_of_eq_false hany)).symm
    · exact (hrolledBack.trans hundone).trans hopened.symm
    · exact absurd (hany.symm.trans hsome) nofun

/-- A story of writing sends its statement once at most. -/
theorem WriteStory.sentOnce (h : WriteStory lack sql values r told) : SentOnce told := by
  cases h with
  | poolless f hf =>
    have hnothing : Undoing none [] := ⟨rfl, rfl, rfl, rfl, .inl rfl⟩
    exact hnothing.sentOnce
  | unentered f told h => exact h.sentOnce
  | left c t x told h a rest hr => exact h.executedOnce.sentOnce hr.endedOnce

end Writing

section Reading

variable {lack : Failure → Prop} {sql : String} {values : Value} {left : Nat}
  {r : Except Failure QueryResult} {told : List Exchange}

/-- An attempt to read asks for one connection at most. -/
theorem AttemptStory.readApart (h : AttemptStory lack sql values r told) : ReadApart 1 told := by
  cases h with
  | unconnected f told h =>
    cases h with
    | poolless f hf => exact ⟨Nat.zero_le 1, rfl, rfl, rfl⟩
    | refused f => exact ⟨Nat.le_refl 1, rfl, rfl, rfl⟩
  | lent c x told h b =>
    cases h with
    | unbound f hf => exact ⟨Nat.le_refl 1, rfl, rfl, rfl⟩
    | executed b' hb a => exact ⟨Nat.le_refl 1, rfl, rfl, rfl⟩

/-- Each attempt is the only one that asks for its connection. -/
theorem ReadStory.readApart (h : ReadStory lack sql values left r told) :
    ReadApart (left + 1) told := by
  induction h with
  | last h =>
    obtain ⟨hconnected, hclosed, hbegun, hended⟩ := h.readApart
    exact ⟨by omega, hclosed, hbegun, hended⟩
  | @again left r told rest f h hkind delay hrest ih =>
    obtain ⟨hconnected, hclosed, hbegun, hended⟩ := h.readApart
    -- the pause between the attempts counts for nothing
    refine ⟨?_, ?_, ?_, ?_⟩
    · have hrestConnected : ((⟨.sleep delay, ()⟩ :: rest).filter Exchange.connects).length
          ≤ left + 1 := ih.connected
      rw [List.filter_append, List.length_append]
      omega
    · rw [List.filterMap_append, List.filterMap_append, hclosed]
      exact congrArg (told.filterMap Exchange.checkedOut? ++ ·) ih.closed
    · rw [List.filterMap_append, hbegun]
      exact ih.begun
    · rw [List.filterMap_append, hended]
      exact ih.ended

end Reading

/-- Asking the database tells the query log of nothing. -/
theorem unreported_of_isDriving {told : List Exchange}
    (h : ∀ x ∈ told, x.request.isDriving = true) : told.filter Exchange.reports = [] := by
  rw [List.filter_eq_nil_iff]
  intro x hx hreports
  have hdriving := h x hx
  obtain ⟨request, answer⟩ := x
  cases request <;> first | exact Bool.noConfusion hdriving | exact Bool.noConfusion hreports

/-! ## Statements in any surroundings -/

namespace Action.Always

variable {m : Manner} {place : Place} {s : Scene} {e : Engine}

/-- A statement on the pool that may write is told by the story of writing. -/
theorem queryWriting (he : e.Transacts) {sql : String} (values : Value)
    (hsql : isRead sql = false) :
    (e.query sql values).Always m place (fun r s' => ∃ told,
      WriteStory (Pool.Missing m e.settings) sql values r told ∧ s' = s.tellAll told) s := by
  rw [← Pool.missing_settledIn m s]
  refine Tells.always (Tells.queryWriting he values hsql) ?_
  refine (Tells.queryWriting he values hsql).mono fun _ _ h x hx => ?_
  exact Request.not_isOnHandles_of_isDriving (h.isDriving x hx)

/-- A statement that only reads is told by the story of reading. -/
theorem queryReading {sql : String} (values : Value) (hsql : isRead sql = true) :
    (e.query sql values).Always m place (fun r s' => ∃ told,
      ReadStory (Pool.Missing m e.settings) sql values 2 r told ∧ s' = s.tellAll told) s := by
  rw [← Pool.missing_settledIn m s]
  refine Tells.always (Tells.queryReading e values hsql) ?_
  refine (Tells.queryReading e values hsql).mono fun _ _ h x hx => ?_
  exact Request.not_isOnHandles_of_isDriving (h.isDriving x hx)

end Action.Always

/-- On an engine that is to be relied on, in all surroundings: a statement that may write is executed
once at most, in a transaction that is to be committed if it succeeded and rolled back if not; a
statement that only reads is tried three times at most, each time on a new connection that is given
back, and again only after the database broke off. Composed queries only read, and what changes rows
or tables does not. The query log is told once of each statement, wherever it runs: that it was
completed, or how it failed, or nothing if the failure is the library's own; and the outcome is what
that leaves of the outcome of the statement. -/
theorem statements_sent_and_reported {db : Database} (hengine : db.engine.Transacts) :
    (∀ (σ : Type) (env : Surroundings σ) (place : Place) (sql : String) (values : Value)
        (s : Scene) (w : σ),
      let final := env.perform place (db.engine.query sql values) (s, w)
      let lack := Pool.Missing env.manner db.settings
      ∃ told, final.2.1 = s.tellAll told
        ∧ (isRead sql = false → WriteStory lack sql values final.1 told ∧ SentOnce told)
        ∧ (isRead sql = true → ReadStory lack sql values 2 final.1 told ∧ ReadApart 3 told
          ∧ (s.Numbered → final.2.1.checkedOut.Nodup)))
    ∧ ((∀ (q : Query) (mode : Mode) (c : CompiledQuery), q.compile mode = .ok c →
        isRead c.sql = true)
      ∧ ∀ (record : Value) (mode : Mode) (c : CompiledQuery), composeQuery record mode = .ok c →
        isRead c.sql = true)
    ∧ ((∀ table data s, insertOf table data = .ok s → isRead s.sql = false)
      ∧ (∀ table rows s, batchInsertOf table rows = .ok s → isRead s.sql = false)
      ∧ (∀ table data fragments values s, updateOf table data fragments values = .ok s →
        isRead s.sql = false)
      ∧ (∀ table key s, deleteOf table key = .ok s → isRead s.sql = false)
      ∧ (∀ (t : TableDefinition) (statements : List String), t.compile = .ok statements →
        ∀ sql ∈ statements, isRead sql = false)
      ∧ ∀ (record : Value) (statements : List String), (composeTable record).1 = .ok statements →
        ∀ sql ∈ statements, isRead sql = false)
    ∧ ∀ (σ : Type) (env : Surroundings σ) (place : Place) (e : Executor) (what : Attempted)
        (sql : String) (values : Value) (s : Scene) (w : σ),
      let final := env.perform place (db.run e what sql values) (s, w)
      let lack := Pool.Missing env.manner db.settings
      ∃ r told reports, final.2.1 = s.tellAll (told ++ reports)
        ∧ StatementStory lack s.Holds sql values e r told ∧ told.filter Exchange.reports = []
        ∧ Reported env.manner db what sql values r final.1 reports := by
  refine ⟨?_, ⟨?_, ?_⟩, ⟨?_, ?_, ?_, ?_, ?_, ?_⟩, ?_⟩
  · intro σ env place sql values s w final lack
    have hfresh (hs : s.Numbered) : final.2.1.checkedOut.Nodup :=
      (env.numbered_run _ (s, w) hs).nodup.1
    cases hsql : isRead sql with
    | true =>
      obtain ⟨told, hstory, htold⟩ := Action.always_perform env.keeps_manner
        (Action.Always.queryReading (e := db.engine) values hsql) w
      exact ⟨told, htold, nofun, fun _ => ⟨hstory, hstory.readApart, hfresh⟩⟩
    | false =>
      obtain ⟨told, hstory, htold⟩ := Action.always_perform env.keeps_manner
        (Action.Always.queryWriting hengine values hsql) w
      exact ⟨told, htold, fun _ => ⟨hstory, hstory.sentOnce⟩, nofun⟩
  · exact fun q mode c hc => Query.isRead_compile hc
  · exact fun record mode c hc => isRead_composeQuery hc
  · intro table data s hs
    obtain ⟨entries, -, hs⟩ := insertOf_ok hs
    exact isRead_insert hs
  · intro table rows s hs
    obtain ⟨all, entries, -, -, hs⟩ := batchInsertOf_ok hs
    exact isRead_batchInsert hs
  · intro table data fragments values s hs
    obtain ⟨entries, conditions, given, -, -, hs⟩ := updateOf_ok hs
    exact isRead_update hs
  · intro table key s hs
    obtain ⟨entries, -, hs⟩ := deleteOf_ok hs
    exact isRead_delete hs
  · exact fun t statements h => isRead_tableStatements h
  · exact fun record statements h => isRead_composeTable h
  · intro σ env place e what sql values s w final lack
    obtain ⟨_, ⟨r, told, reports, hstory, hreported, rfl⟩, -, htold⟩ :=
      Action.always_perform env.keeps_manner
        (Action.Always.runStatement hengine e what sql values) w
    exact ⟨r, told, reports, htold, hstory, unreported_of_isDriving hstory.isDriving, hreported⟩

/-- Surroundings in which nothing can be committed. -/
def Surroundings.uncommitting : Surroundings Unit
  | .commit _, w => (.error ⟨.operational, "gone away"⟩, w)
  | r, w => Surroundings.obliging r w

/-- Deleting all users, when the database goes away before that is committed. -/
def usersDeleted : Except Failure QueryResult × (Scene × Unit) :=
  Surroundings.uncommitting.perform .top
    (plainDatabase.engine.query "DELETE FROM `users`" (.list [])) (.start, ())

/-- The database goes away in a way in which reading would be tried again, but the change is sent
once: what could not be committed is rolled back, and the deletion fails. -/
theorem usersDeleted_sent_once :
    plainDatabase.engine.Transacts ∧ isRead "DELETE FROM `users`" = false
      ∧ SentOnce usersDeleted.2.1.story ∧ usersDeleted.2.1.executed.length = 1
      ∧ usersDeleted.2.1.story.filterMap Exchange.committed? = usersDeleted.2.1.begun
      ∧ usersDeleted.2.1.story.filterMap Exchange.rolledBack? = usersDeleted.2.1.begun
      ∧ usersDeleted.1.isOk = false := by
  have hsql : isRead "DELETE FROM `users`" = false := by decide +kernel
  obtain ⟨hsent, -⟩ := statements_sent_and_reported plainDatabase_transacts
  obtain ⟨told, htold, hwrite, -⟩ := hsent Unit Surroundings.uncommitting .top
    "DELETE FROM `users`" (.list []) .start ()
  have hstory : usersDeleted.2.1.story = told := congrArg Scene.story htold
  refine ⟨plainDatabase_transacts, hsql, ?_, by decide +kernel, by decide +kernel,
    by decide +kernel, by decide +kernel⟩
  rw [hstory]
  exact (hwrite hsql).2

end SqlComposer
