import SqlComposer.Database.Change
import SqlComposer.Proofs.Binding
import SqlComposer.Proofs.QuoteState
import SqlComposer.Proofs.Reports

/-!
# What a rejected table definition has done

A table definition is checked as a whole before the database is reached, but each of its
statements is bound only when its turn comes. A `CREATE TABLE` statement takes no values, so it
cannot be bound if an expression of the definition has a placeholder. If the definition asks for
the old table to be dropped, that has happened by then.

`Sent` says what is left of a statement on the pool: it was executed and is not rejected any more,
or it was not executed, and is rejected only because it could not be bound. With this the two
statements of a definition are followed one after the other.
-/

set_option autoImplicit false

namespace SqlComposer

open SqlComposer.Sql

/-! ## Rejections -/

/-- Whether a failure says that a statement was rejected before the database saw it. -/
def Failure.isRejection : Failure → Bool
  | .error e => e.code.isValidation
  | _ => false

/-- Surroundings in which the query log and the settings do not fail by rejections of their own. -/
def Manner.unassuming : Manner
  | .reportQuery .., .error f => f.isRejection = false
  | .reportError .., .error f => f.isRejection = false
  | .settings, .error f => f.isRejection = false
  | _, _ => True

/-- What the obliging surroundings answer. -/
def Manner.obliging : Manner := fun r a => a = Surroundings.obliging.answer r

theorem Surroundings.keeps_obliging : Surroundings.obliging.Keeps .obliging := fun _ _ => rfl

theorem Surroundings.obliging_unassuming : Surroundings.obliging.Keeps .unassuming := by
  intro r w
  cases r <;> trivial

/-- Without values a statement is bound if it has no placeholder, and it is rejected otherwise. -/
theorem bindValues_nil (sql : String) :
    bindValues sql (.list []) =
      if countPlaceholders sql = 0 then
        .ok ⟨String.ofList (namedFrom .outside 0 sql.toList), []⟩
      else .error (Rejection.tooFewValues sql 0).failure := by
  have hvalues : bindValues sql (.list []) = rejecting (bindPositional sql []) := rfl
  rw [hvalues]
  by_cases hcount : countPlaceholders sql = 0
  · have hlength : ([] : List Value).length = countPlaceholders sql := hcount.symm
    rw [if_pos hcount, bindPositional_of_length hlength]
    rfl
  · have hmissing : bindFrom .outside 0 [] sql.toList = none := by
      rw [bindFrom_eq, if_neg]
      have : countFrom .outside sql.toList ≠ 0 := hcount
      simpa using this
    rw [if_neg hcount, bindPositional, hmissing]
    rfl

theorem countPlaceholders_of_unbound {sql : String} {f : Failure}
    (h : bindValues sql (.list []) = .error f) :
    countPlaceholders sql ≠ 0 ∧ f = (Rejection.tooFewValues sql 0).failure := by
  rw [bindValues_nil] at h
  split at h
  · cases h
  · rename_i hcount
    cases h
    exact ⟨hcount, rfl⟩

/-- Whatever the obliging surroundings answer is no fault. -/
theorem Manner.unfaulted_of_obliging {s : Scene} {x : Exchange}
    (h : (Manner.obliging.settledIn s).Admits x) : x.fault? = none := by
  obtain ⟨s', b, -, hb, hanswer⟩ := h
  obtain rfl : b = Surroundings.obliging.answer x.request := hb
  obtain ⟨request, answer⟩ := x
  obtain rfl : answer = s'.settle request (Surroundings.obliging.answer request) := hanswer
  cases request <;> rfl

/-! ## What is left of a statement -/

/-- What is left of a statement that was told of. -/
inductive Sent (sql : String) (values : Value) (r : Except Failure QueryResult)
    (told : List Exchange) : Prop
  | executed (b : BoundStatement) (hb : bindValues sql values = .ok b)
      (hs : told.filterMap Exchange.executed? = [b])
      (hr : ∀ f, r = .error f → f.isRejection = false)
  | withheld (f : Failure) (hr : r = .error f) (hs : told.filterMap Exchange.executed? = [])
      (hf : f.isRejection = true → bindValues sql values = .error f)

/-- What comes of a statement that nothing stands in the way of. -/
def Unhindered (sql : String) (values : Value) (r : Except Failure QueryResult) : Prop :=
  (∃ b x, bindValues sql values = .ok b ∧ r = .ok x)
    ∨ ∃ f, bindValues sql values = .error f ∧ r = .error f

section Sent

variable {m : Manner} {settings : DatabaseSettings} {db : Database} {what : Attempted}
  {sql : String} {values : Value} {c : Connection} {r r' : Except Failure QueryResult}
  {told rest : List Exchange}

theorem Sent.of_ok {x : QueryResult} (h : Sent sql values (.ok x) told) :
    ∃ b, bindValues sql values = .ok b ∧ told.filterMap Exchange.executed? = [b] := by
  cases h with
  | executed b hb hs hr => exact ⟨b, hb, hs⟩
  | withheld f hr => cases hr

theorem Sent.of_rejection {f : Failure} (h : Sent sql values (.error f) told)
    (hf : f.isRejection = true) :
    told.filterMap Exchange.executed? = [] ∧ bindValues sql values = .error f := by
  cases h with
  | executed b hb hs hr =>
    rw [hr f rfl] at hf
    cases hf
  | withheld g hg hs hbind =>
    cases hg
    exact ⟨hs, hbind hf⟩

theorem Sent.refused {f : Failure} (hs : told.filterMap Exchange.executed? = [])
    (hf : f.isRejection = false) : Sent sql values (.error f) told := by
  refine .withheld f rfl hs fun hrejected => ?_
  rw [hf] at hrejected
  cases hrejected

/-- A statement goes on as it was if what follows it executes nothing, and fails, if it does, in
another way than by a rejection. -/
theorem Sent.then (h : Sent sql values r told) (hs : rest.filterMap Exchange.executed? = [])
    (hr : r' = r ∨ ∃ g, r' = .error g ∧ g.isRejection = false) :
    Sent sql values r' (told ++ rest) := by
  have hall : (told ++ rest).filterMap Exchange.executed? = told.filterMap Exchange.executed? := by
    rw [List.filterMap_append, hs, List.append_nil]
  cases h with
  | executed b hb hs' hr' =>
    refine .executed b hb (hall.trans hs') ?_
    rcases hr with rfl | ⟨g, rfl, hg⟩
    · exact hr'
    · rintro _ ⟨⟩
      exact hg
  | withheld f hf hs' hbind =>
    -- a later failure takes the place of the rejection, so nothing has to be said of binding
    rcases hr with rfl | ⟨g, rfl, hg⟩
    · exact .withheld f hf (hall.trans hs') hbind
    · exact .refused (hall.trans hs') hg

theorem ExecutionStory.sent (h : ExecutionStory sql values c r told) : Sent sql values r told := by
  cases h with
  | unbound f hf => exact .withheld f rfl rfl fun _ => hf
  | executed b hb a =>
    refine .executed b hb rfl ?_
    intro f hf
    cases a with
    | error g =>
      cases hf
      rfl
    | ok reply => cases hf

theorem Abandoned.executes_nothing {left : Option OpenTransaction} (h : Abandoned c left told) :
    told.filterMap Exchange.executed? = [] := by
  induction h with
  | kept | closed => rfl
  | rolledBack t a h ih => exact ih

theorem EnterStory.executes_nothing {a : Except Failure TransactionScope}
    (h : EnterStory a told) :
    told.filterMap Exchange.executed? = [] ∧ ∀ f, a = .error f → f.isRejection = false := by
  cases h with
  | unconnected f =>
    refine ⟨rfl, ?_⟩
    rintro _ ⟨⟩
    rfl
  | unbegun c f h g hg =>
    refine ⟨h.executes_nothing, ?_⟩
    rintro _ ⟨⟩
    rfl
  | entered c t => exact ⟨rfl, nofun⟩

theorem LeaveStory.executes_nothing {t : OpenTransaction} {how : Ending}
    {a : Except Failure Unit} (h : LeaveStory c t how a told) :
    told.filterMap Exchange.executed? = [] ∧ ∀ f, a = .error f → f.isRejection = false := by
  cases h with
  | ended b =>
    refine ⟨by cases how <;> rfl, ?_⟩
    intro f hf
    cases b with
    | error g =>
      cases hf
      rfl
    | ok _ => cases hf
  | unended f h g hg =>
    refine ⟨by cases how <;> exact h.executes_nothing, ?_⟩
    rintro _ ⟨⟩
    rfl

/-- Once a transaction is left, the outcome is the same unless leaving it failed. -/
theorem LeaveStory.then {t : OpenTransaction} {how : Ending} {a : Except Failure Unit}
    (h : LeaveStory c t how a rest) (hr : Sent sql values r told) :
    Sent sql values (a >>= fun _ => r) (told ++ rest) := by
  obtain ⟨hexecuted, hfault⟩ := h.executes_nothing
  refine hr.then hexecuted ?_
  cases a with
  | ok _ => exact .inl rfl
  | error g => exact .inr ⟨g, rfl, hfault g rfl⟩

theorem WriteStory.sent (h : WriteStory (Pool.Missing m settings) sql values r told) :
    Sent sql values r told := by
  cases h with
  | poolless f hf =>
    obtain ⟨e, rfl, he⟩ := Pool.usable_error hf.2
    exact .refused rfl he
  | unentered f told h =>
    obtain ⟨hs, hf⟩ := h.executes_nothing
    exact .refused hs (hf f rfl)
  | left c t x told h a rest hr =>
    cases hr.then h.sent with
    | executed b hb hs hx => exact .executed b hb hs hx
    | withheld f hf hs hbind => exact .withheld f hf hs hbind

theorem Reported.executes_nothing (h : Reported m db what sql values r r' told) :
    told.filterMap Exchange.executed? = [] := by
  cases h <;> rfl

/-- In unassuming surroundings a report does not turn an outcome into a rejection. -/
theorem Reported.unassuming (h : Reported .unassuming db what sql values r r' told) :
    r' = r ∨ ∃ g, r' = .error g ∧ g.isRejection = false := by
  cases h with
  | completed x milliseconds a ha =>
    cases a with
    | ok _ => exact .inl rfl
    | error g => exact .inr ⟨g, rfl, ha⟩
  | passed f hf => exact .inl rfl
  | unheard f hf g hg => exact .inr ⟨g, rfl, hg⟩
  | unsettled f hf hdb g hg => exact .inr ⟨g, rfl, hg⟩
  | wrapped f hf revealing => exact .inr ⟨_, rfl, rfl⟩

/-- In obliging surroundings a result is what a report leaves of it. -/
theorem Reported.obliging {x : QueryResult}
    (h : Reported .obliging db what sql values (.ok x) r told) : r = .ok x := by
  cases h with
  | completed _ milliseconds a ha =>
    obtain rfl : a = .ok () := ha
    rfl

/-- What is left of a statement is left of it when it is reported too. -/
theorem RunStory.sent (h : RunStory .unassuming db what sql values
      (WriteStory (Pool.Missing .unassuming settings) sql values) r told) :
    Sent sql values r told := by
  obtain ⟨x, told, reports, hx, hreported, rfl⟩ := h
  exact hx.sent.then hreported.executes_nothing hreported.unassuming

/-! ### Without a fault -/

theorem ExecutionStory.unhindered (h : ExecutionStory sql values c r told)
    (hm : ∀ x ∈ told, x.fault? = none) : Unhindered sql values r := by
  cases h with
  | unbound f hf => exact .inr ⟨f, hf, rfl⟩
  | executed b hb a =>
    cases a with
    | error f => cases hm _ List.mem_cons_self
    | ok reply => exact .inl ⟨b, _, hb, rfl⟩

theorem LeaveStory.unhindered {t : OpenTransaction} {how : Ending} {a : Except Failure Unit}
    (h : LeaveStory c t how a told) (hm : ∀ x ∈ told, x.fault? = none) : a = .ok () := by
  cases h with
  | ended b =>
    cases b with
    | error f => cases hm ⟨.close c, .error f⟩ (.tail _ List.mem_cons_self)
    | ok _ => rfl
  | unended f h g hg =>
    have hfault := hm _ List.mem_cons_self
    cases how <;> cases hfault

theorem EnterStory.of_unfaulted {f : Failure} (h : EnterStory (.error f) told) :
    ∃ x ∈ told, x.fault? ≠ none := by
  cases h with
  | unconnected f => exact ⟨_, List.mem_cons_self, nofun⟩
  | unbegun c f h g hg => exact ⟨_, .tail _ List.mem_cons_self, nofun⟩

/-- A statement that can be bound succeeds where there is a pool and no fault, and one that cannot
fails for that reason. -/
theorem WriteStory.unhindered {lack : Failure → Prop} (h : WriteStory lack sql values r told)
    (hlack : ∀ f, ¬ lack f) (hm : ∀ x ∈ told, x.fault? = none) : Unhindered sql values r := by
  cases h with
  | poolless f hf => exact absurd hf (hlack f)
  | unentered f told h =>
    obtain ⟨x, hx, hfault⟩ := h.of_unfaulted
    exact absurd (hm x hx) hfault
  | left c t x told h a rest hr =>
    obtain ⟨htold, hrest⟩ := List.forall_mem_append.mp
      (List.forall_mem_cons.mp (List.forall_mem_cons.mp hm).2).2
    rw [hr.unhindered hrest]
    exact h.unhindered htold

end Sent

/-! ## Tables -/

/-- The statement that removes a table, as it is executed. -/
def TableDefinition.boundDrop (t : TableDefinition) : BoundStatement :=
  ⟨String.ofList (namedFrom .outside 0 (dropStatement (quoteName t.table)).toList), []⟩

/-- What was executed when a table definition is rejected. -/
inductive TableDefinition.Rejected (t : TableDefinition) (s s' : Scene) : Prop
  | untouched (hs : s'.executed = s.executed)
  /-- The old table was dropped before the new one could not be created. -/
  | dropped (hdrop : t.dropFirst = true) (create : String) (hcreate : t.createText = .ok create)
      (hcount : countPlaceholders create ≠ 0) (hs : s'.executed = s.executed ++ [t.boundDrop])

theorem ok_of_bind {ε α β : Type} {r : Except ε α} {f : α → Except ε β} {y : β}
    (h : r >>= f = .ok y) : ∃ x, r = .ok x ∧ f x = .ok y := by
  cases r with
  | error e => cases h
  | ok x => exact ⟨x, rfl, h⟩

theorem statements_dropFirst (table create : String) :
    TableDefinition.statements table create true
      = [TableDefinition.dropStatement table, create] := rfl

theorem isRead_dropStatement (table : String) :
    isRead (TableDefinition.dropStatement table) = false :=
  isRead_of_beginsChange table (by decide)

theorem isRead_createStatement (table : String) (definitions : List String) (options : String) :
    isRead (TableDefinition.createStatement table definitions options) = false := by
  delta TableDefinition.createStatement
  simp only [String.append_assoc]
  exact isRead_of_beginsChange _ (by decide)

theorem isRead_createText {t : TableDefinition} {create : String}
    (hcreate : t.createText = .ok create) : isRead create = false := by
  unfold TableDefinition.createText at hcreate
  obtain ⟨columns, -, hcreate⟩ := ok_of_bind hcreate
  obtain ⟨foreignKeys, -, hcreate⟩ := ok_of_bind hcreate
  obtain ⟨checks, -, hcreate⟩ := ok_of_bind hcreate
  obtain ⟨options, -, hcreate⟩ := ok_of_bind hcreate
  cases hcreate
  exact isRead_createStatement _ _ _

theorem bindValues_dropStatement (t : TableDefinition) :
    bindValues (TableDefinition.dropStatement (quoteName t.table)) (.list []) = .ok t.boundDrop := by
  have hinert : Inert (TableDefinition.dropStatement (quoteName t.table)) :=
    Inert.append (by decide) (inert_quoteName t.table)
  rw [bindValues_nil, if_pos hinert.2]
  rfl

namespace Action.Always

variable {m : Manner} {place : Place} {s : Scene} {db : Database} {what : Attempted}
  {sql : String} {values : Value}

/-- A statement that may write and runs on the pool goes as the writing of it does. -/
theorem runWriting (hengine : db.engine.Transacts) (hsql : isRead sql = false) :
    (db.run .pool what sql values).Always m place (fun r s' => ∃ told,
      RunStory m db what sql values (WriteStory (Pool.Missing m db.settings) sql values) r told
      ∧ (∀ x ∈ told, (m.settledIn s).Admits x) ∧ s' = s.tellAll told) s := by
  refine (runStatement hengine .pool what sql values).mono ?_
  rintro r s' ⟨_, ⟨x, told, reports, hx, hreported, rfl⟩, hadmitted, hs⟩
  cases hx with
  | read hread h =>
    rw [hsql] at hread
    cases hread
  | written hwritten h => exact ⟨_, ⟨x, told, reports, h, hreported, rfl⟩, hadmitted, hs⟩

theorem runPool (hengine : db.engine.Transacts) (hsql : isRead sql = false) :
    (db.run .pool what sql values).Always .unassuming place (fun r s' => ∃ told,
      Sent sql values r told ∧ s' = s.tellAll told) s := by
  refine (runWriting hengine hsql).mono ?_
  rintro r s' ⟨told, htold, -, hs⟩
  exact ⟨told, htold.sent, hs⟩

/-- In obliging surroundings nothing stands in the way of a statement before it is reported. -/
theorem runPool_obliging (hengine : db.engine.Transacts) (hsql : isRead sql = false) :
    (db.run .pool what sql values).Always .obliging place (fun r s' => ∃ x told reports,
      Unhindered sql values x ∧ Sent sql values x told
        ∧ Reported .obliging db what sql values x r reports
        ∧ s'.executed = s.executed ++ told.filterMap Exchange.executed?) s := by
  refine (runWriting hengine hsql).mono ?_
  rintro r _ ⟨_, ⟨x, told, reports, hx, hreported, rfl⟩, hadmitted, rfl⟩
  have hfree : Unhindered sql values x := hx.unhindered (fun f hf => nomatch hf.1)
    fun y hy => Manner.unfaulted_of_obliging (hadmitted y (List.mem_append_left reports hy))
  refine ⟨x, told, reports, hfree, hx.sent, hreported, ?_⟩
  rw [Scene.tellAll_executed, List.filterMap_append, hreported.executes_nothing, List.append_nil]

theorem runPool_bound (hengine : db.engine.Transacts) (hsql : isRead sql = false)
    {b : BoundStatement} (hb : bindValues sql values = .ok b) :
    (db.run .pool what sql values).Always .obliging place (fun r s' =>
      (∃ x, r = .ok x) ∧ s'.executed = s.executed ++ [b]) s := by
  refine (runPool_obliging hengine hsql).mono ?_
  rintro r s' ⟨_, told, reports, ⟨-, x, -, rfl⟩ | ⟨f, hf, -⟩, hsent, hreported, hs⟩
  · obtain ⟨b', hb', htold⟩ := hsent.of_ok
    obtain rfl : b = b' := Except.ok.inj (hb.symm.trans hb')
    exact ⟨⟨x, hreported.obliging⟩, by rw [hs, htold]⟩
  · rw [hb] at hf
    cases hf

/-- A statement that has placeholders but no values is rejected in obliging surroundings. -/
theorem runPool_unbound (hengine : db.engine.Transacts) (hsql : isRead sql = false)
    (hcount : countPlaceholders sql ≠ 0) :
    (db.run .pool what sql (.list [])).Always .obliging place (fun r s' =>
      r = .error (Rejection.tooFewValues sql 0).failure ∧ s'.executed = s.executed) s := by
  have hbind : bindValues sql (.list []) = .error (Rejection.tooFewValues sql 0).failure := by
    rw [bindValues_nil, if_neg hcount]
  refine (runPool_obliging hengine hsql).mono ?_
  rintro r s' ⟨_, told, reports, ⟨b, x, hb, -⟩ | ⟨f, hf, rfl⟩, hsent, hreported, hs⟩
  · rw [hbind] at hb
    cases hb
  · obtain rfl : _ = f := Except.error.inj (hbind.symm.trans hf)
    obtain ⟨htold, -⟩ := hsent.of_rejection rfl
    exact ⟨(hreported.of_own rfl).1, by rw [hs, htold, List.append_nil]⟩

/-- A definition that is composed does what its statements do. -/
theorem createTable_of_composed {m : Manner} {t : TableDefinition} {create : String}
    (hcreate : t.createText = .ok create) {Q : Except Failure Unit → Scene → Prop}
    (h : ∀ elsewhere, (db.runAll (TableDefinition.statements (quoteName t.table) create
      t.dropFirst)).Always m elsewhere Q s) :
    (db.createTable t).Always m place Q s := by
  have hcompile : t.compile
      = .ok (TableDefinition.statements (quoteName t.table) create t.dropFirst) := by
    unfold TableDefinition.compile
    rw [hcreate]
    rfl
  unfold Database.createTable Database.traced
  refine traced fun elsewhere => silent (logAll ⟨rfl, rfl⟩) ?_
  rw [hcompile]
  refine next (pure (bind (h elsewhere) ?_ ?_))
  · exact fun _ _ hr => log hr
  · exact fun _ _ hr => hr

/-- Creating a table is rejected before anything was executed, or after the old table was dropped. -/
theorem createTable (hengine : db.engine.Transacts) (t : TableDefinition) :
    (db.createTable t).Always .unassuming place (fun r s' => ∀ f, r = .error f →
      f.isRejection = true → t.Rejected s s') s := by
  cases hcreate : t.createText with
  | error e =>
    have hcompile : t.compile = .error e := by
      unfold TableDefinition.compile
      rw [hcreate]
      rfl
    unfold Database.createTable Database.traced
    refine traced fun elsewhere => silent (logAll ⟨rfl, rfl⟩) ?_
    rw [hcompile]
    exact raised fun _ _ _ => .untouched rfl
  | ok create =>
    -- nothing is left to reject but the binding of the statements, the second of which can fail
    refine createTable_of_composed hcreate fun elsewhere => ?_
    have hcreated (s : Scene) : (db.runAll [create]).Always .unassuming elsewhere (fun r s' =>
        ∀ f, r = .error f → f.isRejection = true → s'.executed = s.executed
          ∧ countPlaceholders create ≠ 0) s := by
      refine bind (runPool hengine (isRead_createText hcreate)) ?_ ?_
      · exact fun _ _ _ => pure fun f hf => nomatch hf
      · rintro g _ ⟨told, hg, rfl⟩ _ ⟨⟩ hrejected
        obtain ⟨hs, hbind⟩ := hg.of_rejection hrejected
        rw [Scene.tellAll_executed, hs, List.append_nil]
        exact ⟨rfl, (countPlaceholders_of_unbound hbind).1⟩
    cases hdrop : t.dropFirst with
    | false =>
      refine (hcreated s).mono ?_
      exact fun r s' hr f hf hrejected => .untouched (hr f hf hrejected).1
    | true =>
      rw [statements_dropFirst, Database.runAll]
      refine bind (runPool hengine (isRead_dropStatement _)) ?_ ?_
      · rintro x _ ⟨told, hx, rfl⟩
        obtain ⟨b, hb, hs⟩ := hx.of_ok
        rw [bindValues_dropStatement] at hb
        obtain rfl : t.boundDrop = b := Except.ok.inj hb
        refine (hcreated (s.tellAll told)).mono ?_
        intro r s' hr f hf hrejected
        obtain ⟨hs', hcount⟩ := hr f hf hrejected
        rw [Scene.tellAll_executed, hs] at hs'
        exact .dropped hdrop create hcreate hcount hs'
      · rintro g _ ⟨told, hg, rfl⟩ _ ⟨⟩ hrejected
        refine .untouched ?_
        rw [Scene.tellAll_executed, (hg.of_rejection hrejected).1, List.append_nil]

/-- In obliging surroundings a table whose definition has a placeholder is rejected after the old
table was dropped, if that was asked for. -/
theorem createTable_obliging (hengine : db.engine.Transacts) {t : TableDefinition}
    {create : String} (hcreate : t.createText = .ok create) (hcount : countPlaceholders create ≠ 0) :
    (db.createTable t).Always .obliging place (fun r s' =>
      r = .error (Rejection.tooFewValues create 0).failure
        ∧ s'.executed = s.executed ++ if t.dropFirst then [t.boundDrop] else []) s := by
  refine createTable_of_composed hcreate fun elsewhere => ?_
  have hcreated (s : Scene) : (db.runAll [create]).Always .obliging elsewhere (fun r s' =>
      r = .error (Rejection.tooFewValues create 0).failure ∧ s'.executed = s.executed) s := by
    refine bind (runPool_unbound hengine (isRead_createText hcreate) hcount) ?_ ?_
    · rintro x s' ⟨hx, -⟩
      cases hx
    · rintro f s' ⟨hf, hs⟩
      cases hf
      exact ⟨rfl, hs⟩
  cases t.dropFirst with
  | false =>
    refine (hcreated s).mono ?_
    rintro r s' ⟨hr, hs⟩
    exact ⟨hr, by rw [hs, if_neg Bool.false_ne_true, List.append_nil]⟩
  | true =>
    rw [statements_dropFirst, Database.runAll]
    refine bind (runPool_bound hengine (isRead_dropStatement _) (bindValues_dropStatement t)) ?_ ?_
    · rintro x s₁ ⟨-, hs₁⟩
      refine (hcreated s₁).mono ?_
      rintro r s' ⟨hr, hs'⟩
      exact ⟨hr, hs'.trans hs₁⟩
    · rintro f s₁ ⟨⟨x, hf⟩, -⟩
      cases hf

end Action.Always

/-! ## Rejected definitions -/

/-- A definition is rejected, if it is, before anything was executed: in all surroundings that
reject nothing themselves. -/
def Database.RejectsInTime (db : Database) (t : TableDefinition) : Prop :=
  ∀ (σ : Type) (env : Surroundings σ) (place : Place) (s : Scene) (w : σ),
    env.Keeps .unassuming →
    let final := env.perform place (db.createTable t) (s, w)
    ∀ e, final.1 = .error (.error e) → e.code.isValidation = true → final.2.1.executed = s.executed

/-- A table definition is rejected in time exactly if it does not both ask for the old table to be
dropped and hold a placeholder. If it is not, then nothing but the statement that drops the old
table was executed. -/
theorem rejectsInTime_iff {db : Database} (hengine : db.engine.Transacts) (t : TableDefinition) :
    (db.RejectsInTime t ↔ ¬ (t.dropFirst = true
        ∧ ∃ create, t.createText = .ok create ∧ countPlaceholders create ≠ 0))
      ∧ ∀ (σ : Type) (env : Surroundings σ) (place : Place) (s : Scene) (w : σ),
        env.Keeps .unassuming →
        let final := env.perform place (db.createTable t) (s, w)
        ∀ e, final.1 = .error (.error e) → e.code.isValidation = true →
          final.2.1.executed = s.executed ∨ final.2.1.executed = s.executed ++ [t.boundDrop] := by
  have hrejected {σ : Type} (env : Surroundings σ) (place : Place) (s : Scene) (w : σ)
      (henv : env.Keeps .unassuming) (e : QueryError)
      (he : (env.perform place (db.createTable t) (s, w)).1 = .error (.error e))
      (hcode : e.code.isValidation = true) :
      t.Rejected s (env.perform place (db.createTable t) (s, w)).2.1 :=
    Action.always_perform henv (Action.Always.createTable hengine t) w (.error e) he hcode
  refine ⟨⟨?_, ?_⟩, ?_⟩
  · rintro hinTime ⟨hdrop, create, hcreate, hcount⟩
    have hall : (db.createTable t).Always .obliging .top (fun r s' =>
        r = .error (Rejection.tooFewValues create 0).failure
          ∧ s'.executed = Scene.start.executed ++ if t.dropFirst then [t.boundDrop] else [])
        .start := Action.Always.createTable_obliging hengine hcreate hcount
    have hdropped := Action.always_perform Surroundings.keeps_obliging hall ()
    have huntouched := hinTime Unit Surroundings.obliging .top .start ()
      Surroundings.obliging_unassuming _ hdropped.1 rfl
    rw [hdropped.2, if_pos hdrop] at huntouched
    exact List.cons_ne_nil _ _ (List.append_right_eq_self.mp huntouched)
  · intro hcond σ env place s w henv final e he hcode
    cases hrejected env place s w henv e he hcode with
    | untouched hs => exact hs
    | dropped hdrop create hcreate hcount hs =>
      exact absurd ⟨hdrop, create, hcreate, hcount⟩ hcond
  · intro σ env place s w henv final e he hcode
    cases hrejected env place s w henv e he hcode with
    | untouched hs => exact .inl hs
    | dropped hdrop create hcreate hcount hs => exact .inr hs

/-- A table of orders whose prices are checked against a value that nobody supplies. -/
def pricedOrders (dropFirst : Bool) : TableDefinition :=
  { table := "orders"
    columns := [⟨"id", .int, ⟨none, none, true, false, false, false, none, none, none, none, [],
      none⟩⟩]
    primaryKey := ["id"]
    indexes := []
    foreignKeys := []
    checks := [⟨"positive", "price > ?"⟩]
    options := none
    dropFirst := dropFirst }

/-- A database with nothing set. -/
def plainDatabase : Database :=
  ⟨Engine.careful ⟨none, none, none, none, 3306, "", 1, 0, 30, 3600⟩, some false⟩

theorem plainDatabase_transacts : plainDatabase.engine.Transacts := Engine.transacts_careful _

/-- What becomes of creating the table when nothing else goes wrong. -/
def ordersCreated (dropFirst : Bool) : Except Failure Unit × (Scene × Unit) :=
  Surroundings.obliging.perform .top (plainDatabase.createTable (pricedOrders dropFirst))
    (.start, ())

theorem ordersCreated_rejected (dropFirst : Bool) :
    (∃ e, (ordersCreated dropFirst).1 = .error (.error e) ∧ e.code.isValidation = true)
      ∧ (ordersCreated dropFirst).2.1.executed
        = if dropFirst then [(pricedOrders dropFirst).boundDrop] else [] := by
  have hcount : (pricedOrders dropFirst).createText.toOption.map countPlaceholders = some 1 := by
    have hkept : (pricedOrders false).createText.toOption.map countPlaceholders = some 1 := by
      decide +kernel
    exact hkept
  cases hcreate : (pricedOrders dropFirst).createText with
  | error e =>
    rw [hcreate] at hcount
    cases hcount
  | ok create =>
    rw [hcreate] at hcount
    have hone : countPlaceholders create = 1 := Option.some.inj hcount
    obtain ⟨hrejected, hexecuted⟩ := Action.always_perform Surroundings.keeps_obliging
      (Action.Always.createTable_obliging plainDatabase_transacts hcreate (by omega)) ()
    exact ⟨⟨_, hrejected, rfl⟩, hexecuted⟩

/-- A definition that keeps the old table of orders is rejected, and nothing was executed. -/
theorem ordersCreated_kept :
    Surroundings.obliging.Keeps .unassuming
      ∧ (∃ e, (ordersCreated false).1 = .error (.error e) ∧ e.code.isValidation = true)
      ∧ (ordersCreated false).2.1.executed = Scene.start.executed := by
  obtain ⟨⟨e, he, hcode⟩, -⟩ := ordersCreated_rejected false
  have hinTime : plainDatabase.RejectsInTime (pricedOrders false) :=
    (rejectsInTime_iff plainDatabase_transacts (pricedOrders false)).1.mpr fun hdrop =>
      nomatch hdrop.1
  have hkept : (ordersCreated false).2.1.executed = Scene.start.executed :=
    hinTime Unit Surroundings.obliging .top .start () Surroundings.obliging_unassuming e he hcode
  exact ⟨Surroundings.obliging_unassuming, ⟨e, he, hcode⟩, hkept⟩

/-- A definition that drops the old table of orders is rejected too, and the old table is gone. -/
theorem ordersCreated_dropped :
    Surroundings.obliging.Keeps .unassuming
      ∧ (∃ e, (ordersCreated true).1 = .error (.error e) ∧ e.code.isValidation = true)
      ∧ (ordersCreated true).2.1.executed.map (·.statement)
        = Scene.start.executed.map (·.statement) ++ ["DROP TABLE IF EXISTS `orders`"] := by
  obtain ⟨hrejected, hexecuted⟩ := ordersCreated_rejected true
  have hdrop : (pricedOrders true).boundDrop.statement = "DROP TABLE IF EXISTS `orders`" := by
    decide
  refine ⟨Surroundings.obliging_unassuming, hrejected, ?_⟩
  rw [hexecuted, ← hdrop]
  rfl

end SqlComposer
