import SqlComposer.Database.Fetch
import SqlComposer.Proofs.Discretion
import SqlComposer.Proofs.Modes
import SqlComposer.Proofs.Runs

/-!
# A page and its count, side by side

A page of rows is fetched by two statements that run side by side on one pool and report to one
query log. Nothing of one can come to the other: what each of them tells is a story of its own
(`FetchStory`), with its own statement and its own values from the first attempt to the report, and
what both tell is an interleaving of the two stories. So the page has the rows of the one and the
count of the other in whatever order their steps come, and if statements fail, the page fails with
the failure of one of them.

The stories of the statements are those of `ReadStory`, for both statements only read.
-/

set_option autoImplicit false

namespace SqlComposer

open SqlComposer.Sql

/-! ## What one statement tells -/

/-- How fetching with a statement goes: it is read, and then it is reported. -/
def FetchStory (m : Manner) (db : Database) (sql : String) (values : Value) :
    Except Failure QueryResult → List Exchange → Prop :=
  RunStory m db .fetch sql values (ReadStory (Pool.Missing m db.settings) sql values 2)

open Action.Tells in
/-- A statement that only reads is fetched with in a story of its own. It needs no transaction, so
nothing is asked of the engine. -/
theorem Action.Tells.fetch {m : Manner} {place : Place} (db : Database) {sql : String}
    (values : Value) (hsql : isRead sql = true) :
    (db.run .pool .fetch sql values).Tells m place (FetchStory m db sql values) :=
  runStatement (queryReading db.engine values hsql)

/-! ## What its story says about a statement -/

/-- The statement that was executed and what the database said to it, if it did not fail. -/
def Exchange.replied? : Exchange → Option (BoundStatement × Reply)
  | ⟨.execute _ b, .ok reply⟩ => some (b, reply)
  | _ => none

/-- A result is what the database said last, to the statement bound to its values. -/
def Answered (sql : String) (values : Value) (own : List Exchange) (x : QueryResult) : Prop :=
  ∃ b reply, bindValues sql values = .ok b
    ∧ (own.filterMap Exchange.replied?).getLast? = some (b, reply) ∧ x = reply.result

/-- The query log takes the failures it is told of, and the settings can be read. -/
def Manner.Heeding (m : Manner) : Prop :=
  (∀ sql f values g, ¬ m (.reportError sql f values) (.error g)) ∧ ∀ g, ¬ m .settings (.error g)

/-- The database ended what is told by a fault, which is no cancellation. -/
structure BrokenBy (f : Fault) (told : List Exchange) : Prop where
  handled : f.handled = true
  standing : standingFault? told = some f

/-- The error of a fetch with a statement that the database refused. -/
def fetchError (sql : String) (f : Fault) (revealing : Bool) : QueryError :=
  .execution Attempted.fetch.text f (some sql) revealing .empty

section Consequences

variable {m : Manner} {db : Database} {lack : Failure → Prop} {sql : String} {values : Value}
  {left : Nat} {x : QueryResult} {r : Except Failure QueryResult} {told own : List Exchange}

/-- The result of an attempt is what the database said in it. -/
theorem AttemptStory.answered (h : AttemptStory lack sql values (.ok x) told) :
    Answered sql values told x := by
  generalize hr : (Except.ok x : Except Failure QueryResult) = r at h
  cases h with
  | unconnected f told h => cases hr
  | lent c y told h b =>
    cases b with
    | error f => cases hr
    | ok _ =>
      obtain rfl : .ok x = y := hr
      generalize hx : (Except.ok x : Except Failure QueryResult) = y at h
      cases h with
      | unbound f hf => cases hx
      | executed b hb a =>
        cases a with
        | error f => cases hx
        | ok reply =>
          cases hx
          exact ⟨b, reply, hb, rfl, rfl⟩

/-- Only what is said in the last attempt counts. -/
theorem ReadStory.answered (h : ReadStory lack sql values left (.ok x) told) :
    Answered sql values told x := by
  generalize hr : (Except.ok x : Except Failure QueryResult) = r at h
  induction h with
  | last h =>
    subst hr
    exact h.answered
  | again f h hkind delay hrest ih =>
    obtain ⟨b, reply, hb, hlast, hx⟩ := ih hr
    refine ⟨b, reply, hb, ?_, hx⟩
    have hpause (rest : List Exchange) :
        (⟨.sleep delay, ()⟩ :: rest).filterMap Exchange.replied?
          = rest.filterMap Exchange.replied? := rfl
    rw [List.filterMap_append, List.getLast?_append, hpause, hlast]
    rfl

/-- A fetch that succeeded was read to the end and reported as completed. -/
theorem FetchStory.completed (h : FetchStory m db sql values (.ok x) own) :
    ∃ told milliseconds, ReadStory (Pool.Missing m db.settings) sql values 2 (.ok x) told
      ∧ own = told ++ [⟨.reportQuery sql values milliseconds, .ok ()⟩] := by
  obtain ⟨read, told, reports, hread, hreported, rfl⟩ := h
  generalize hr : (Except.ok x : Except Failure QueryResult) = r at hreported
  cases hreported with
  | completed y milliseconds a ha =>
    cases a with
    | error g => cases hr
    | ok _ =>
      cases hr
      exact ⟨told, milliseconds, hread, rfl⟩
  | passed f hf => cases hr
  | unheard f hf g hg => cases hr
  | unsettled f hf hdb g hg => cases hr
  | wrapped f hf revealing hdb => cases hr

/-- The result of a fetch is what the database said last. -/
theorem FetchStory.answered (h : FetchStory m db sql values (.ok x) own) :
    Answered sql values own x := by
  obtain ⟨told, milliseconds, hread, rfl⟩ := h.completed
  obtain ⟨b, reply, hb, hlast, hx⟩ := hread.answered
  refine ⟨b, reply, hb, ?_, hx⟩
  rw [List.filterMap_append, ← hlast]
  simp [Exchange.replied?]

/-- A fetch that succeeded is reported once. -/
theorem FetchStory.reported (h : FetchStory m db sql values (.ok x) own) :
    ∃ milliseconds, own.filter Exchange.reports
      = [⟨.reportQuery sql values milliseconds, .ok ()⟩] := by
  obtain ⟨told, milliseconds, hread, rfl⟩ := h.completed
  refine ⟨milliseconds, ?_⟩
  rw [List.filter_append, unreported_of_isDriving hread.isDriving]
  rfl

/-- A fetch that the driver ended, and not with a cancellation, is wrapped. -/
theorem FetchStory.wrapped (h : FetchStory m db sql values r own) (hm : m.Heeding) {f : Fault}
    (hf : BrokenBy f own) :
    ∃ revealing, r = .error (.error (fetchError sql f revealing)) := by
  obtain ⟨read, told, reports, hread, hreported, rfl⟩ := h
  have hstanding : standingFault? told = some f := (hreported.standing told).symm.trans hf.standing
  obtain rfl : read = .error (.fault f) := hread.standing hstanding
  cases hreported with
  | passed _ hown => exact absurd (hown.symm.trans hf.handled) nofun
  | unheard _ hforeign e he => exact (hm.1 sql _ values e he).elim
  | unsettled _ hforeign hdb e he => exact (hm.2 e he).elim
  | wrapped _ hforeign revealing hdb => exact ⟨revealing, rfl⟩

end Consequences

/-! ## Both statements -/

namespace Action.Tells

variable {α : Type} {m : Manner} {place : Place} {T : Except Failure α → List Exchange → Prop}

/-- Composing a query tells nothing. -/
theorem composed {q : Query} {mode : Mode} {c : CompiledQuery} {f : CompiledQuery → Action α}
    (hc : q.compile mode = .ok c) (h : (f c).Tells m place T) :
    (Database.composed q mode >>= f).Tells m place T := by
  refine silent ?_ h
  unfold Database.composed
  rw [hc]
  exact next (raising (silent (log ⟨rfl, rfl⟩) (pure ⟨rfl, rfl⟩)))

/-- Neither does binding its values. -/
theorem bound {c : CompiledQuery} {values : Value} {vs : List Value} {f : Value → Action α}
    (hvs : c.bindValues values = .ok vs) (h : (f (.list vs)).Tells m place T) :
    (Database.bound c values >>= f).Tells m place T := by
  refine silent ?_ h
  unfold Database.bound
  rw [hvs]
  exact next (raising (pure ⟨rfl, rfl⟩))

end Action.Tells

/-- A statement is fetched with: it has a run of its own and the story of a fetch. -/
structure Fetched (db : Database) (m : Manner) (sql : String) (values : Value)
    (r : Except Failure QueryResult) (own : List Exchange) : Prop where
  run : ∃ place told, (db.run .pool .fetch sql values).Goes place told r
    ∧ own = told.filter Exchange.isLoud
  story : FetchStory m db sql values r own

/-- A fetch has a run of its own and its story. -/
theorem Action.Tells.fetched {m : Manner} {place : Place} (db : Database) {sql : String}
    (values : Value) (hsql : isRead sql = true) :
    (db.run .pool .fetch sql values).Tells m place (Fetched db m sql values) := by
  refine (ofRun (fetch db values hsql)).mono ?_
  rintro r own ⟨⟨told, hgoes, hown⟩, hstory⟩
  exact ⟨⟨place, told, hgoes, hown⟩, hstory⟩

/-- What a page comes to when its two statements have ended. -/
def pageOf (rows counted : Except Failure QueryResult) (rowsFirst : Bool) :
    Except Failure DataPage := do
  let (x, y) ← Action.joined rows counted rowsFirst
  let n ← (countOf y).mapError .fault
  return ⟨x.rows, n⟩

/-- A page and its count tell what two fetches tell, interleaved. -/
theorem Action.Tells.getData {m : Manner} {place : Place} {db : Database} {schedule : List Bool}
    {q : Query} {values : Value} {row count : CompiledQuery} {rowValues countValues : List Value}
    (hrow : q.compile .row = .ok row) (hcount : q.compile .count = .ok count)
    (hrowValues : row.bindValues values = .ok rowValues)
    (hcountValues : count.bindValues values = .ok countValues) :
    (db.getData schedule q values false).Tells m place fun outcome t => ∃ r r' own own' first,
      Fetched db m row.sql (.list rowValues) r own
        ∧ Fetched db m count.sql (.list countValues) r' own'
        ∧ Interleaved own own' t ∧ outcome = pageOf r r' first := by
  unfold Database.getData Database.traced
  refine traced fun elsewhere => ?_
  rw [if_neg Bool.false_ne_true]
  unfold Database.fetchCounted
  refine composed hrow (composed hcount (bound hrowValues (bound hcountValues ?_)))
  refine bind (both (fetched db (.list rowValues) (Query.isRead_compile hrow))
    (fetched db (.list countValues) (Query.isRead_compile hcount))) ?_ ?_
  · rintro ⟨x, y⟩ t ⟨r, r', own, own', first, hr, hr', ht, hjoined⟩
    have hpage (n : Except Failure Int) (hn : (countOf y).mapError .fault = n) :
        pageOf r r' first = n >>= fun n => .ok ⟨x.rows, n⟩ := by
      rw [pageOf, ← hjoined, ← hn]
      rfl
    rw [← List.append_nil t] at ht
    refine next (ofOutcome ?_)
    cases hcounted : countOf y with
    | error f => exact ⟨r, r', own, own', first, hr, hr', ht, by rw [hpage _ rfl, hcounted]; rfl⟩
    | ok n =>
      exact pure ⟨r, r', own, own', first, hr, hr', ht, by rw [hpage _ rfl, hcounted]; rfl⟩
  · rintro f t ⟨r, r', own, own', first, hr, hr', ht, hjoined⟩
    refine ⟨r, r', own, own', first, hr, hr', ht, ?_⟩
    rw [pageOf, ← hjoined]
    rfl

/-! ## Pages -/

/-- The number of rows that the rows of a count say: the integer under `count` in the first of
them, and zero if there is no row or nothing under `count`. -/
inductive Counts : List (List (String × Value)) → Int → Prop
  | noRow : Counts [] 0
  | absent {row : List (String × Value)} {rows : List (List (String × Value))}
      (h : lookup? "count" row = none) : Counts (row :: rows) 0
  | null {row : List (String × Value)} {rows : List (List (String × Value))}
      (h : lookup? "count" row = some .null) : Counts (row :: rows) 0
  | integer {row : List (String × Value)} {rows : List (List (String × Value))} {n : Int}
      (h : lookup? "count" row = some (.int n)) : Counts (row :: rows) n

/-- A count in the rows is read as the number it is. -/
theorem countOf_of_counts {y : QueryResult} {n : Int} (h : Counts y.rows n) : countOf y = .ok n := by
  unfold countOf
  generalize y.rows = rows at h
  cases h with
  | noRow => rfl
  | absent h => simp only [h]
  | null h => simp [h, Value.truthy]
  | integer h =>
    by_cases hn : n = 0
    · simp [h, hn, Value.truthy]
    · simp [h, hn, Value.truthy, Value.toWhole]

/-- What was answered in a run. -/
def Manner.of (told : List Exchange) : Manner := fun r a => ⟨r, a⟩ ∈ told

/-- What a run comes to that fetches with two statements side by side, one for rows and one for
their number, which end with `r` and `r'` and tell `own` and `own'`. -/
structure FetchedSideBySide (db : Database) (sql sql' : String) (values values' : Value)
    (r r' : Except Failure QueryResult) (own own' told : List Exchange)
    (outcome : Except Failure DataPage) : Prop where
  /-- Nothing else is told than what each of the statements tells with its own values. -/
  interleaved : Interleaved own own' (told.filter Exchange.isLoud)
  rows : Fetched db (.of told) sql values r own
  counted : Fetched db (.of told) sql' values' r' own'
  /-- If both succeed, the page has the rows that the database said last to the one statement and
  the number that it said last to the other. -/
  page : ∀ x y n, r = .ok x → r' = .ok y → Counts y.rows n →
    Answered sql values own x ∧ Answered sql' values' own' y ∧ outcome = .ok ⟨x.rows, n⟩
  /-- If both succeed, the query log is told once of each, with its own values. -/
  reported : ∀ x y, r = .ok x → r' = .ok y → ∃ ms ms',
    Interleaved [⟨.reportQuery sql values ms, .ok ()⟩] [⟨.reportQuery sql' values' ms', .ok ()⟩]
      (told.filter Exchange.reports)
  /-- If one of them fails, and only the database is to blame, there is no page, and the error is
  that of a statement that failed. -/
  failed : (Manner.of told).Heeding → (∃ f, r = .error f ∨ r' = .error f) →
    (∀ f, r = .error f → ∃ g, BrokenBy g own) → (∀ f, r' = .error f → ∃ g, BrokenBy g own') →
    ∃ e g revealing, outcome = .error (.error e) ∧ e.code.text = "EXECUTION_002"
      ∧ ((∃ f, r = .error f) ∧ BrokenBy g own ∧ e = fetchError sql g revealing
        ∨ (∃ f, r' = .error f) ∧ BrokenBy g own' ∧ e = fetchError sql' g revealing)

/-- A report is part of the story. -/
theorem Exchange.loud_of_reports {x : Exchange} (h : x.reports = true) : x.isLoud = true := by
  obtain ⟨request, answer⟩ := x
  cases request <;> first | rfl | cases h

/-- Two fetches whose stories are interleaved come to a page of both. -/
theorem FetchedSideBySide.of_fetched {db : Database} {sql sql' : String} {values values' : Value}
    {r r' : Except Failure QueryResult} {own own' told : List Exchange} {first : Bool}
    (hrows : Fetched db (.of told) sql values r own)
    (hcounted : Fetched db (.of told) sql' values' r' own')
    (htold : Interleaved own own' (told.filter Exchange.isLoud)) :
    FetchedSideBySide db sql sql' values values' r r' own own' told (pageOf r r' first) := by
  refine ⟨htold, hrows, hcounted, ?_, ?_, ?_⟩
  · rintro x y n rfl rfl hn
    refine ⟨hrows.story.answered, hcounted.story.answered, ?_⟩
    rw [pageOf, Action.joined]
    change ((countOf y).mapError Failure.fault >>= fun n => Except.ok (DataPage.mk x.rows n)) = _
    rw [countOf_of_counts hn]
    rfl
  · rintro x y rfl rfl
    obtain ⟨ms, hms⟩ := hrows.story.reported
    obtain ⟨ms', hms'⟩ := hcounted.story.reported
    have hloud : (told.filter Exchange.isLoud).filter Exchange.reports
        = told.filter Exchange.reports := by
      rw [List.filter_filter]
      apply List.filter_congr
      intro x _
      by_cases hx : x.reports
      · simp [hx, Exchange.loud_of_reports hx]
      · simp [hx]
    have hboth := htold.filter Exchange.reports
    rw [hms, hms', hloud] at hboth
    exact ⟨ms, ms', hboth⟩
  · intro hm hsome hr hr'
    have hleft (f : Failure) (hf : r = .error f) : ∃ g revealing, BrokenBy g own
        ∧ r = .error (.error (fetchError sql g revealing)) := by
      obtain ⟨g, hg⟩ := hr f hf
      obtain ⟨revealing, hwrapped⟩ := hrows.story.wrapped hm hg
      exact ⟨g, revealing, hg, hwrapped⟩
    have hright (f : Failure) (hf : r' = .error f) : ∃ g revealing, BrokenBy g own'
        ∧ r' = .error (.error (fetchError sql' g revealing)) := by
      obtain ⟨g, hg⟩ := hr' f hf
      obtain ⟨revealing, hwrapped⟩ := hcounted.story.wrapped hm hg
      exact ⟨g, revealing, hg, hwrapped⟩
    cases r with
    | ok x =>
      cases r' with
      | ok y =>
        obtain ⟨f, hf | hf⟩ := hsome
        · cases hf
        · cases hf
      | error f' =>
        obtain ⟨g, revealing, hg, ⟨⟩⟩ := hright f' rfl
        exact ⟨_, g, revealing, rfl, rfl, .inr ⟨⟨_, rfl⟩, hg, rfl⟩⟩
    | error f =>
      obtain ⟨g, revealing, hg, ⟨⟩⟩ := hleft f rfl
      cases r' with
      | ok y => exact ⟨_, g, revealing, rfl, rfl, .inl ⟨⟨_, rfl⟩, hg, rfl⟩⟩
      | error f' =>
        obtain ⟨g', revealing', hg', ⟨⟩⟩ := hright f' rfl
        cases first with
        | true => exact ⟨_, g, revealing, rfl, rfl, .inl ⟨⟨_, rfl⟩, hg, rfl⟩⟩
        | false => exact ⟨_, g', revealing', rfl, rfl, .inr ⟨⟨_, rfl⟩, hg', rfl⟩⟩

/-- Values that the row statement of a query takes are taken by its count statement. -/
theorem Query.bindValues_count {q : Query} {values : Value} {rowValues : List Value}
    (h : (q.composed .row).bindValues values = .ok rowValues) :
    ∃ countValues, (q.composed .count).bindValues values = .ok countValues := by
  unfold CompiledQuery.bindValues at h ⊢
  cases helements : values.elements with
  | error f =>
    rw [helements] at h
    cases h
  | ok vs =>
    rw [helements] at h
    have hlength : (vs.length : Int) = (q.composed .row).callers := by
      by_contra hne
      obtain ⟨e, he, -⟩ := CompiledQuery.bind_of_ne hne
      cases he.symm.trans h
    obtain ⟨columns, countValues, rest, -, hcount, -, -⟩ := q.composed_sameBody.binds vs hlength
    exact ⟨countValues, hcount⟩

/-- A page and its count, fetched side by side in any order of their steps and with whatever the
database, the query log and the clock say, come to what both statements say alone. Every order of
the steps of two fetches is one for some schedule. -/
theorem getData_side_by_side {q : Query} {values : Value} {row : CompiledQuery}
    {rowValues : List Value} (hrow : q.compile .row = .ok row)
    (hrowValues : row.bindValues values = .ok rowValues) :
    ∃ count countValues, q.compile .count = .ok count ∧ count.bindValues values = .ok countValues
      ∧ (∀ (db : Database) (schedule : List Bool) (place : Place) (told : List Exchange)
        (outcome : Except Failure DataPage),
        (db.getData schedule q values false).Goes place told outcome →
        ∃ r r' own own', FetchedSideBySide db row.sql count.sql (.list rowValues) (.list countValues)
          r r' own own' told outcome)
      ∧ ∀ (db : Database) (place : Place) (t t' told : List Exchange)
        (r r' : Except Failure QueryResult),
        (db.run .pool .fetch row.sql (.list rowValues)).Goes place t r →
        (db.run .pool .fetch count.sql (.list countValues)).Goes place t' r' →
        Interleaved t t' told →
        ∃ schedule first, (Action.both schedule
          (db.run .pool .fetch row.sql (.list rowValues))
          (db.run .pool .fetch count.sql (.list countValues))).Goes place told
          (Action.joined r r' first) := by
  rw [Query.compile_eq, outcome_eq_ok_iff] at hrow
  obtain ⟨hnone, rfl⟩ := hrow
  have hcompile (mode : Mode) : q.compile mode = .ok (q.composed mode) := by
    rw [Query.compile_eq, hnone, outcome_nil]
  obtain ⟨countValues, hcountValues⟩ := Query.bindValues_count hrowValues
  refine ⟨q.composed .count, countValues, hcompile .count, hcountValues, ?_, ?_⟩
  · intro db schedule place told outcome hgoes
    obtain ⟨r, r', own, own', first, hr, hr', htold, rfl⟩ :=
      (Action.Tells.getData (hcompile .row) (hcompile .count) hrowValues hcountValues).goes
        (m := .of told) hgoes fun _ hx => hx
    exact ⟨r, r', own, own', .of_fetched hr hr' htold⟩
  · intro db place t t' told r r' hr hr' htold
    exact Action.goes_both hr hr' htold

/-- Surroundings in which the database says to every statement that there are `n` rows. -/
def Surroundings.counting (n : Int) : Surroundings Unit
  | .execute .., w => (.ok ⟨some [[("count", .int n)]], none, 0⟩, w)
  | r, w => Surroundings.obliging r w

/-- The names of orders. -/
def orderNames : Query := Query.ofTable "orders" [("n", .column "name")]

/-- A page of orders, fetched in some order of the steps. -/
def orderPage (env : Surroundings Unit) : Except Failure DataPage :=
  (env.perform .top (plainDatabase.getData [false, true, true, false] orderNames (.list []) false)
    (.start, ())).1

/-- A page of orders is fetched if the database counts, and fails if the driver refuses. -/
theorem orders_side_by_side :
    (orderPage (.counting 3)).toOption.map (·.count) = some 3
      ∧ (match orderPage (.refusing (addressTaken "ada")) with
        | .error (.error e) => some e.code.text
        | _ => none) = some "EXECUTION_002"
      ∧ ∃ count countValues, orderNames.compile .count = .ok count
        ∧ ∀ env, ∃ told r r' own own', FetchedSideBySide plainDatabase
          (orderNames.composed .row).sql count.sql (.list []) (.list countValues)
          r r' own own' told (orderPage env) := by
  have hrow : orderNames.compile .row = .ok (orderNames.composed .row) := by
    rw [Query.compile_eq, show orderNames.issues = [] from rfl, outcome_nil]
  have hvalues : (orderNames.composed .row).bindValues (.list []) = .ok [] := rfl
  obtain ⟨count, countValues, hcount, -, hpages, -⟩ := getData_side_by_side hrow hvalues
  refine ⟨by decide +kernel, by decide +kernel, count, countValues, hcount, ?_⟩
  intro env
  obtain ⟨told, hgoes⟩ := env.exists_goes
    (plainDatabase.getData [false, true, true, false] orderNames (.list []) false .top) (.start, ())
  exact ⟨told, hpages plainDatabase _ .top told _ hgoes⟩

end SqlComposer
