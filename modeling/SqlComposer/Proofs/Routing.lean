import Mathlib.Data.List.TakeWhile
import SqlComposer.Proofs.SingleStatement
import SqlComposer.Proofs.TableCreation
import SqlComposer.Record.Make

/-!
# Which composed statements only read

A statement is run by what it begins with, so a composed one is run as it was meant to be only if
its first word says so. Every query begins with `SELECT`, in either mode, whether it was validated
or is a draft. Every statement that changes rows or tables begins with a word that no reading
statement begins with.
-/

set_option autoImplicit false

namespace SqlComposer

open SqlComposer.Sql SqlComposer.Text

/-! ## Queries -/

theorem afterFolded?_append (word rest : List Char) :
    afterFolded? word (word ++ rest) = some rest := by
  induction word with
  | nil => rfl
  | cons c word ih => simp [afterFolded?, sameFolded, ih]

/-- A statement that begins with `SELECT` reads. -/
theorem isRead_select (rest : String) : isRead ("SELECT " ++ rest) = true := by
  have hopening : afterOpening ("SELECT " ++ rest).toList
      = "SELECT".toList ++ ' ' :: rest.toList := by
    rw [String.toList_append]
    rfl
  have hword : startsWord "SELECT".toList ("SELECT".toList ++ ' ' :: rest.toList) = true := by
    rw [startsWord, afterFolded?_append]
    rfl
  unfold isRead
  rw [hopening, List.any_eq_true]
  exact ⟨"SELECT", List.mem_cons_self, hword⟩

namespace Query

/-- So does a row statement. -/
theorem isRead_rowHead (distinct : Bool) (columns : List String) (rest : String) :
    isRead (rowHead distinct columns ++ rest) = true := by
  unfold rowHead
  rw [String.append_assoc]
  cases distinct with
  | false => exact isRead_select _
  | true => exact isRead_select ("DISTINCT " ++ _)

/-- So does a count statement. -/
theorem isRead_countHead (distinct : Bool) (idField rest : String) :
    isRead (countHead distinct idField ++ rest) = true := by
  unfold countHead
  simp only [String.append_assoc]
  exact isRead_select ("COUNT(" ++ _)

/-- A composed query only reads, in both modes. -/
theorem isRead_compile {q : Query} {mode : Mode} {c : CompiledQuery}
    (hc : q.compile mode = .ok c) : isRead c.sql = true := by
  rw [compile_eq, outcome_eq_ok_iff] at hc
  obtain ⟨-, rfl⟩ := hc
  cases mode with
  | row =>
    rw [q.composed_sameBody.rowText]
    exact isRead_rowHead _ _ _
  | count =>
    rw [q.composed_sameBody.countText]
    exact isRead_countHead _ _ _

end Query

/-! ## Drafts of queries -/

namespace Draft

/-- A draft that is composed in two steps is composed in each of them. -/
theorem ok_of_bind_drafting {α β : Type} {act : Drafting α} {f : α → Drafting β}
    {plan : BindPlan} {r : β × BindPlan} (h : (act >>= f) plan = .ok r) :
    ∃ a plan', act plan = .ok (a, plan') ∧ f a plan' = .ok r := by
  obtain ⟨⟨a, plan'⟩, ha, hr⟩ := ok_of_bind h
  exact ⟨a, plan', ha, hr⟩

/-- A draft that is composed begins like a query. -/
theorem isRead_text {fields : List (String × Value)} {mode : Mode} {plan after : BindPlan}
    {sql : String} (h : Draft.text fields mode plan = .ok (sql, after)) : isRead sql = true := by
  unfold Draft.text at h
  obtain ⟨specs, _, -, h⟩ := ok_of_bind_drafting h
  cases mode with
  | row =>
    obtain ⟨columns, _, -, h⟩ := ok_of_bind_drafting h
    obtain ⟨body, _, -, h⟩ := ok_of_bind_drafting h
    obtain ⟨tail, _, -, h⟩ := ok_of_bind_drafting h
    obtain ⟨branches, _, -, h⟩ := ok_of_bind_drafting h
    cases h
    rw [← String.append_empty (s := Query.rowHead _ columns), String.intercalate_cons_append]
    exact Query.isRead_rowHead _ _ _
  | count =>
    obtain ⟨_, _, -, h⟩ := ok_of_bind_drafting h
    obtain ⟨idField, _, -, h⟩ := ok_of_bind_drafting h
    obtain ⟨body, _, -, h⟩ := ok_of_bind_drafting h
    obtain ⟨_, _, -, h⟩ := ok_of_bind_drafting h
    obtain ⟨_, _, -, h⟩ := ok_of_bind_drafting h
    cases h
    rw [← String.append_empty (s := Query.countHead _ idField), String.intercalate_cons_append]
    exact Query.isRead_countHead _ _ _

end Draft

/-- What is composed of a record only reads, whether the record was validated or not. -/
theorem isRead_composeQuery {record : Value} {mode : Mode} {c : CompiledQuery}
    (hc : composeQuery record mode = .ok c) : isRead c.sql = true := by
  unfold composeQuery at hc
  split at hc
  · rename_i q _
    cases hq : q.compile mode with
    | error r =>
      rw [hq] at hc
      cases hc
    | ok compiled =>
      rw [hq] at hc
      cases hc
      exact Query.isRead_compile hq
  · obtain ⟨⟨sql, plan⟩, htext, hc⟩ := ok_of_bind hc
    cases hc
    exact Draft.isRead_text htext
  · cases hc

/-! ## Changes of rows -/

namespace Sql

/-- What is not rejected is what it was. -/
theorem ok_of_rejecting {α : Type} {r : Except Rejection α} {a : α} (h : rejecting r = .ok a) :
    r = .ok a := by
  cases r with
  | error e => cases h
  | ok x => exact congrArg Except.ok (Except.ok.inj h)

/-- What can be read by keys has entries. -/
theorem entries?_of_keyed {v : Value} {entries : List (String × Value)}
    (h : keyed v = .ok entries) : v.entries? = some entries := by
  unfold keyed at h
  cases hentries : v.entries? with
  | none =>
    rw [hentries] at h
    cases h
  | some es =>
    rw [hentries] at h
    cases h
    rfl

theorem map_some_filterMap {α : Type} {xs : List (Option α)} (h : ∀ x ∈ xs, x.isSome = true) :
    (xs.filterMap id).map some = xs := by
  induction xs with
  | nil => rfl
  | cons x xs ih =>
    cases x with
    | none => cases h none List.mem_cons_self
    | some a => exact congrArg (some a :: ·) (ih fun y hy => h y (List.mem_cons_of_mem _ hy))

/-! ### What is built of values is built of entries -/

/-- An insertion that is composed of a value is composed of its entries. -/
theorem insertOf_ok {table : String} {data : Value} {s : Statement}
    (h : insertOf table data = .ok s) :
    ∃ entries, data.entries? = some entries ∧ insert table entries = .ok s := by
  unfold insertOf at h
  split at h
  · obtain ⟨entries, hkeyed, h⟩ := ok_of_bind h
    exact ⟨entries, entries?_of_keyed hkeyed, ok_of_rejecting h⟩
  · cases h

/-- The rows of an insertion are all dictionaries. -/
theorem batchInsertOf_ok {table : String} {rows : Value} {s : Statement}
    (h : batchInsertOf table rows = .ok s) :
    ∃ all entries, rows.elements? = some all ∧ all.map Value.entries? = entries.map some
      ∧ batchInsert table entries = .ok s := by
  unfold batchInsertOf at h
  split at h
  · obtain ⟨first, -, h⟩ := ok_of_bind h
    obtain ⟨_, -, h⟩ := ok_of_bind h
    obtain ⟨all, hall, h⟩ := ok_of_bind h
    obtain ⟨built, hbuilt, h⟩ := ok_of_bind h
    have helements : rows.elements? = some all := by
      unfold Value.elements at hall
      cases helements : rows.elements? with
      | none =>
        rw [helements] at hall
        cases hall
      | some xs =>
        rw [helements] at hall
        cases hall
        rfl
    split at h
    · cases h
    · rename_i hshort
      cases h
      refine ⟨all, _, helements, ?_, ok_of_rejecting hbuilt⟩
      have hwhole : ((all.map Value.entries?).takeWhile (·.isSome))
          = all.map Value.entries? := by
        apply (List.takeWhile_prefix _).eq_of_length_le
        rw [List.length_map]
        omega
      have hsome : ∀ e ∈ all.map Value.entries?, e.isSome = true :=
        List.takeWhile_eq_self_iff.mp hwhole
      rw [hwhole]
      exact (map_some_filterMap hsome).symm
  · cases h

/-- The fragments of an update that have been searched. -/
def searchedFragments (fragments : Value) : Except Failure (List String) := do
  (← faulting fragments.elements).mapM fun v => do
    rejecting (checkFragment .whereClause (← searchable v))

/-- An update that is composed of values is composed of the entries and the fragments they are read
as. -/
theorem updateOf_ok {table : String} {data fragments values : Value} {s : Statement}
    (h : updateOf table data fragments values = .ok s) :
    ∃ entries conditions given, data.entries? = some entries
      ∧ searchedFragments fragments = .ok conditions
      ∧ update table entries conditions given = .ok s := by
  unfold updateOf at h
  split at h
  · cases h
  · split at h
    · cases h
    · obtain ⟨elements, helements, h⟩ := ok_of_bind h
      obtain ⟨conditions, hconditions, h⟩ := ok_of_bind h
      obtain ⟨entries, hkeyed, h⟩ := ok_of_bind h
      obtain ⟨given, -, h⟩ := ok_of_bind h
      have hsearched : searchedFragments fragments = .ok conditions := by
        unfold searchedFragments
        rw [helements]
        exact hconditions
      exact ⟨entries, conditions, given, entries?_of_keyed hkeyed, hsearched, ok_of_rejecting h⟩

/-- A deletion that is composed of a value is composed of its entries. -/
theorem deleteOf_ok {table : String} {key : Value} {s : Statement}
    (h : deleteOf table key = .ok s) :
    ∃ entries, key.entries? = some entries ∧ delete table entries = .ok s := by
  unfold deleteOf at h
  split at h
  · obtain ⟨entries, hkeyed, h⟩ := ok_of_bind h
    exact ⟨entries, entries?_of_keyed hkeyed, ok_of_rejecting h⟩
  · cases h

/-! ### The texts of changes -/

theorem insert_sql {table : String} {data : List (String × Value)} {s : Statement}
    (hs : insert table data = .ok s) :
    s.sql = insertHead table (data.map (·.1)) ++ rowPlaceholders data.length := by
  unfold insert at hs
  split at hs
  · cases hs
  · cases hs
    rfl

theorem batchInsert_sql {table : String} {rows : List (List (String × Value))} {s : Statement}
    (hs : batchInsert table rows = .ok s) : ∃ first rest, rows = first :: rest
      ∧ s.sql = insertHead table (first.map (·.1))
        ++ ", ".intercalate (rows.map fun _ => rowPlaceholders first.length) := by
  cases rows with
  | nil => cases hs
  | cons first rest =>
    refine ⟨first, rest, rfl, ?_⟩
    simp only [batchInsert] at hs
    split at hs
    · cases hs
    · obtain ⟨values, -, hs⟩ := ok_of_bind hs
      cases hs
      rw [List.length_map]

theorem delete_sql {table : String} {key : List (String × Value)} {s : Statement}
    (hs : delete table key = .ok s) :
    s.sql = "DELETE FROM " ++ quoteName table ++ " WHERE "
      ++ " AND ".intercalate (key.map fun e => quoteName e.1 ++ " = ?") := by
  unfold delete at hs
  split at hs
  · cases hs
  · cases hs
    rfl

/-- A statement that begins like an insertion does not read. -/
theorem isRead_insertion (table : String) (keys : List String) (rows : String) :
    isRead (insertHead table keys ++ rows) = false := by
  unfold insertHead
  simp only [String.append_assoc]
  exact isRead_of_beginsChange _ (by decide)

theorem isRead_insert {table : String} {data : List (String × Value)} {s : Statement}
    (hs : insert table data = .ok s) : isRead s.sql = false := by
  rw [insert_sql hs]
  exact isRead_insertion _ _ _

theorem isRead_batchInsert {table : String} {rows : List (List (String × Value))}
    {s : Statement} (hs : batchInsert table rows = .ok s) : isRead s.sql = false := by
  obtain ⟨first, rest, -, hsql⟩ := batchInsert_sql hs
  rw [hsql]
  exact isRead_insertion _ _ _

theorem isRead_update {table : String} {data : List (String × Value)} {fragments : List String}
    {values : List Value} {s : Statement} (hs : update table data fragments values = .ok s) :
    isRead s.sql = false := by
  obtain ⟨-, hsql⟩ := update_sql hs
  rw [hsql]
  simp only [String.append_assoc]
  exact isRead_of_beginsChange _ (by decide)

theorem isRead_delete {table : String} {key : List (String × Value)} {s : Statement}
    (hs : delete table key = .ok s) : isRead s.sql = false := by
  rw [delete_sql hs]
  simp only [String.append_assoc]
  exact isRead_of_beginsChange _ (by decide)

end Sql

/-! ## Changes of tables -/

/-- What is true of creating a table and of dropping it is true of all its statements. -/
theorem TableDefinition.forall_statements {P : String → Prop} {table create : String}
    (hdrop : P (TableDefinition.dropStatement table)) (hcreate : P create) {dropFirst : Bool} :
    ∀ sql ∈ TableDefinition.statements table create dropFirst, P sql := by
  unfold TableDefinition.statements
  split
  · exact List.forall_mem_cons.mpr ⟨hdrop, List.forall_mem_singleton.mpr hcreate⟩
  · exact List.forall_mem_singleton.mpr hcreate

/-- No statement of a table definition reads. -/
theorem isRead_tableStatements {t : TableDefinition} {statements : List String}
    (h : t.compile = .ok statements) : ∀ sql ∈ statements, isRead sql = false := by
  unfold TableDefinition.compile at h
  obtain ⟨create, hcreate, h⟩ := ok_of_bind h
  cases h
  exact TableDefinition.forall_statements (isRead_dropStatement _) (isRead_createText hcreate)

/-- No statement for the table of a record only reads, whether the record was validated or not. -/
theorem isRead_composeTable {record : Value} {statements : List String}
    (h : (composeTable record).1 = .ok statements) :
    ∀ sql ∈ statements, isRead sql = false := by
  unfold composeTable at h
  split at h
  · exact isRead_tableStatements (ok_of_rejecting h)
  · unfold TableDraft.compile at h
    obtain ⟨table, -, h⟩ := ok_of_bind h
    obtain ⟨columns, -, h⟩ := ok_of_bind h
    obtain ⟨key, -, h⟩ := ok_of_bind h
    obtain ⟨indexes, -, h⟩ := ok_of_bind h
    obtain ⟨foreignKeys, -, h⟩ := ok_of_bind h
    obtain ⟨checks, -, h⟩ := ok_of_bind h
    obtain ⟨options, -, h⟩ := ok_of_bind h
    cases h
    exact TableDefinition.forall_statements (isRead_dropStatement _) (isRead_createStatement _ _ _)
  · cases h

end SqlComposer
