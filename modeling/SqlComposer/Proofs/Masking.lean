import SqlComposer.Database.Change
import SqlComposer.Database.Fetch
import SqlComposer.Proofs.Routing

/-!
# Statements do not show the values they take

Values travel beside a statement and leave nothing in its text but their number. To say so, an
operation on rows is masked: every value that it binds, at any depth of its queries, becomes null,
and all else stays. Operations that are masked alike differ in bound values only, and the
statements that they compose (`RowOperation.Composes`) have the same text.
-/

set_option autoImplicit false

namespace SqlComposer

open SqlComposer.Sql

/-! ## Masked queries -/

namespace Query

/-- Lists of values in which only the columns and the lengths are left. -/
def maskLists (lists : List (String × List Value)) : List (String × List Value) :=
  lists.map fun e => (e.1, e.2.map fun _ => .null)

mutual

/-- A query without the values it binds. -/
def masked : Query → Query
  | ⟨tables, idField, fields, joins, conditions, whereIn, whereNotIn, having, groupBy, orderBy,
      direction, limit, offset, distinct, union⟩ =>
    ⟨tables, idField, maskFields fields, joins, conditions, maskLists whereIn,
      maskLists whereNotIn, having, groupBy, orderBy, direction, limit, offset, distinct,
      maskBranches union⟩

/-- Output columns without the values that their queries bind. -/
def maskFields : List (String × FieldSpec Query) → List (String × FieldSpec Query)
  | [] => []
  | (label, .column text) :: rest => (label, .column text) :: maskFields rest
  | (label, .raw text) :: rest => (label, .raw text) :: maskFields rest
  | (label, .subquery q) :: rest => (label, .subquery (masked q)) :: maskFields rest

/-- Branches of a union without the values they bind. -/
def maskBranches : List Query → List Query
  | [] => []
  | q :: rest => masked q :: maskBranches rest

end

theorem masked_eq (q : Query) : q.masked = { q with
    fields := maskFields q.fields
    whereIn := maskLists q.whereIn
    whereNotIn := maskLists q.whereNotIn
    union := maskBranches q.union } := by
  obtain ⟨tables, idField, fields, joins, conditions, whereIn, whereNotIn, having, groupBy,
    orderBy, direction, limit, offset, distinct, union⟩ := q
  rw [masked]

theorem masked_withLimit (q : Query) (limit : Option RowBound) :
    { q with limit := limit }.masked = { q.masked with limit := limit } := by
  rw [masked_eq, masked_eq]

theorem aliases_masked (q : Query) : q.masked.aliases = q.aliases := by
  unfold aliases
  rw [masked_eq]
  dsimp only
  induction q.fields with
  | nil => rw [maskFields]
  | cons e fields ih =>
    obtain ⟨label, spec⟩ := e
    cases spec <;> rw [maskFields, List.filterMap_cons, List.filterMap_cons, ih]

/-- The text of a condition on a list depends on the length of the list only. -/
theorem texts_maskLists (aliases : Aliases) (operator : String)
    (lists : List (String × List Value)) :
    ((activeLists (maskLists lists)).map (listLayout aliases operator)).map Layout.text
      = ((activeLists lists).map (listLayout aliases operator)).map Layout.text := by
  have hactive : activeLists (maskLists lists) = maskLists (activeLists lists) := by
    simp only [activeLists, maskLists, List.filter_map, Function.comp_def, List.isEmpty_map]
  rw [hactive, maskLists, List.map_map, List.map_map, List.map_map]
  apply List.map_congr_left
  intro e _
  simp [listLayout, Piece.text]

/-- The clauses from `FROM` to `HAVING` show no values. -/
theorem clauses_masked (q : Query) : q.masked.clauses = q.clauses := by
  have hconditions : q.masked.conditionLayouts.map Layout.text
      = q.conditionLayouts.map Layout.text := by
    unfold conditionLayouts
    rw [aliases_masked, masked_eq]
    simp only [List.map_append, texts_maskLists]
  have hwhere : q.masked.whereLayouts.map Layout.text = q.whereLayouts.map Layout.text := by
    rw [← conjunction_eq, hconditions, conjunction_eq]
  unfold clauses bodyLayouts
  simp only [List.map_cons, List.map_append, hwhere]
  rw [masked_eq]
  rfl

theorem tailLayouts_masked (q : Query) : q.masked.tailLayouts = q.tailLayouts := by
  unfold tailLayouts orderText
  rw [aliases_masked, masked_eq]
  rfl

mutual

/-- The text of a query shows no values, and neither do those of the queries in it. -/
theorem text_masked : (q : Query) → Layout.text q.masked.rowLayout = Layout.text q.rowLayout
  | ⟨tables, idField, fields, joins, conditions, whereIn, whereNotIn, having, groupBy, orderBy,
      direction, limit, offset, distinct, union⟩ => by
    let q : Query := ⟨tables, idField, fields, joins, conditions, whereIn, whereNotIn, having,
      groupBy, orderBy, direction, limit, offset, distinct, union⟩
    have hbody : q.masked.bodyLayouts.map Layout.text = q.bodyLayouts.map Layout.text :=
      q.clauses_masked
    have htail := q.tailLayouts_masked
    have hfields := texts_maskFields fields
    have hbranches := texts_maskBranches union
    change Layout.text q.masked.rowLayout = Layout.text q.rowLayout
    rw [rowLayout_eq, rowLayout_eq, Layout.text_separated, Layout.text_separated]
    simp only [List.map_cons, List.map_append, text_rowHead, hbody, htail]
    rw [masked_eq]
    simp only [hfields, hbranches, q]

theorem texts_maskFields : (fields : List (String × FieldSpec Query)) →
    (fieldLayouts (maskFields fields)).map Layout.text = (fieldLayouts fields).map Layout.text
  | [] => by rw [maskFields]
  | (label, .column text) :: rest => by
    rw [maskFields, fieldLayouts, fieldLayouts, List.map_cons, List.map_cons,
      texts_maskFields rest]
  | (label, .raw text) :: rest => by
    rw [maskFields, fieldLayouts, fieldLayouts, List.map_cons, List.map_cons,
      texts_maskFields rest]
  | (label, .subquery q) :: rest => by
    rw [maskFields, fieldLayouts, fieldLayouts, List.map_cons, List.map_cons,
      texts_maskFields rest]
    simp [text_masked q]

theorem texts_maskBranches : (branches : List Query) →
    (branchLayouts (maskBranches branches)).map Layout.text
      = (branchLayouts branches).map Layout.text
  | [] => by rw [maskBranches]
  | q :: rest => by
    rw [maskBranches, branchLayouts, branchLayouts, List.map_cons, List.map_cons,
      texts_maskBranches rest]
    simp [text_masked q]

end

/-- Queries that are masked alike are composed into the same text. -/
theorem sql_of_masked {q q' : Query} (h : q.masked = q'.masked) {c c' : CompiledQuery}
    (hc : q.compile .row = .ok c) (hc' : q'.compile .row = .ok c') : c.sql = c'.sql := by
  rw [compile_eq, outcome_eq_ok_iff] at hc hc'
  obtain ⟨-, rfl⟩ := hc
  obtain ⟨-, rfl⟩ := hc'
  change Layout.text q.rowLayout = Layout.text q'.rowLayout
  rw [← text_masked q, h, text_masked q']

end Query

/-! ## Masked rows -/

namespace Value

/-- A dictionary without what it holds under its keys. -/
def masked : Value → Value
  | .dict entries => .dict (entries.map fun e => (e.1, .null))
  | v => v

/-- Rows without their values. -/
def maskedRows : Value → Value
  | .list rows => .list (rows.map masked)
  | .tuple rows => .tuple (rows.map masked)
  | v => v

theorem masked_of_entries? {v : Value} (h : v.entries? = none) : v.masked = v := by
  cases v <;> first | rfl | cases h

theorem entries?_masked (v : Value) :
    v.masked.entries? = v.entries?.map (·.map fun e => (e.1, .null)) := by
  cases v <;> rfl

/-- Dictionaries that are masked alike have the same keys. -/
theorem keys_of_masked {v w : Value} (h : v.masked = w.masked) {es es' : List (String × Value)}
    (hv : v.entries? = some es) (hw : w.entries? = some es') :
    es.map (·.1) = es'.map (·.1) := by
  have hentries := congrArg Value.entries? h
  rw [entries?_masked, entries?_masked, hv, hw] at hentries
  simpa [Function.comp_def] using congrArg (List.map (·.1)) (Option.some.inj hentries)

/-- So do the dictionaries that values make. -/
theorem asDict_keys_of_masked {v w : Value} (h : v.masked = w.masked)
    {es es' : List (String × Value)} (hv : v.asDict = .ok es) (hw : w.asDict = .ok es') :
    es.map (·.1) = es'.map (·.1) := by
  have hasDict {v : Value} {es : List (String × Value)} (h : v.entries? = some es) :
      v.asDict = .ok es := by
    cases v with
    | dict entries =>
      cases h
      rw [asDict]
    | _ => cases h
  have hentries := congrArg Value.entries? h
  rw [entries?_masked, entries?_masked] at hentries
  cases hes : v.entries? with
  | some found =>
    cases hes' : w.entries? with
    | some found' =>
      have hkeys := keys_of_masked h hes hes'
      rw [hasDict hes] at hv
      rw [hasDict hes'] at hw
      cases hv
      cases hw
      exact hkeys
    | none =>
      rw [hes, hes'] at hentries
      cases hentries
  | none =>
    -- nothing is masked, so the values are the same
    cases hes' : w.entries? with
    | some found' =>
      rw [hes, hes'] at hentries
      cases hentries
    | none =>
      rw [masked_of_entries? hes, masked_of_entries? hes'] at h
      rw [h, hw] at hv
      cases hv
      rfl

/-- The keys of a dictionary. -/
def keys? (v : Value) : Option (List String) := v.entries?.map (·.map (·.1))

/-- Rows that are masked alike have the same keys, row by row. -/
theorem rowKeys_of_masked {v w : Value} (h : v.maskedRows = w.maskedRows) {all all' : List Value}
    {rows rows' : List (List (String × Value))} (hv : v.elements? = some all)
    (hw : w.elements? = some all') (hrows : all.map entries? = rows.map some)
    (hrows' : all'.map entries? = rows'.map some) :
    rows.map (·.map (·.1)) = rows'.map (·.map (·.1)) := by
  have hkeys (v : Value) :
      v.maskedRows.elements?.map (·.map keys?) = v.elements?.map (·.map keys?) := by
    cases v <;> simp [maskedRows, elements?, keys?, entries?_masked, Function.comp_def]
  have hread {all : List Value} {rows : List (List (String × Value))}
      (hrows : all.map entries? = rows.map some) :
      all.map keys? = (rows.map (·.map (·.1))).map some := by
    have hmapped := congrArg (List.map (Option.map (·.map (·.1)))) hrows
    rw [List.map_map, List.map_map] at hmapped
    rw [List.map_map]
    exact hmapped
  have hall := hkeys v
  rw [h, hkeys w, hv, hw] at hall
  have hsame : all'.map keys? = all.map keys? := Option.some.inj hall
  rw [hread hrows, hread hrows'] at hsame
  exact ((List.map_inj_right fun _ _ => Option.some.inj).mp hsame).symm

end Value

/-! ## Operations on rows -/

/-- The operations that fetch or change rows by one statement. -/
inductive RowOperation where
  | getFirst (q : Query) (values : Value)
  /-- Fetches a page without counting. -/
  | getData (q : Query) (values : Value)
  | insert (table : String) (data : Value) (h : Option Handle)
  | update (table : String) (data conditions values : Value) (h : Option Handle)
  | delete (table : String) (key : Value) (h : Option Handle)
  | batchInsert (table : String) (rows : Value) (h : Option Handle)

namespace RowOperation

/-- What an operation yields. -/
@[reducible] def Result : RowOperation → Type
  | .getFirst .. => Option (List (String × Value))
  | .getData .. => DataPage
  | .batchInsert .. => BatchResult
  | _ => Int

/-- Performs an operation. -/
def act (db : Database) : (o : RowOperation) → Action o.Result
  | .getFirst q values => db.getFirst q values
  | .getData q values => db.getData [] q values true
  | .insert table data h => db.insertData table data h
  | .update table data conditions values h => db.updateData table data conditions values h
  | .delete table key h => db.deleteData table key h
  | .batchInsert table rows h => db.batchInsert table rows h

/-- What an operation does, in the words of the errors. -/
def what : RowOperation → Attempted
  | .getFirst .. => .fetch
  | .getData .. => .fetch
  | .insert .. => .insert
  | .update .. => .update
  | .delete .. => .delete
  | .batchInsert .. => .batchInsert

/-- An operation without the values that it binds. -/
def masked : RowOperation → RowOperation
  | .getFirst q _ => .getFirst q.masked .null
  | .getData q _ => .getData q.masked .null
  | .insert table data h => .insert table data.masked h
  | .update table data conditions _ h => .update table data.masked conditions .null h
  | .delete table key h => .delete table key.masked h
  | .batchInsert table rows h => .batchInsert table rows.maskedRows h

theorem what_of_masked {o o' : RowOperation} (h : o.masked = o'.masked) : o.what = o'.what := by
  have hwhat (o : RowOperation) : o.masked.what = o.what := by cases o <;> rfl
  rw [← hwhat o, h, hwhat o']

/-- An operation composes a statement with this text. -/
inductive Composes : RowOperation → String → Prop
  | getFirst {q : Query} {values : Value} {c : CompiledQuery}
      (hc : { q with limit := some (.whole 1) }.compile .row = .ok c) :
      Composes (.getFirst q values) c.sql
  | getData {q : Query} {values : Value} {c : CompiledQuery} (hc : q.compile .row = .ok c) :
      Composes (.getData q values) c.sql
  | insert {table : String} {data : Value} {h : Option Handle} {s : Statement}
      (hs : insertOf table data = .ok s) : Composes (.insert table data h) s.sql
  | update {table : String} {data conditions values fragments : Value} {h : Option Handle}
      {s : Statement} (hfragments : Database.conditionsOf conditions = .ok fragments)
      (hs : updateOf table data fragments values = .ok s) :
      Composes (.update table data conditions values h) s.sql
  | delete {table : String} {key : Value} {h : Option Handle} {entries : List (String × Value)}
      {s : Statement} (hentries : key.asDict = .ok entries)
      (hs : deleteOf table (.dict entries) = .ok s) : Composes (.delete table key h) s.sql
  | batchInsert {table : String} {rows : Value} {h : Option Handle} {s : Statement}
      (hs : batchInsertOf table rows = .ok s) : Composes (.batchInsert table rows h) s.sql

end RowOperation

/-! ## Operations that differ in bound values only -/

namespace Sql

variable {table : String} {s s' : Statement}

theorem insert_of_keys {es es' : List (String × Value)} (h : es.map (·.1) = es'.map (·.1))
    (hs : insert table es = .ok s) (hs' : insert table es' = .ok s') : s.sql = s'.sql := by
  have hlength : es.length = es'.length := by simpa using congrArg List.length h
  rw [insert_sql hs, insert_sql hs', h, hlength]

/-- What is written for each key depends on the keys only. -/
theorem assignments_of_keys {es es' : List (String × Value)} (h : es.map (·.1) = es'.map (·.1)) :
    es.map (fun e => quoteName e.1 ++ " = ?") = es'.map fun e => quoteName e.1 ++ " = ?" := by
  simpa [Function.comp_def] using congrArg (List.map fun name => quoteName name ++ " = ?") h

theorem update_of_keys {es es' : List (String × Value)} (h : es.map (·.1) = es'.map (·.1))
    {conditions : List String} {values values' : List Value}
    (hs : update table es conditions values = .ok s)
    (hs' : update table es' conditions values' = .ok s') : s.sql = s'.sql := by
  rw [(update_sql hs).2, (update_sql hs').2, assignments_of_keys h]

theorem delete_of_keys {es es' : List (String × Value)} (h : es.map (·.1) = es'.map (·.1))
    (hs : delete table es = .ok s) (hs' : delete table es' = .ok s') : s.sql = s'.sql := by
  rw [delete_sql hs, delete_sql hs', assignments_of_keys h]

theorem batchInsert_of_keys {rows rows' : List (List (String × Value))}
    (h : rows.map (·.map (·.1)) = rows'.map (·.map (·.1)))
    (hs : batchInsert table rows = .ok s) (hs' : batchInsert table rows' = .ok s') :
    s.sql = s'.sql := by
  obtain ⟨first, rest, rfl, hsql⟩ := batchInsert_sql hs
  obtain ⟨first', rest', rfl, hsql'⟩ := batchInsert_sql hs'
  have hfirst : first.map (·.1) = first'.map (·.1) := (List.cons.inj h).1
  have hwidth : first.length = first'.length := by simpa using congrArg List.length hfirst
  have hcount : rest.length = rest'.length := by simpa using congrArg List.length h
  rw [hsql, hsql', hfirst, hwidth]
  simp [List.map_const', hcount]

end Sql

namespace RowOperation

variable {o o' : RowOperation} {sql sql' : String}

/-- Operations that are masked alike compose the same text. -/
theorem Composes.unique (h : o.masked = o'.masked) (hc : o.Composes sql)
    (hc' : o'.Composes sql') : sql = sql' := by
  cases hc with
  | getFirst hc =>
    cases hc' with
    | getFirst hc' =>
      have hq := congrArg (fun q : Query => { q with limit := some (.whole 1) })
        (RowOperation.getFirst.inj h).1
      rw [← Query.masked_withLimit, ← Query.masked_withLimit] at hq
      exact Query.sql_of_masked hq hc hc'
    | _ => cases h
  | getData hc =>
    cases hc' with
    | getData hc' => exact Query.sql_of_masked (RowOperation.getData.inj h).1 hc hc'
    | _ => cases h
  | insert hs =>
    cases hc' with
    | insert hs' =>
      obtain ⟨rfl, hdata, -⟩ := RowOperation.insert.inj h
      obtain ⟨es, hes, hs⟩ := insertOf_ok hs
      obtain ⟨es', hes', hs'⟩ := insertOf_ok hs'
      exact insert_of_keys (Value.keys_of_masked hdata hes hes') hs hs'
    | _ => cases h
  | update hfragments hs =>
    cases hc' with
    | update hfragments' hs' =>
      obtain ⟨rfl, hdata, rfl, -, -⟩ := RowOperation.update.inj h
      obtain rfl : _ = _ := Except.ok.inj (hfragments.symm.trans hfragments')
      obtain ⟨es, conditions, given, hes, hconditions, hs⟩ := updateOf_ok hs
      obtain ⟨es', conditions', given', hes', hconditions', hs'⟩ := updateOf_ok hs'
      obtain rfl : conditions = conditions' :=
        Except.ok.inj (hconditions.symm.trans hconditions')
      exact update_of_keys (Value.keys_of_masked hdata hes hes') hs hs'
    | _ => cases h
  | delete hentries hs =>
    cases hc' with
    | delete hentries' hs' =>
      obtain ⟨rfl, hkey, -⟩ := RowOperation.delete.inj h
      obtain ⟨es, hes, hs⟩ := deleteOf_ok hs
      obtain ⟨es', hes', hs'⟩ := deleteOf_ok hs'
      cases hes
      cases hes'
      exact delete_of_keys (Value.asDict_keys_of_masked hkey hentries hentries') hs hs'
    | _ => cases h
  | batchInsert hs =>
    cases hc' with
    | batchInsert hs' =>
      obtain ⟨rfl, hrows, -⟩ := RowOperation.batchInsert.inj h
      obtain ⟨all, rows, hall, hall_rows, hs⟩ := batchInsertOf_ok hs
      obtain ⟨all', rows', hall', hall_rows', hs'⟩ := batchInsertOf_ok hs'
      exact batchInsert_of_keys
        (Value.rowKeys_of_masked hrows hall hall' hall_rows hall_rows') hs hs'
    | _ => cases h

end RowOperation

end SqlComposer
