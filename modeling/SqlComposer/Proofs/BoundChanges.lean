import SqlComposer.Proofs.Conformance
import SqlComposer.Proofs.NamedTexts
import SqlComposer.Proofs.Routing
import SqlComposer.Proofs.SingleStatement

/-!
# Values under their own columns

The statements that change rows carry their values in one list, and only counting ties a value to
its column: the columns of a batch repeat for every row, and in an `UPDATE` the columns that are set
and the conditions share the list. Here the bound statement is written out, with the marker of each
column beside its name, so that the parameter of a marker can be compared with the value that was
given for the column. Names stand between the markers, but a quoted name is inert whatever it holds.

A batch is written row after row. Its `j`-th column in the `i`-th row is found at `i * width + j`,
and what stands there does not depend on the order in which the row has its entries.
-/

set_option autoImplicit false

namespace SqlComposer.Sql

/-! ## Rows one after another -/

/-- Among parts of one width, the `j`-th item of the `i`-th part is found by row and column. -/
theorem getElem?_flatMap_of_width {α β : Type} {f : α → List β} {width : Nat} {xs : List α}
    (hwidth : ∀ x ∈ xs, (f x).length = width) {i j : Nat} {x : α} (hx : xs[i]? = some x)
    (hj : j < width) : (xs.flatMap f)[i * width + j]? = (f x)[j]? := by
  induction xs generalizing i with
  | nil => cases hx
  | cons y xs ih =>
    have hfirst : (f y).length = width := hwidth y List.mem_cons_self
    rw [List.flatMap_cons]
    cases i with
    | zero =>
      cases hx
      rw [Nat.zero_mul, Nat.zero_add, List.getElem?_append_left (by omega)]
    | succ i =>
      have hindex : (i + 1) * width + j = (f y).length + (i * width + j) := by
        rw [hfirst, Nat.add_mul, Nat.one_mul]
        omega
      rw [hindex, List.getElem?_append_right (Nat.le_add_right _ _), Nat.add_sub_cancel_left]
      exact ih (fun z hz => hwidth z (List.mem_cons_of_mem y hz)) hx

/-- Where every key occurs once, the order of the entries does not matter. -/
theorem lookup?_of_perm {α : Type} {key : String} {entries entries' : List (String × α)}
    (hperm : entries.Perm entries') (hnodup : (entries.map (·.1)).Nodup) :
    lookup? key entries = lookup? key entries' := by
  induction hperm with
  | nil => rfl
  | cons e _ ih =>
    simp only [lookup?, ih (List.nodup_cons.mp hnodup).2]
  | swap e e' entries =>
    have hne : e.1 ≠ e'.1 := by
      intro h
      simp [h] at hnodup
    by_cases he : e.1 = key
    · have he' : e'.1 ≠ key := fun h => hne (he.trans h.symm)
      simp [lookup?, he, he']
    · simp [lookup?, he]
  | trans hleft _ ih ih' =>
    rw [ih hnodup, ih' ((hleft.map (·.1)).nodup hnodup)]

theorem sameKeys_iff {as bs : List String} : sameKeys as bs = true ↔ ∀ key, key ∈ as ↔ key ∈ bs := by
  simp only [sameKeys, Bool.and_eq_true, List.all_eq_true, List.contains_iff_mem]
  exact ⟨fun ⟨hsub, hsup⟩ key => ⟨hsub key, hsup key⟩, fun h => ⟨fun key => (h key).1,
    fun key => (h key).2⟩⟩

/-- The values of a row in the order of some columns. -/
def rowInOrder (keys : List String) (row : List (String × Value)) : List Value :=
  keys.map fun k => (lookup? k row).getD .null

theorem rowValues_eq_ok_iff {keys : List String} {index : Nat}
    {rows : List (List (String × Value))} {values : List Value} :
    rowValues keys index rows = .ok values ↔
      (∀ row ∈ rows, sameKeys (row.map (·.1)) keys = true)
        ∧ rows.flatMap (rowInOrder keys) = values := by
  induction rows generalizing index values with
  | nil => simp [rowValues]
  | cons row rows ih =>
    rw [rowValues, List.forall_mem_cons, List.flatMap_cons]
    by_cases hrow : sameKeys (row.map (·.1)) keys = true
    · rw [if_pos hrow]
      constructor
      · intro h
        obtain ⟨rest, hrest, h⟩ := ok_of_bind h
        obtain ⟨hrows, rfl⟩ := ih.mp hrest
        cases h
        exact ⟨⟨hrow, hrows⟩, rfl⟩
      · rintro ⟨⟨-, hrows⟩, rfl⟩
        rw [ih.mpr ⟨hrows, rfl⟩]
        rfl
    · rw [if_neg hrow]
      exact ⟨fun h => (nomatch h), fun h => absurd h.1.1 hrow⟩

theorem sortedKeys_of_perm {as bs : List String} (h : as.Perm bs) : sortedKeys as = sortedKeys bs := by
  have hle (a b : String) : (!decide (b < a)) = true ↔ a ≤ b := by
    rw [Bool.not_eq_true', decide_eq_false_iff_not]
    exact String.not_lt
  have hsorted (keys : List String) : (sortedKeys keys).Pairwise (· ≤ ·) := by
    have htrans (a b c : String) (hab : (!decide (b < a)) = true) (hbc : (!decide (c < b)) = true) :
        (!decide (c < a)) = true :=
      (hle a c).mpr (String.le_trans ((hle a b).mp hab) ((hle b c).mp hbc))
    have htotal (a b : String) : ((!decide (b < a)) || !decide (a < b)) = true := by
      rw [Bool.or_eq_true, hle, hle]
      exact String.le_total a b
    exact (List.pairwise_mergeSort htrans htotal keys).imp fun hab => (hle _ _).mp hab
  have hperm : (sortedKeys as).Perm (sortedKeys bs) :=
    (List.mergeSort_perm as _).trans (h.trans (List.mergeSort_perm bs _).symm)
  exact hperm.eq_of_pairwise (fun _ _ _ _ => String.le_antisymm) (hsorted as) (hsorted bs)

/-- The values of rows do not depend on the order of the entries in a row, and neither does what is
said about a row with other columns. -/
theorem rowValues_of_perm (keys : List String) (index : Nat)
    {rows rows' : List (List (String × Value))} (hperm : List.Forall₂ List.Perm rows rows')
    (hnodup : ∀ row ∈ rows, (row.map (·.1)).Nodup) :
    rowValues keys index rows = rowValues keys index rows' := by
  induction hperm generalizing index with
  | nil => rfl
  | @cons row row' rows rows' hrow _ ih =>
    have hkeys : (row.map (·.1)).Perm (row'.map (·.1)) := hrow.map _
    have hsame : sameKeys (row.map (·.1)) keys = sameKeys (row'.map (·.1)) keys := by
      rw [Bool.eq_iff_iff, sameKeys_iff, sameKeys_iff]
      simp only [hkeys.mem_iff]
    have hvalues (k : String) : lookup? k row = lookup? k row' :=
      lookup?_of_perm hrow (hnodup row List.mem_cons_self)
    have hrest := ih (index + 1) fun r hr => hnodup r (List.mem_cons_of_mem row hr)
    rw [rowValues, rowValues, hrest, hsame, sortedKeys_of_perm hkeys]
    simp only [hvalues]

/-! ## Batches -/

/-- The beginning of a named `INSERT`, up to its rows. -/
def namedHead (table : String) (keys : List String) : String :=
  "INSERT INTO " ++ namedName table ++ " (" ++ ", ".intercalate (keys.map namedName) ++ ") VALUES "

/-- The beginning of a change is inert up to what follows the name of its table. -/
theorem inert_opening {opening separator : String} (hopening : Inert opening)
    (hseparator : Inert separator) (table : String) :
    Inert (opening ++ quoteName table ++ separator) :=
  (hopening.append (inert_quoteName table)).append hseparator

theorem namedText_opening {opening separator : String} (hopening : Steady opening)
    (hseparator : Separates separator) (table rest : String) :
    namedText 0 (opening ++ quoteName table ++ separator ++ rest)
      = opening ++ namedName table ++ separator ++ namedText 0 rest := by
  have htable : Inert (opening ++ quoteName table) := hopening.inert.append (inert_quoteName table)
  rw [hseparator.between 0 htable.1, htable.2, hopening.before, namedText_quoteName]

theorem inert_insertHead (table : String) (keys : List String) : Inert (insertHead table keys) := by
  have hvalues : Inert ") VALUES " := by decide
  exact ((inert_opening (by decide) (by decide) table).append (inert_nameList keys)).append hvalues

theorem namedText_insertion (table : String) (keys : List String) (rows : String) :
    namedText 0 (insertHead table keys ++ rows) = namedHead table keys ++ namedText 0 rows := by
  have hopening : Steady "INSERT INTO " := by decide
  have hlist : Separates " (" := by decide
  have hvalues : Separates ") VALUES " := by decide
  have hnames : Inert ("INSERT INTO " ++ quoteName table ++ " (" ++ nameList keys) :=
    (inert_opening hopening.inert hlist.inert table).append (inert_nameList keys)
  unfold insertHead namedHead
  rw [hvalues.between 0 hnames.1, hnames.2, namedText_opening hopening hlist, namedText_nameList]

/-- What a statement that inserts rows comes to when it is bound. -/
structure Statement.InsertsRows (s : Statement) (table : String) (keys : List String)
    (rows : List (List (String × Value))) : Prop where
  /-- The columns are listed in order, and every row has a placeholder for each of them. -/
  sql : s.sql = insertHead table keys
    ++ ", ".intercalate (List.replicate rows.length (rowPlaceholders keys.length))
  /-- There are no other placeholders. -/
  counted : countPlaceholders s.sql = rows.length * keys.length
  /-- The values stand by row and column. -/
  length : s.values.length = rows.length * keys.length
  values : ∀ i j row key, rows[i]? = some row → keys[j]? = some key →
    ∃ v, lookup? key row = some v ∧ s.values[i * keys.length + j]? = some v
  /-- Bound, the markers are numbered by row and column, and the parameter of each is the value that
  the row has for the column. -/
  binds : ∃ b, bindPositional s.sql s.values = .ok b
    ∧ b.statement = namedHead table keys ++ ", ".intercalate
        ((List.range rows.length).map fun i => markedRow (i * keys.length) keys.length)
    ∧ b.params.length = rows.length * keys.length
    ∧ ∀ i j row key, rows[i]? = some row → keys[j]? = some key → ∃ v, lookup? key row = some v
      ∧ b.params[i * keys.length + j]? = some (paramName (i * keys.length + j), v)

theorem rowPlaceholders_spec (width : Nat) :
    QuoteClosed (rowPlaceholders width) ∧ countPlaceholders (rowPlaceholders width) = width := by
  have hopen : Inert "(" := by decide
  have hclose : Inert ")" := by decide
  obtain ⟨hclosed, hcount⟩ := placeholders_spec width
  have hopened : QuoteClosed ("(" ++ placeholders width) := hopen.1.append hclosed
  refine ⟨hopened.append hclose.1, ?_⟩
  rw [rowPlaceholders, countPlaceholders_append hopened, countPlaceholders_append hopen.1, hopen.2,
    hclose.2, hcount, Nat.zero_add, Nat.add_zero]

/-- Rows of placeholders are named row by row. -/
theorem namedText_rows (width count : Nat) :
    namedText 0 (", ".intercalate (List.replicate count (rowPlaceholders width)))
      = ", ".intercalate ((List.range count).map fun i => markedRow (i * width) width) := by
  have hrow : ∀ t ∈ List.replicate count (rowPlaceholders width),
      QuoteClosed t ∧ countPlaceholders t = width := by
    intro t ht
    rw [List.eq_of_mem_replicate ht]
    exact rowPlaceholders_spec width
  have hnamed := namedTexts_of_count 0 (fun t ht => (hrow t ht).2) 0
  rw [Nat.zero_mul, Nat.add_zero] at hnamed
  rw [Separates.intercalate 0 (by decide) fun t ht => (hrow t ht).1, hnamed]
  congr 1
  apply List.ext_getElem?
  intro i
  by_cases hi : i < count
  · simp [hi, namedText_rowPlaceholders]
  · simp [hi]

theorem insertsRows {table : String} {keys : List String} {rows : List (List (String × Value))}
    (hsame : ∀ row ∈ rows, sameKeys (row.map (·.1)) keys = true) :
    Statement.InsertsRows
      ⟨insertHead table keys
        ++ ", ".intercalate (List.replicate rows.length (rowPlaceholders keys.length)),
        rows.flatMap (rowInOrder keys)⟩ table keys rows := by
  have hrow : ∀ t ∈ List.replicate rows.length (rowPlaceholders keys.length),
      QuoteClosed t ∧ countPlaceholders t = keys.length := by
    intro t ht
    rw [List.eq_of_mem_replicate ht]
    exact rowPlaceholders_spec keys.length
  have hcount : countPlaceholders (insertHead table keys
      ++ ", ".intercalate (List.replicate rows.length (rowPlaceholders keys.length)))
        = rows.length * keys.length := by
    rw [countPlaceholders_append (inert_insertHead table keys).1, (inert_insertHead table keys).2,
      countPlaceholders_intercalate (by decide) fun t ht => (hrow t ht).1, Nat.zero_add,
      List.map_replicate, (rowPlaceholders_spec keys.length).2, List.sum_replicate_nat]
  have hwidth : ∀ row ∈ rows, (rowInOrder keys row).length = keys.length :=
    fun row _ => List.length_map ..
  have hlength : (rows.flatMap (rowInOrder keys)).length = rows.length * keys.length := by
    rw [List.length_flatMap, List.map_congr_left hwidth, List.map_const', List.sum_replicate_nat]
  have hvalues : ∀ i j row key, rows[i]? = some row → keys[j]? = some key →
      ∃ v, lookup? key row = some v
        ∧ (rows.flatMap (rowInOrder keys))[i * keys.length + j]? = some v := by
    intro i j row key hi hj
    have hmem : key ∈ row.map (·.1) :=
      (sameKeys_iff.mp (hsame row (List.mem_of_getElem? hi)) key).mpr (List.mem_of_getElem? hj)
    obtain ⟨v, hv⟩ := exists_lookup? hmem
    have hlt : j < keys.length := (List.getElem?_eq_some_iff.mp hj).1
    refine ⟨v, hv, ?_⟩
    rw [getElem?_flatMap_of_width hwidth hi hlt, rowInOrder, List.getElem?_map, hj]
    simp [hv]
  refine ⟨rfl, hcount, hlength, hvalues, _, bindPositional_of_length (hlength.trans hcount.symm),
    ?_, ?_, ?_⟩
  · exact (namedText_insertion table keys _).trans (congrArg _ (namedText_rows _ _))
  · exact (length_namedValues 0 _).trans hlength
  · intro i j row key hi hj
    obtain ⟨v, hv, hvalue⟩ := hvalues i j row key hi hj
    refine ⟨v, hv, ?_⟩
    rw [getElem?_namedValues, hvalue, Nat.zero_add]
    rfl

theorem batchInsert_eq_ok_iff {table : String} {first : List (String × Value)}
    {rest : List (List (String × Value))} {s : Statement} :
    batchInsert table (first :: rest) = .ok s ↔
      first ≠ [] ∧ (∀ row ∈ first :: rest, sameKeys (row.map (·.1)) (first.map (·.1)) = true)
        ∧ s = ⟨insertHead table (first.map (·.1)) ++ ", ".intercalate
            (List.replicate (first :: rest).length (rowPlaceholders (first.map (·.1)).length)),
          (first :: rest).flatMap (rowInOrder (first.map (·.1)))⟩ := by
  unfold batchInsert
  by_cases hfirst : first = []
  · subst hfirst
    exact ⟨fun h => (nomatch h), fun h => absurd rfl h.1⟩
  · have hkeys : ¬ (first.map (·.1)).isEmpty := by simpa using hfirst
    simp only [if_neg hkeys, List.map_const']
    constructor
    · intro h
      obtain ⟨values, hvalues, h⟩ := ok_of_bind h
      obtain ⟨hsame, rfl⟩ := rowValues_eq_ok_iff.mp hvalues
      cases h
      exact ⟨hfirst, hsame, rfl⟩
    · rintro ⟨-, hsame, rfl⟩
      rw [rowValues_eq_ok_iff.mpr ⟨hsame, rfl⟩]
      rfl

/-- A batch is built from rows with the same columns, of which there has to be one. Its values then
stand under their columns, row by row, and are bound there; and only the first row's entries have an
order that matters. -/
theorem batch_values_under_columns (table : String) (rows : List (List (String × Value))) :
    ((∃ s, batchInsert table rows = .ok s) ↔
      ∃ first rest, rows = first :: rest ∧ first ≠ []
        ∧ ∀ row ∈ rows, ∀ key, key ∈ row.map (·.1) ↔ key ∈ first.map (·.1))
      ∧ (∀ first rest s, rows = first :: rest → batchInsert table rows = .ok s →
        s.InsertsRows table (first.map (·.1)) rows)
      ∧ ∀ first rest rest', rows = first :: rest → List.Forall₂ List.Perm rest rest' →
        (∀ row ∈ rows, (row.map (·.1)).Nodup) →
          batchInsert table (first :: rest') = batchInsert table rows := by
  refine ⟨⟨?_, ?_⟩, ?_, ?_⟩
  · rintro ⟨s, hs⟩
    cases rows with
    | nil => cases hs
    | cons first rest =>
      obtain ⟨hfirst, hsame, -⟩ := batchInsert_eq_ok_iff.mp hs
      exact ⟨first, rest, rfl, hfirst, fun row hrow => sameKeys_iff.mp (hsame row hrow)⟩
  · rintro ⟨first, rest, rfl, hfirst, hsame⟩
    exact ⟨_, batchInsert_eq_ok_iff.mpr ⟨hfirst, fun row hrow => sameKeys_iff.mpr (hsame row hrow),
      rfl⟩⟩
  · rintro first rest s rfl hs
    obtain ⟨-, hsame, rfl⟩ := batchInsert_eq_ok_iff.mp hs
    exact insertsRows hsame
  · rintro first rest rest' rfl hperm hnodup
    have hvalues := rowValues_of_perm (first.map (·.1)) 0
      (.cons (List.Perm.refl first) hperm) hnodup
    simp only [batchInsert, hvalues, List.map_const', List.length_cons, hperm.length_eq]

/-- Two orders whose columns have question marks and backticks in their names, the second one with
its columns in another order. -/
def crossedOrders : List (List (String × Value)) :=
  [[("total?", .int 10), ("no`te", .text "first")], [("no`te", .text "second"), ("total?", .int 20)]]

/-- Each value of the second order stands under its own column, as it would in the first order's
order. -/
theorem crossedOrders_inserted : ∃ s, batchInsert "orders" crossedOrders = .ok s
    ∧ s.InsertsRows "orders" ["total?", "no`te"] crossedOrders
    ∧ batchInsert "orders" [[("total?", .int 10), ("no`te", .text "first")],
        [("total?", .int 20), ("no`te", .text "second")]] = .ok s := by
  obtain ⟨hbuilt, hinserted, hreordered⟩ := batch_values_under_columns "orders" crossedOrders
  obtain ⟨s, hs⟩ := hbuilt.mpr ⟨_, _, rfl, by decide, by
    simp only [crossedOrders, List.forall_mem_cons]
    simp [or_comm]⟩
  have hperm : List.Forall₂ List.Perm
      [[("no`te", Value.text "second"), ("total?", .int 20)]]
      [[("total?", .int 20), ("no`te", .text "second")]] := .cons (.swap ..) .nil
  refine ⟨s, hs, hinserted _ _ s rfl hs, ?_⟩
  rw [hreordered _ _ _ rfl hperm (by decide), hs]

/-! ## Single changes -/

/-- Whether a step is refused with an error about its input. -/
def Refused {α : Type} (r : Except Rejection α) : Prop :=
  ∃ e, rejecting r = .error (.error e) ∧ e.code = .validation

/-- The parameters of some columns. -/
def columnParams (data : List (String × Value)) : List (String × Value) :=
  data.zipIdx.map fun (e, k) => (paramName k, e.2)

theorem namedValues_eq_zipIdx (index : Nat) (vs : List Value) :
    namedValues index vs = (vs.zipIdx index).map fun (v, k) => (paramName k, v) := by
  induction vs generalizing index with
  | nil => rfl
  | cons v vs ih => rw [namedValues, ih, List.zipIdx_cons, List.map_cons]

theorem namedValues_columns (data : List (String × Value)) :
    namedValues 0 (data.map (·.2)) = columnParams data := by
  rw [namedValues_eq_zipIdx, List.zipIdx_map, List.map_map]
  rfl

theorem namedValues_append (index : Nat) (us vs : List Value) :
    namedValues index (us ++ vs) = namedValues index us ++ namedValues (index + us.length) vs := by
  rw [namedValues_eq_zipIdx, namedValues_eq_zipIdx, namedValues_eq_zipIdx, List.zipIdx_append,
    List.map_append]

/-- Columns with a placeholder each are closed, have as many placeholders as columns, and are named
with a marker each. -/
theorem columns_spec {separator : String} (h : Separates separator) (data : List (String × Value)) :
    QuoteClosed (separator.intercalate (data.map fun e => quoteName e.1 ++ " = ?"))
      ∧ countPlaceholders (separator.intercalate (data.map fun e => quoteName e.1 ++ " = ?"))
        = data.length
      ∧ namedText 0 (separator.intercalate (data.map fun e => quoteName e.1 ++ " = ?"))
        = separator.intercalate (markedColumns (data.map (·.1))) := by
  have hone : QuoteClosed " = ?" ∧ countPlaceholders " = ?" = 1 := by decide
  have hcolumn : ∀ t ∈ data.map fun e => quoteName e.1 ++ " = ?",
      QuoteClosed t ∧ countPlaceholders t = 1 := by
    intro t ht
    obtain ⟨e, -, rfl⟩ := List.mem_map.mp ht
    refine ⟨(inert_quoteName e.1).1.append hone.1, ?_⟩
    rw [countPlaceholders_append (inert_quoteName e.1).1, (inert_quoteName e.1).2, hone.2]
  have hclosed := fun t ht => (hcolumn t ht).1
  refine ⟨QuoteClosed.intercalate h.inert.1 hclosed, ?_, ?_⟩
  · rw [countPlaceholders_intercalate h.inert hclosed,
      List.map_congr_left fun t ht => (hcolumn t ht).2, List.map_const', List.sum_replicate_nat,
      List.length_map, Nat.mul_one]
  · rw [h.intercalate 0 hclosed, ← namedTexts_columns, List.map_map]
    rfl

/-- What an update comes to when it is bound. -/
structure Statement.Updates (s : Statement) (table : String) (data : List (String × Value))
    (fragments : List String) (values : List Value) : Prop where
  sql : s.sql = "UPDATE " ++ quoteName table ++ " SET "
    ++ ", ".intercalate (data.map fun e => quoteName e.1 ++ " = ?") ++ " WHERE "
    ++ " AND ".intercalate fragments
  /-- It is bound if the conditions have a placeholder for each of their values. -/
  bound : (∃ b, bindPositional s.sql s.values = .ok b) ↔
    values.length = (fragments.map countPlaceholders).sum
  /-- The columns that are set have their own values, and the conditions have the given ones in
  order. -/
  binds : ∀ b, bindPositional s.sql s.values = .ok b →
    b.statement = "UPDATE " ++ namedName table ++ " SET "
        ++ ", ".intercalate (markedColumns (data.map (·.1))) ++ " WHERE "
        ++ " AND ".intercalate (namedTexts data.length fragments)
      ∧ b.params = columnParams data
        ++ (values.zipIdx data.length).map fun (v, k) => (paramName k, v)

theorem updates {table : String} {data : List (String × Value)} {fragments : List String}
    {values : List Value} {s : Statement} (hclosed : ∀ fragment ∈ fragments, QuoteClosed fragment)
    (hsql : s.sql = "UPDATE " ++ quoteName table ++ " SET "
      ++ ", ".intercalate (data.map fun e => quoteName e.1 ++ " = ?") ++ " WHERE "
      ++ " AND ".intercalate fragments)
    (hvalues : s.values = data.map (·.2) ++ values) : s.Updates table data fragments values := by
  have hset : Separates " SET " := by decide
  have hwhere : Separates " WHERE " := by decide
  have hopening : Steady "UPDATE " := by decide
  have hcomma : Separates ", " := by decide
  have hand : Separates " AND " := by decide
  obtain ⟨hcolumns, hcolumnsCount, hcolumnsNamed⟩ := columns_spec hcomma data
  have hhead := inert_opening hopening.inert hset.inert table
  have hassigned := hhead.1.append hcolumns
  have hcount : countPlaceholders s.sql
      = data.length + (fragments.map countPlaceholders).sum := by
    rw [hsql, countPlaceholders_append (hassigned.append hwhere.inert.1),
      countPlaceholders_append hassigned, countPlaceholders_append hhead.1, hhead.2, hwhere.inert.2,
      hcolumnsCount, countPlaceholders_intercalate (by decide) hclosed, Nat.zero_add, Nat.add_zero]
  have hlength : s.values.length = data.length + values.length := by
    rw [hvalues, List.length_append, List.length_map]
  have hnamed : namedText 0 s.sql = "UPDATE " ++ namedName table ++ " SET "
      ++ ", ".intercalate (markedColumns (data.map (·.1))) ++ " WHERE "
      ++ " AND ".intercalate (namedTexts data.length fragments) := by
    rw [hsql, hwhere.between 0 hassigned, namedText_opening hopening hset, hcolumnsNamed,
      countPlaceholders_append hhead.1, hhead.2, hcolumnsCount, Nat.zero_add, Nat.zero_add,
      hand.intercalate data.length hclosed]
  refine ⟨hsql, ?_, ?_⟩
  · constructor
    · rintro ⟨b, hb⟩
      have := length_of_bindPositional hb
      omega
    · intro h
      exact ⟨_, bindPositional_of_length (by omega)⟩
  · intro b hb
    rw [bindPositional_of_length (length_of_bindPositional hb)] at hb
    cases hb
    refine ⟨hnamed, ?_⟩
    rw [hvalues, namedValues_append, namedValues_columns, namedValues_eq_zipIdx, List.length_map,
      Nat.zero_add]

theorem update_eq_ok (table : String) {data : List (String × Value)} {fragments : List String}
    (values : List Value) (hdata : data ≠ []) (hfragments : fragments ≠ [])
    (hsafe : ∀ fragment ∈ fragments, dangerIn? fragment = none) :
    ∃ s, update table data fragments values = .ok s ∧ s.values = data.map (·.2) ++ values := by
  have hsearched : fragments.mapM (checkFragment .whereClause) = .ok fragments := by
    rw [mapM_eq_outcome fragments (checkFragment_eq .whereClause), outcome_eq_ok_iff]
    refine ⟨List.flatMap_eq_nil_iff.mpr fun fragment hfragment => ?_, List.map_id' fragments⟩
    simp [danger?, hsafe fragment hfragment]
  unfold update
  rw [if_neg (by simpa using hdata), if_neg (by simpa using hfragments), hsearched]
  exact ⟨_, rfl, rfl⟩

/-- Every change binds its values under their columns, whatever its names hold. Of these, only an
update can be given values that it does not bind: those of its conditions, in another number than
their placeholders. No update and no deletion is built without a condition. -/
theorem changes_bind_columns (table : String) (data : List (String × Value))
    (fragments : List String) (values : List Value) :
    (data ≠ [] → fragments ≠ [] →
      (∀ fragment ∈ fragments, QuoteClosed fragment ∧ dangerIn? fragment = none) →
        ∃ s, update table data fragments values = .ok s ∧ s.Updates table data fragments values)
      ∧ (data ≠ [] → ∃ s b, insert table data = .ok s ∧ s.values = data.map (·.2)
        ∧ bindPositional s.sql s.values = .ok b
        ∧ b.statement = namedHead table (data.map (·.1)) ++ markedRow 0 data.length
        ∧ b.params = columnParams data)
      ∧ (data ≠ [] → ∃ s b, delete table data = .ok s ∧ s.values = data.map (·.2)
        ∧ bindPositional s.sql s.values = .ok b
        ∧ b.statement = "DELETE FROM " ++ namedName table ++ " WHERE "
          ++ " AND ".intercalate (markedColumns (data.map (·.1)))
        ∧ b.params = columnParams data)
      ∧ (data = [] ∨ fragments = [] → Refused (update table data fragments values))
      ∧ (data = [] → Refused (insert table data) ∧ Refused (delete table data))
      ∧ (∀ s, update table data fragments values = .ok s → fragments ≠ [])
      ∧ ∀ s, delete table data = .ok s → data ≠ [] := by
  refine ⟨?_, ?_, ?_, ?_, ?_, ?_, ?_⟩
  · intro hdata hfragments hlisted
    obtain ⟨s, hs, hvalues⟩ := update_eq_ok table values hdata hfragments
      fun fragment hfragment => (hlisted fragment hfragment).2
    exact ⟨s, hs, updates (fun fragment hfragment => (hlisted fragment hfragment).1)
      (update_sql hs).2 hvalues⟩
  · intro hdata
    have hcount : (data.map (·.2)).length
        = countPlaceholders (insertHead table (data.map (·.1)) ++ rowPlaceholders data.length) := by
      have hhead := inert_insertHead table (data.map (·.1))
      rw [countPlaceholders_append hhead.1, hhead.2, (rowPlaceholders_spec data.length).2,
        List.length_map, Nat.zero_add]
    refine ⟨_, _, if_neg (by simpa using hdata), rfl, bindPositional_of_length hcount, ?_,
      namedValues_columns data⟩
    exact (namedText_insertion table _ _).trans (congrArg _ (namedText_rowPlaceholders 0 _))
  · intro hdata
    have hand : Separates " AND " := by decide
    have hwhere : Separates " WHERE " := by decide
    have hopening : Steady "DELETE FROM " := by decide
    have hhead := inert_opening hopening.inert hwhere.inert table
    obtain ⟨-, hkeys, hnamed⟩ := columns_spec hand data
    have hcount : (data.map (·.2)).length
        = countPlaceholders ("DELETE FROM " ++ quoteName table ++ " WHERE "
          ++ " AND ".intercalate (data.map fun e => quoteName e.1 ++ " = ?")) := by
      rw [countPlaceholders_append hhead.1, hhead.2, hkeys, List.length_map, Nat.zero_add]
    refine ⟨_, _, if_neg (by simpa using hdata), rfl, bindPositional_of_length hcount, ?_,
      namedValues_columns data⟩
    exact (namedText_opening hopening hwhere table _).trans (congrArg _ hnamed)
  · intro hnone
    by_cases hdata : data = []
    · subst hdata
      exact ⟨_, rfl, rfl⟩
    · obtain rfl : fragments = [] := hnone.resolve_left hdata
      unfold update
      rw [if_neg (by simpa using hdata)]
      exact ⟨_, rfl, rfl⟩
  · rintro rfl
    exact ⟨⟨_, rfl, rfl⟩, _, rfl, rfl⟩
  · exact fun s hs => (update_sql hs).1
  · rintro s hs rfl
    cases hs

/-- An update whose names hold a quote, a question mark and a colon, and whose conditions have a
question mark in quotes and two outside. -/
theorem quotedNames_bound : ∃ s b,
    update "log's" [("no`te?", .text "seen"), ("at:utc", .int 5)] ["tag <> '?' AND level > ?", "id = ?"]
        [.int 3, .int 7] = .ok s
      ∧ bindPositional s.sql s.values = .ok b
      ∧ b.params = [("p0", .text "seen"), ("p1", .int 5), ("p2", .int 3), ("p3", .int 7)] := by
  obtain ⟨hupdate, -⟩ := changes_bind_columns "log's" [("no`te?", .text "seen"), ("at:utc", .int 5)]
    ["tag <> '?' AND level > ?", "id = ?"] [.int 3, .int 7]
  obtain ⟨s, hs, hupdates⟩ := hupdate (by decide) (by decide) (by decide +kernel)
  obtain ⟨b, hb⟩ := hupdates.bound.mpr (by decide +kernel)
  exact ⟨s, b, hs, hb, (hupdates.binds b hb).2.trans rfl⟩

end SqlComposer.Sql
