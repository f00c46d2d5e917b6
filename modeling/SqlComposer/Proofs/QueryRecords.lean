import SqlComposer.Proofs.RecordReaders
import SqlComposer.Proofs.SettledTypes

/-!
# Queries that sound records describe

A sound record of a query is always read as a query, and as one that validation lets through
(`Query.checked`): its limits are finite and its direction is one of the two. So are the queries in
it, which are records of the same kind among its output columns and union branches. That they are
read too is proved along with what they stand in, from the inside of a value to the outside
(`Value.ReadsQueries`).
-/

set_option autoImplicit false

namespace SqlComposer

/-! ## Fields -/

section Readers

variable {v : Value}

/-- Fragments are read as texts. -/
theorem exists_fragments? (h : FieldType.fragments.Fits v) : ∃ ss, texts? v = some ss := by
  cases h with
  | @fragments xs h =>
    have hlist : (FieldType.list 0 (.text 0)).Fits (.list xs) := .list (Nat.zero_le _) h
    exact exists_texts? hlist

/-- A list of any values is what a column is compared with. -/
theorem exists_comparedWith? (h : (FieldType.list 0 .any).Fits v) :
    ∃ vs, comparedWith? v = some vs := by
  obtain ⟨xs, rfl, -⟩ := h.exists_list
  unfold comparedWith?
  split
  · exact ⟨xs, rfl⟩
  · exact ⟨[], rfl⟩

/-- Lists of values by column are read. -/
theorem exists_valueLists? (h : (FieldType.dict (.list 0 .any)).Fits v) :
    ∃ es, valueLists? v = some es := by
  cases h with
  | @dict _ es h =>
    have hread : ∀ e ∈ es, ∃ l, ((comparedWith? e.2).map fun vs => (e.1, vs)) = some l ∧ True := by
      intro e he
      obtain ⟨vs, hvs⟩ := exists_comparedWith? (h e he)
      exact ⟨(e.1, vs), by rw [hvs, Option.map_some], trivial⟩
    obtain ⟨lists, hlists, -⟩ := exists_mapM hread
    exact ⟨lists, hlists⟩

/-- No texts, one or several are read as texts. -/
theorem exists_optionalTexts? (h : (FieldType.optional textOrTexts).Fits v) :
    ∃ ss, optionalTexts? v = some ss := by
  rcases h.cases_optional with rfl | h
  · exact ⟨[], rfl⟩
  · obtain ⟨ss, hss⟩ := exists_textOrTexts? h
    cases v with
    | null => exact ⟨[], rfl⟩
    | _ => exact ⟨ss, hss⟩

/-- An item of an order is read with its column and its direction. -/
theorem reads_orderItem :
    RecordKind.orderByItem.Reads OrderEntry.ofRecord? fun _ => True := by
  intro fields given h
  obtain ⟨hkeeps, -⟩ := h.keeps
  simp only [RecordKind.Keeps, RecordKind.fields, List.forall_mem_cons, FieldDef.accepts_required,
    FieldDef.name_required, FieldDef.accepts_nullable, FieldDef.name_nullable] at hkeeps
  obtain ⟨hcolumn, hdirection, -⟩ := hkeeps
  obtain ⟨column, hcolumn⟩ := exists_text? hcolumn
  obtain ⟨direction, hdirection⟩ := exists_optionalChoice? hdirection
  exact ⟨.item column direction, by simp [OrderEntry.ofRecord?, hcolumn, hdirection], trivial⟩

/-- An entry of an order is a text or a sound record of one. -/
theorem exists_orderEntry? (hsound : v.Sound)
    (h : (FieldType.union [("str", anyText), ("OrderByItem", .record .orderByItem)]).Fits v) :
    ∃ entry, OrderEntry.ofRecord? v = some entry := by
  obtain ⟨m, hm, h⟩ := h.cases_union
  simp only [List.mem_cons, List.not_mem_nil, or_false] at hm
  rcases hm with rfl | rfl
  · obtain ⟨s, rfl⟩ := h.exists_text
    exact ⟨.text s, rfl⟩
  · obtain ⟨fields, given, rfl⟩ := h.exists_record
    obtain ⟨entry, hentry, -⟩ := reads_orderItem fields given hsound
    exact ⟨entry, hentry⟩

/-- An order is read entry by entry. -/
theorem exists_order? (hsound : v.Sound)
    (h : (FieldType.optional (.union [("str", anyText), ("list[union[str,OrderByItem]]",
      .list 0 (.union [("str", anyText), ("OrderByItem", .record .orderByItem)]))])).Fits v) :
    ∃ entries, order? v = some entries := by
  rcases h.cases_optional with rfl | h
  · exact ⟨[], rfl⟩
  obtain ⟨m, hm, h⟩ := h.cases_union
  simp only [List.mem_cons, List.not_mem_nil, or_false] at hm
  unfold order? orderEntries
  rcases hm with rfl | rfl
  · obtain ⟨s, rfl⟩ := h.exists_text
    split
    · exact ⟨[], rfl⟩
    · exact ⟨[.text s], rfl⟩
  · obtain ⟨xs, rfl, hxs⟩ := h.exists_list
    split
    · exact ⟨[], rfl⟩
    · obtain ⟨entries, hentries, -⟩ := exists_mapM (P := fun _ => True) fun x hx => by
        obtain ⟨entry, hentry⟩ := exists_orderEntry? (Value.sound_list.mp hsound x hx) (hxs x hx)
        exact ⟨entry, hentry, trivial⟩
      exact ⟨entries, hentries⟩

/-- A direction that fits is none or one of the two. -/
theorem exists_sharedDirection?
    (h : (FieldType.optional (keywords (SortDirection.all.map (·.keyword)))).Fits v) :
    ∃ d, sharedDirection? v = some d ∧ ∀ text, d ≠ .unknown text := by
  unfold sharedDirection?
  rcases h.cases_optional with rfl | h
  · exact ⟨.absent, rfl, nofun⟩
  · split
    · exact ⟨.absent, rfl, nofun⟩
    · cases h with
      | choice hname =>
        obtain ⟨d, -, rfl⟩ := List.mem_map.mp hname
        cases d <;> exact ⟨.given _, rfl, nofun⟩

/-- A bound that fits and that the rule on bounds lets through is none or can be written. -/
theorem exists_rowBound? {u : Value} (h : (FieldType.optional (.number none)).Fits u)
    (hrule : FieldRule.finite.apply u = .ok v) :
    ∃ bound, rowBound? v = some bound ∧ bound.all RowBound.isWritable = true := by
  rcases h.cases_optional with rfl | h
  · cases hrule
    exact ⟨none, rfl, rfl⟩
  · cases h with
    | @number _ x =>
      simp only [FieldRule.apply] at hrule
      split at hrule
      · next hfinite =>
        cases hrule
        exact ⟨some (.real x), rfl, hfinite⟩
      · cases hrule
    | @whole _ n _ hfew =>
      cases hrule
      exact ⟨some (.whole n), rfl, hfew⟩

/-- The rule on tables leaves a text a text and texts texts. -/
theorem textOrTexts_of_tables {u : Value} (h : textOrTexts.Fits u)
    (hrule : FieldRule.tables.apply u = .ok v) : textOrTexts.Fits v := by
  obtain ⟨m, hm, hu⟩ := h.cases_union
  simp only [List.mem_cons, List.not_mem_nil, or_false] at hm
  rcases hm with rfl | rfl
  · obtain ⟨s, rfl⟩ := hu.exists_text
    simp only [FieldRule.apply] at hrule
    split at hrule <;> cases hrule
    exact h
  · obtain ⟨xs, rfl, -⟩ := hu.exists_list
    simp only [FieldRule.apply] at hrule
    split at hrule <;> cases hrule
    exact h

end Readers

/-- A join is read. -/
theorem reads_join : RecordKind.joinClause.Reads Join.ofRecord? fun _ => True := by
  intro fields given h
  obtain ⟨hkeeps, -⟩ := h.keeps
  simp only [RecordKind.Keeps, RecordKind.fields, List.forall_mem_cons, FieldDef.accepts_required,
    FieldDef.name_required, FieldDef.accepts_withDefault, FieldDef.name_withDefault] at hkeeps
  obtain ⟨htype, htable, hon, -⟩ := hkeeps
  obtain ⟨kind, hkind⟩ := exists_choice? htype
  obtain ⟨table, htable⟩ := exists_text? htable
  obtain ⟨on, hon⟩ := exists_text? hon
  exact ⟨⟨kind, table, on⟩, by simp [Join.ofRecord?, hkind, htable, hon], trivial⟩

/-- A raw expression has a text. -/
theorem reads_rawExpression {fields : List (String × Value)} {given : List String}
    (h : (Value.record .rawExpression fields given).Sound) :
    ∃ text, (fieldOf fields "raw").text? = some text := by
  obtain ⟨hkeeps, -⟩ := h.keeps
  simp only [RecordKind.Keeps, RecordKind.fields, List.forall_mem_cons, FieldDef.accepts_required,
    FieldDef.name_required] at hkeeps
  exact exists_text? hkeeps.1

/-! ## Queries -/

/-- An output column as the schema has it. -/
def outputColumn : FieldType :=
  .union [("str", anyText), ("RawExpression", .record .rawExpression),
    ("QueryConfig", .record .queryConfig)]

/-- What holds the queries in a query fits. -/
theorem RecordKind.Keeps.nested {fields : List (String × Value)}
    (h : RecordKind.queryConfig.Keeps fields) :
    (FieldType.dict outputColumn).Fits (fieldOf fields "fields")
      ∧ (FieldType.list 0 (.record .queryConfig)).Fits (fieldOf fields "union") := by
  simp only [RecordKind.Keeps, RecordKind.fields, queryFields, List.forall_mem_cons,
    FieldDef.accepts_nullable, FieldDef.name_nullable, FieldDef.accepts_withDefault,
    FieldDef.name_withDefault, FieldDef.accepts_ruled, FieldDef.name_ruled,
    FieldDef.type_nullable, FieldDef.type_required, FieldDef.name_required] at h
  obtain ⟨-, -, ⟨columns, hcolumns, hrule⟩, -, -, -, -, -, -, -, -, -, -, -, hunion, -⟩ := h
  simp only [FieldRule.apply] at hrule
  split at hrule <;> cases hrule
  exact ⟨hcolumns, hunion⟩

/-- The fields of a sound record are those of a checked query, if its output columns and branches
are. -/
theorem exists_assemble? {fields : List (String × Value)}
    (hkeeps : RecordKind.queryConfig.Keeps fields) (hsound : ∀ e ∈ fields, e.2.Sound)
    (specs : List (String × FieldSpec Query)) (branches : List Query) :
    ∃ q, Query.assemble? fields specs branches = some q ∧ q.ownChecked = true
      ∧ q.fields = specs ∧ q.union = branches := by
  simp only [RecordKind.Keeps, RecordKind.fields, queryFields, List.forall_mem_cons,
    FieldDef.accepts_nullable, FieldDef.name_nullable, FieldDef.accepts_withDefault,
    FieldDef.name_withDefault, FieldDef.accepts_ruled, FieldDef.name_ruled,
    FieldDef.type_nullable, FieldDef.type_required, FieldDef.name_required] at hkeeps
  obtain ⟨⟨tables, htables, htablesRule⟩, hidField, -, hjoins, hwhere, hwhereIn, hwhereNotIn,
    hhaving, hgroupBy, horderBy, hdirection, ⟨limit, hlimit, hlimitRule⟩,
    ⟨offset, hoffset, hoffsetRule⟩, -, -, -⟩ := hkeeps
  have hfield (name : String) : (fieldOf fields name).Sound := fieldOf_sound hsound name
  obtain ⟨tables, htables⟩ := exists_textOrTexts? (textOrTexts_of_tables htables htablesRule)
  obtain ⟨idField, hidField⟩ := exists_text? hidField
  obtain ⟨joins, hjoins, -⟩ := reads_join.exists_parts? (hfield _) hjoins
  obtain ⟨conditions, hwhere⟩ := exists_fragments? hwhere
  obtain ⟨whereIn, hwhereIn⟩ := exists_valueLists? hwhereIn
  obtain ⟨whereNotIn, hwhereNotIn⟩ := exists_valueLists? hwhereNotIn
  obtain ⟨having, hhaving⟩ := exists_fragments? hhaving
  obtain ⟨groupBy, hgroupBy⟩ := exists_optionalTexts? hgroupBy
  obtain ⟨orderBy, horderBy⟩ := exists_order? (hfield _) horderBy
  obtain ⟨direction, hdirection, hknown⟩ := exists_sharedDirection? hdirection
  obtain ⟨limit, hlimit, hlimitFinite⟩ := exists_rowBound? hlimit hlimitRule
  obtain ⟨offset, hoffset, hoffsetFinite⟩ := exists_rowBound? hoffset hoffsetRule
  have hjoins : (fieldOf fields "joins").elements?.bind (·.mapM Join.ofRecord?) = some joins :=
    hjoins
  refine ⟨⟨tables, idField, specs, joins, conditions, whereIn, whereNotIn, having, groupBy, orderBy,
    direction, limit, offset, (fieldOf fields "distinct").truthy, branches⟩, ?_, ?_, rfl, rfl⟩
  · simp only [Query.assemble?, hgroupBy, htables, hidField, hjoins, hwhere, hwhereIn, hwhereNotIn,
      hhaving, horderBy, hdirection, hlimit, hoffset, Option.bind_eq_bind, Option.bind_some,
      Option.pure_def]
  · unfold Query.ownChecked
    rw [hlimitFinite, hoffsetFinite]
    cases direction with
    | unknown text => exact absurd rfl (hknown text)
    | _ => rfl

/-- What is read of the first entry under a name is read of what is looked up. -/
theorem eq_of_lookup? {α : Type} {read? : List (String × Value) → α} {name : String}
    {readValue? : Value → α}
    (hcons : ∀ key v rest,
      read? ((key, v) :: rest) = if key == name then readValue? v else read? rest)
    {fields : List (String × Value)} {v : Value} (h : lookup? name fields = some v) :
    read? fields = readValue? v := by
  induction fields with
  | nil => cases h
  | cons e rest ih =>
    rw [lookup?] at h
    rw [hcons]
    split at h
    · next hname =>
      cases h
      exact if_pos hname
    · next hname => rw [if_neg hname, ih h]

/-- A field that is not null is there. -/
theorem lookup?_of_fieldOf {fields : List (String × Value)} {name : String} {v : Value}
    (h : fieldOf fields name = v) (hsome : v ≠ .null) : lookup? name fields = some v := by
  unfold fieldOf at h
  cases hfound : lookup? name fields with
  | none =>
    rw [hfound] at h
    exact absurd h.symm hsome
  | some w =>
    rw [hfound] at h
    exact congrArg some h

/-- The output columns are read of the field that holds them. -/
theorem outputColumns?_of_dict {fields : List (String × Value)} {es : List (String × Value)}
    (h : fieldOf fields "fields" = .dict es) : outputColumns? fields = columnSpecEntries? es :=
  (eq_of_lookup? (fun _ _ _ => rfl) (lookup?_of_fieldOf h nofun)).trans (by rw [columnSpecs?])

/-- The union branches are read of the field that holds them. -/
theorem unionBranches?_of_list {fields : List (String × Value)} {xs : List Value}
    (h : fieldOf fields "union" = .list xs) : unionBranches? fields = queryItems? xs :=
  (eq_of_lookup? (fun _ _ _ => rfl) (lookup?_of_fieldOf h nofun)).trans (by rw [queries?])

/-- A query is as validation leaves it if its own fields and the queries in it are. -/
theorem Query.checked_of_parts {q : Query} (hown : q.ownChecked = true)
    (hfields : fieldsChecked q.fields = true) (hunion : queriesChecked q.union = true) :
    q.checked = true := by
  cases q with
  | mk =>
    rw [Query.checked, Bool.and_eq_true, Bool.and_eq_true]
    exact ⟨⟨hown, hfields⟩, hunion⟩

/-- What is read in a value as queries: a record as one, a dictionary as output columns, and a list
as union branches. -/
structure Value.ReadsQueries (v : Value) : Prop where
  query : ∀ fields given, v = .record .queryConfig fields given →
    ∃ q, Query.ofRecord? v = some q ∧ q.checked = true
  columns : ∀ es, v = .dict es → (∀ e ∈ es, outputColumn.Fits e.2) →
    ∃ specs, columnSpecEntries? es = some specs ∧ fieldsChecked specs = true
  branches : ∀ xs, v = .list xs → (∀ x ∈ xs, (FieldType.record .queryConfig).Fits x) →
    ∃ qs, queryItems? xs = some qs ∧ queriesChecked qs = true

/-- An output column that fits is read, if the queries in it are. -/
theorem exists_columnSpec? {v : Value} (hsound : v.Sound) (hreads : v.ReadsQueries)
    (h : outputColumn.Fits v) : ∃ spec, columnSpec? v = some spec
      ∧ ∀ label rest, fieldsChecked rest = true → fieldsChecked ((label, spec) :: rest) = true := by
  obtain ⟨m, hm, h⟩ := h.cases_union
  simp only [List.mem_cons, List.not_mem_nil, or_false] at hm
  rcases hm with rfl | rfl | rfl
  · obtain ⟨s, rfl⟩ := h.exists_text
    exact ⟨.column s, rfl, fun _ _ hrest => hrest⟩
  · obtain ⟨fields, given, rfl⟩ := h.exists_record
    obtain ⟨text, htext⟩ := reads_rawExpression hsound
    exact ⟨.raw text, by rw [columnSpec?, htext, Option.map_some], fun _ _ hrest => hrest⟩
  · obtain ⟨fields, given, rfl⟩ := h.exists_record
    obtain ⟨q, hq, hchecked⟩ := hreads.query fields given rfl
    have hspec : columnSpec? (.record .queryConfig fields given)
        = (Query.ofRecord? (.record .queryConfig fields given)).bind
          fun q => some (.subquery q) := by
      rw [columnSpec?, Query.ofRecord?]
      simp only [Option.bind_eq_bind, Option.bind_assoc, Option.pure_def]
    refine ⟨.subquery q, by rw [hspec, hq, Option.bind_some], fun label rest hrest => ?_⟩
    rw [fieldsChecked, hchecked, hrest]
    rfl

section Parts

variable {es : List (String × Value)} {xs : List Value}

/-- Output columns are read one after another. -/
theorem exists_columnSpecEntries? (hsound : ∀ e ∈ es, e.2.Sound)
    (hreads : ∀ e ∈ es, e.2.ReadsQueries) (h : ∀ e ∈ es, outputColumn.Fits e.2) :
    ∃ specs, columnSpecEntries? es = some specs ∧ fieldsChecked specs = true := by
  induction es with
  | nil => exact ⟨[], rfl, rfl⟩
  | cons e es ih =>
    rw [List.forall_mem_cons] at hsound hreads h
    obtain ⟨spec, hspec, hchecked⟩ := exists_columnSpec? hsound.1 hreads.1 h.1
    obtain ⟨specs, hspecs, hrest⟩ := ih hsound.2 hreads.2 h.2
    refine ⟨(e.1, spec) :: specs, ?_, hchecked e.1 specs hrest⟩
    rw [columnSpecEntries?, hspec, hspecs]
    rfl

/-- Union branches are read one after another. -/
theorem exists_queryItems? (hreads : ∀ x ∈ xs, x.ReadsQueries)
    (h : ∀ x ∈ xs, (FieldType.record .queryConfig).Fits x) :
    ∃ qs, queryItems? xs = some qs ∧ queriesChecked qs = true := by
  induction xs with
  | nil => exact ⟨[], rfl, rfl⟩
  | cons x xs ih =>
    rw [List.forall_mem_cons] at hreads h
    obtain ⟨fields, given, hx⟩ := h.1.exists_record
    obtain ⟨q, hq, hchecked⟩ := hreads.1.query fields given hx
    obtain ⟨qs, hqs, hrest⟩ := ih hreads.2 h.2
    refine ⟨q :: qs, ?_, ?_⟩
    · rw [queryItems?, hq, hqs]
      rfl
    · rw [queriesChecked, hchecked, hrest]
      rfl

/-- A record that keeps to the schema is read as a checked query, if the queries in it are read. -/
theorem exists_query? {fields : List (String × Value)}
    (hkeeps : RecordKind.queryConfig.Keeps fields) (hsound : ∀ e ∈ fields, e.2.Sound) (hreads : ∀ e ∈ fields, e.2.ReadsQueries)
    (given : List String) :
    ∃ q, Query.ofRecord? (.record .queryConfig fields given) = some q ∧ q.checked = true := by
  have hpart {name : String} {v : Value} (hv : fieldOf fields name = v) (hsome : v ≠ .null) :
      v.ReadsQueries := hreads _ (mem_of_lookup? (lookup?_of_fieldOf hv hsome))
  obtain ⟨hcolumns, hbranches⟩ := hkeeps.nested
  obtain ⟨es, hes, hcolumns⟩ : ∃ es, fieldOf fields "fields" = .dict es
      ∧ ∀ e ∈ es, outputColumn.Fits e.2 := by
    generalize fieldOf fields "fields" = v at hcolumns
    cases hcolumns with
    | dict h => exact ⟨_, rfl, h⟩
  obtain ⟨xs, hxs, hbranches⟩ := hbranches.exists_list
  obtain ⟨specs, hspecs, hspecsChecked⟩ := (hpart hes nofun).columns es rfl hcolumns
  obtain ⟨branches, hqs, hbranchesChecked⟩ := (hpart hxs nofun).branches xs rfl hbranches
  obtain ⟨q, hq, hown, rfl, rfl⟩ := exists_assemble? hkeeps hsound specs branches
  refine ⟨q, ?_, Query.checked_of_parts hown hspecsChecked hbranchesChecked⟩
  rw [Query.ofRecord?, outputColumns?_of_dict hes, unionBranches?_of_list hxs, hspecs, hqs]
  exact hq

end Parts

/-- Sound values are read as the queries that they hold. -/
theorem Value.Sound.readsQueries {v : Value} (h : v.Sound) : v.ReadsQueries := by
  induction h with
  | @scalar v hitems hentries =>
    refine ⟨?_, ?_, ?_⟩
    · rintro fields given rfl
      cases hitems
    · rintro es rfl
      cases hentries
    · rintro xs rfl
      cases hitems
  | @list xs h ih =>
    refine ⟨nofun, nofun, ?_⟩
    rintro _ ⟨⟩ hxs
    exact exists_queryItems? ih hxs
  | tuple h ih => exact ⟨nofun, nofun, nofun⟩
  | @dict es h ih =>
    refine ⟨nofun, ?_, nofun⟩
    rintro _ ⟨⟩ hes
    exact exists_columnSpecEntries? h ih hes
  | @record kind fields given hkeeps h ih =>
    refine ⟨?_, nofun, nofun⟩
    rintro _ _ ⟨⟩
    exact exists_query? hkeeps h ih given

/-- A sound record of a query is read as a query that validation lets through. -/
theorem reads_query : RecordKind.queryConfig.Reads Query.ofRecord? fun q => q.checked = true :=
  fun fields given h => h.readsQueries.query fields given rfl

/-- So is what named values make, if they are sound themselves. -/
theorem exists_query?_of_construct {entries : List (String × Value)} {record : Value}
    (hentries : ∀ e ∈ entries, e.2.Sound)
    (h : RecordKind.queryConfig.construct entries = .ok record) :
    ∃ q, Query.ofRecord? record = some q ∧ q.checked = true := by
  obtain ⟨hsound, hfits⟩ := RecordKind.construct_sound hentries h
  obtain ⟨fields, given, rfl⟩ := hfits.exists_record
  exact reads_query fields given hsound

/-! ## Plain selections -/

/-- What a plain selection is made from. -/
def selectionEntries (table : String) (columns : List (String × Value)) (having union : List Value) :
    List (String × Value) :=
  [("table", .text table), ("fields", .dict columns), ("having", .list having),
    ("union", .list union)]

/-- A plain selection, with conditions on groups and union branches. -/
def selection (table : String) (columns : List (String × Value)) (having union : List Value) :
    Value :=
  .record .queryConfig
    [("table", .text table), ("id_field", .text "id"), ("fields", .dict columns),
      ("joins", .list []), ("where", .list []), ("where_in", .dict []), ("where_not_in", .dict []),
      ("having", .list having), ("group_by", .null), ("order_by", .null), ("order_direction", .null),
      ("limit", .null), ("offset", .null), ("distinct", .bool false), ("union", .list union)]
    ["table", "fields", "having", "union"]

/-- A column that is named by a text is left as it is. -/
theorem settled_plainColumn (s : String) : outputColumn.Settled (.text s) :=
  FieldType.settled_union List.mem_cons_self (FieldType.settled_text (Nat.zero_le _)) (.inl rfl)

/-- A record is left as it is as an output column. -/
theorem settled_outputColumn {kind : RecordKind}
    (hkind : kind = .rawExpression ∨ kind = .queryConfig) (fields : List (String × Value))
    (given : List String) : outputColumn.Settled (.record kind fields given) := by
  obtain ⟨name, hmember⟩ : ∃ name, (name, FieldType.record kind) ∈ [("str", anyText),
      ("RawExpression", .record .rawExpression), ("QueryConfig", .record .queryConfig)] := by
    rcases hkind with rfl | rfl
    · exact ⟨"RawExpression", by simp⟩
    · exact ⟨"QueryConfig", by simp⟩
  refine FieldType.settled_union hmember (FieldType.settled_record kind fields given) (.inr ?_)
  intro m hm room _ w hw
  simp only [List.mem_cons, List.not_mem_nil, or_false] at hm
  rcases hm with rfl | rfl | rfl
  · exact absurd hw (FieldType.scalar_refuses rfl rfl)
  · exact FieldType.eq_of_validate_record hw
  · exact FieldType.eq_of_validate_record hw

/-- A plain selection is made from output columns and branches that stay as they are. -/
theorem construct_selection {table : String} {columns : List (String × Value)}
    {having union : List Value} (htable : table ≠ "") (hsome : columns ≠ [])
    (hcolumns : ∀ e ∈ columns, outputColumn.Settled e.2)
    (hhaving : ∀ x ∈ having, ∃ s, x = .text s)
    (hunion : ∀ x ∈ union, (FieldType.record .queryConfig).Settled x) :
    RecordKind.queryConfig.construct (selectionEntries table columns having union)
      = .ok (selection table columns having union) := by
  have hroom : 0 < RecordKind.queryConfig.roomInside mostNested := by decide
  have hname : textOrTexts.Settled (.text table) :=
    FieldType.settled_union List.mem_cons_self (FieldType.settled_text (Nat.zero_le _)) (.inl rfl)
  have hname := hname _ hroom
  have hcolumns := FieldType.validate_dict_self fun e he => hcolumns e he _ hroom
  have hunion := FieldType.validate_list_self (Nat.zero_le _) fun x hx => hunion x hx _ hroom
  have hfragments := FieldType.settled_texts hhaving _ hroom
  have htruthy : (Value.dict columns).truthy = true := by
    cases columns with
    | nil => exact absurd rfl hsome
    | cons e es => rfl
  have hdeep : (mostNested == 0) = false := rfl
  unfold outputColumn at hcolumns
  rw [RecordKind.construct, selectionEntries, FieldType.validate.eq_def]
  simp [RecordKind.fields, queryFields, lookup?, FieldDef.required, FieldDef.withDefault,
    FieldDef.nullable, FieldDef.ruled, RecordKind.nests, hdeep, gather, Checked.under,
    FieldDef.judge, FieldRule.apply, Except.map, finishRecord, RecordKind.ruleOnAll, hname,
    hcolumns, hfragments, hunion, htable, htruthy]
  rfl

end SqlComposer
