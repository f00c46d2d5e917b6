import SqlComposer.Proofs.RecordReaders

/-!
# Tables that sound records describe

A sound record of a table is always read as a table definition: every field holds what the reader
asks for, and so do the records that it consists of. Two things about a column are lost on the
way, as a column may hold any value as its length and as its default. `Validated` keeps what the
schema says about them.
-/

set_option autoImplicit false

namespace SqlComposer

/-! ## Columns -/

/-- A value that a column may have as its length: a positive number, or digits with at most one
comma, as they were checked. -/
inductive IsColumnLength : Value → Prop
  | number {n : Int} (hn : 0 < n) : IsColumnLength (.int n)
  | digits {given : String} (h : isLength given = true) :
    IsColumnLength (.text (withoutSpaces given))

/-- A value that a column may have as its default. -/
inductive IsColumnDefault : Value → Prop
  | null : IsColumnDefault .null
  | bool (b : Bool) : IsColumnDefault (.bool b)
  | int (n : Int) : IsColumnDefault (.int n)
  | float (x : Float) : IsColumnDefault (.float x)
  | text (s : String) : IsColumnDefault (.text s)

/-- The options of a column hold what the schema lets through. -/
structure ColumnOptions.Validated (o : ColumnOptions) : Prop where
  length : ∀ v, o.length = some v → IsColumnLength v
  default : ∀ v, o.default = some v → IsColumnDefault v

/-- What the rule on lengths accepts is null or a length. -/
theorem isColumnLength_of_rule {v w : Value}
    (h : (FieldType.optional (.union [("int", anyInteger), ("str", anyText)])).Fits v)
    (hrule : FieldRule.length.apply v = .ok w) : w = .null ∨ IsColumnLength w := by
  rcases h.cases_optional with rfl | h
  · cases hrule
    exact .inl rfl
  · obtain ⟨m, hm, h⟩ := h.cases_union
    simp only [List.mem_cons, List.not_mem_nil, or_false] at hm
    rcases hm with rfl | rfl
    · cases h with
      | @integer _ _ n =>
        simp only [FieldRule.apply] at hrule
        split at hrule
        · cases hrule
        · next hpositive =>
          cases hrule
          exact .inr (.number (Int.not_le.mp hpositive))
    · obtain ⟨s, rfl⟩ := h.exists_text
      simp only [FieldRule.apply] at hrule
      split at hrule
      · next hlength =>
        cases hrule
        exact .inr (.digits hlength)
      · cases hrule

/-- What fits the type of defaults is a default. -/
theorem isColumnDefault_of_fits {v : Value}
    (h : (FieldType.optional (.union [("bool", .boolean), ("int", anyInteger),
      ("float", .number none), ("str", anyText)])).Fits v) : IsColumnDefault v := by
  rcases h.cases_optional with rfl | h
  · exact .null
  · obtain ⟨m, hm, h⟩ := h.cases_union
    simp only [List.mem_cons, List.not_mem_nil, or_false] at hm
    rcases hm with rfl | rfl | rfl | rfl
    · cases h with
      | boolean b => exact .bool b
    · cases h with
      | integer => exact .int _
    · cases h with
      | number => exact .float _
      | whole => exact .int _
    · obtain ⟨s, rfl⟩ := h.exists_text
      exact .text s

theorem reads_generatedColumn :
    RecordKind.generatedColumn.Reads GeneratedColumn.ofRecord? fun _ => True := by
  intro fields given h
  obtain ⟨hkeeps, -⟩ := h.keeps
  simp only [RecordKind.Keeps, RecordKind.fields, List.forall_mem_cons, FieldDef.accepts_required,
    FieldDef.name_required, FieldDef.accepts_withDefault, FieldDef.name_withDefault] at hkeeps
  obtain ⟨hexpression, htype, -⟩ := hkeeps
  obtain ⟨expression, hexpression⟩ := exists_text? hexpression
  obtain ⟨storage, hstorage⟩ := exists_choice? htype
  exact ⟨⟨expression, storage⟩, by simp [GeneratedColumn.ofRecord?, hexpression, hstorage], trivial⟩

/-- Options that were read from a record which keeps the rules of its fields are validated. -/
theorem ColumnOptions.validated_of_read {fields : List (String × Value)} {given : List String}
    {o : ColumnOptions} (hkeeps : RecordKind.columnOptions.Keeps fields)
    (ho : ColumnOptions.ofRecord? (.record .columnOptions fields given) = some o) :
    o.Validated := by
  simp only [RecordKind.Keeps, RecordKind.fields, columnOptionFields, List.forall_mem_cons,
    FieldDef.accepts_nullable, FieldDef.name_nullable, FieldDef.accepts_withDefault,
    FieldDef.name_withDefault, FieldDef.accepts_ruled, FieldDef.name_ruled,
    FieldDef.type_nullable] at hkeeps
  obtain ⟨⟨length, hlength, hrule⟩, hdefault, -⟩ := hkeeps
  simp only [ColumnOptions.ofRecord?, Option.bind_eq_bind, Option.bind_eq_some_iff,
    Option.pure_def, Option.some.injEq] at ho
  obtain ⟨_, -, _, -, _, -, _, -, _, -, _, -, rfl⟩ := ho
  constructor
  · intro v hv
    dsimp only at hv
    split at hv
    · cases hv
    · next hnull =>
      cases hv
      exact (isColumnLength_of_rule hlength hrule).resolve_left hnull
  · intro v hv
    dsimp only at hv
    split at hv
    · cases hv
      exact isColumnDefault_of_fits hdefault
    · cases hv

/-- The options of a column are read, and keep what the schema says of them. -/
theorem reads_columnOptions :
    RecordKind.columnOptions.Reads ColumnOptions.ofRecord? ColumnOptions.Validated := by
  intro fields given h
  obtain ⟨hkeeps, hfields⟩ := h.keeps
  suffices hread : ∃ o, ColumnOptions.ofRecord? (.record .columnOptions fields given) = some o by
    obtain ⟨o, ho⟩ := hread
    exact ⟨o, ho, ColumnOptions.validated_of_read hkeeps ho⟩
  simp only [RecordKind.Keeps, RecordKind.fields, columnOptionFields, List.forall_mem_cons,
    FieldDef.accepts_nullable, FieldDef.name_nullable, FieldDef.accepts_withDefault,
    FieldDef.name_withDefault, FieldDef.accepts_ruled, FieldDef.name_ruled] at hkeeps
  obtain ⟨-, -, -, -, -, -, hcharset, hcollate, hcomment, honUpdate, henum, hgenerated, -⟩ := hkeeps
  obtain ⟨charset, hcharset⟩ := exists_optionalText? hcharset
  obtain ⟨collate, hcollate⟩ := exists_optionalText? hcollate
  obtain ⟨comment, hcomment⟩ := exists_optionalText? hcomment
  obtain ⟨onUpdate, honUpdate⟩ := exists_optionalText? honUpdate
  obtain ⟨generated, hgenerated⟩ := reads_generatedColumn.exists_optional?
    (fieldOf_sound hfields "generated") hgenerated
  rcases henum.cases_optional with hnull | henum
  · simp only [ColumnOptions.ofRecord?, hcharset, hcollate, hcomment, honUpdate, hnull, hgenerated,
      Option.bind_eq_bind, Option.bind_some, Option.pure_def]
    exact ⟨_, rfl⟩
  · obtain ⟨values, hvalues⟩ := exists_texts? henum
    obtain ⟨xs, hxs, -⟩ := henum.exists_list
    rw [hxs] at hvalues
    simp only [ColumnOptions.ofRecord?, hcharset, hcollate, hcomment, honUpdate, hxs, hvalues,
      hgenerated, Option.bind_eq_bind, Option.bind_some, Option.pure_def]
    exact ⟨_, rfl⟩

theorem reads_column :
    RecordKind.columnSpec.Reads Column.ofRecord? fun c => c.options.Validated := by
  intro fields given h
  obtain ⟨hkeeps, hfields⟩ := h.keeps
  simp only [RecordKind.Keeps, RecordKind.fields, List.forall_mem_cons, FieldDef.accepts_required,
    FieldDef.name_required, FieldDef.accepts_withDefault, FieldDef.name_withDefault] at hkeeps
  obtain ⟨hname, htype, hoptions, -⟩ := hkeeps
  obtain ⟨name, hname⟩ := exists_text? hname
  obtain ⟨type, htype⟩ := exists_choice? htype
  obtain ⟨optionFields, optionsGiven, hrecord⟩ := hoptions.exists_record
  obtain ⟨options, hoptions, hvalidated⟩ : ∃ o,
      ColumnOptions.ofRecord? (fieldOf fields "options") = some o ∧ o.Validated := by
    have hsound := fieldOf_sound hfields "options"
    rw [hrecord] at hsound ⊢
    exact reads_columnOptions _ _ hsound
  exact ⟨⟨name, type, options⟩, by simp [Column.ofRecord?, hname, htype, hoptions], hvalidated⟩

/-! ## Tables -/

theorem reads_index :
    RecordKind.indexDefinition.Reads Index.ofRecord? fun _ => True := by
  intro fields given h
  obtain ⟨hkeeps, -⟩ := h.keeps
  simp only [RecordKind.Keeps, RecordKind.fields, List.forall_mem_cons, FieldDef.accepts_required,
    FieldDef.name_required, FieldDef.accepts_nullable, FieldDef.name_nullable] at hkeeps
  obtain ⟨hcolumns, htype, -⟩ := hkeeps
  obtain ⟨columns, hcolumns⟩ := exists_texts? hcolumns
  obtain ⟨kind, hkind⟩ := exists_optionalChoice? htype
  exact ⟨⟨columns, kind⟩, by simp [Index.ofRecord?, hcolumns, hkind], trivial⟩

theorem reads_foreignKey :
    RecordKind.foreignKey.Reads ForeignKey.ofRecord? fun _ => True := by
  intro fields given h
  obtain ⟨hkeeps, -⟩ := h.keeps
  simp only [RecordKind.Keeps, RecordKind.fields, List.forall_mem_cons, FieldDef.accepts_required,
    FieldDef.name_required, FieldDef.accepts_nullable, FieldDef.name_nullable] at hkeeps
  obtain ⟨hcolumn, hreference, honDelete, honUpdate, -⟩ := hkeeps
  obtain ⟨column, hcolumn⟩ := exists_text? hcolumn
  obtain ⟨reference, hreference⟩ := exists_text? hreference
  obtain ⟨onDelete, honDelete⟩ := exists_optionalChoice? honDelete
  obtain ⟨onUpdate, honUpdate⟩ := exists_optionalChoice? honUpdate
  exact ⟨⟨column, reference, onDelete, onUpdate⟩,
    by simp [ForeignKey.ofRecord?, hcolumn, hreference, honDelete, honUpdate], trivial⟩

theorem reads_check :
    RecordKind.checkConstraint.Reads Check.ofRecord? fun _ => True := by
  intro fields given h
  obtain ⟨hkeeps, -⟩ := h.keeps
  simp only [RecordKind.Keeps, RecordKind.fields, List.forall_mem_cons, FieldDef.accepts_required,
    FieldDef.name_required] at hkeeps
  obtain ⟨hname, hcondition, -⟩ := hkeeps
  obtain ⟨name, hname⟩ := exists_text? hname
  obtain ⟨condition, hcondition⟩ := exists_text? hcondition
  exact ⟨⟨name, condition⟩, by simp [Check.ofRecord?, hname, hcondition], trivial⟩

theorem reads_tableOptions :
    RecordKind.tableOptions.Reads TableOptions.ofRecord? fun _ => True := by
  intro fields given h
  obtain ⟨hkeeps, -⟩ := h.keeps
  simp only [RecordKind.Keeps, RecordKind.fields, List.forall_mem_cons, FieldDef.accepts_nullable,
    FieldDef.name_nullable] at hkeeps
  obtain ⟨hengine, hautoIncrement, hrowFormat, hcharset, hcollate, hcomment, -⟩ := hkeeps
  obtain ⟨engine, hengine⟩ := exists_optionalText? hengine
  obtain ⟨rowFormat, hrowFormat⟩ := exists_optionalChoice? hrowFormat
  obtain ⟨charset, hcharset⟩ := exists_optionalText? hcharset
  obtain ⟨collate, hcollate⟩ := exists_optionalText? hcollate
  obtain ⟨comment, hcomment⟩ := exists_optionalText? hcomment
  rcases hautoIncrement.cases_optional with hnull | hinteger
  · exact ⟨⟨engine, none, rowFormat, charset, collate, comment⟩, by
      simp [TableOptions.ofRecord?, hengine, hnull, hrowFormat, hcharset, hcollate, hcomment],
      trivial⟩
  · obtain ⟨n, hn⟩ := hinteger.exists_int
    exact ⟨⟨engine, some n, rowFormat, charset, collate, comment⟩, by
      simp [TableOptions.ofRecord?, hengine, hn, hrowFormat, hcharset, hcollate, hcomment],
      trivial⟩

/-- A sound record of a table is read as a table definition with validated columns. -/
theorem reads_table : RecordKind.createTableConfig.Reads TableDefinition.ofRecord?
    fun t => ∀ c ∈ t.columns, c.options.Validated := by
  intro fields given h
  obtain ⟨hkeeps, hfields⟩ := h.keeps
  simp only [RecordKind.Keeps, RecordKind.fields, tableFields, List.forall_mem_cons,
    FieldDef.accepts_required, FieldDef.name_required, FieldDef.accepts_nullable,
    FieldDef.name_nullable, FieldDef.accepts_withDefault, FieldDef.name_withDefault,
    FieldDef.accepts_ruled, FieldDef.name_ruled, FieldDef.type_required] at hkeeps
  obtain ⟨htable, hcolumns, ⟨key, hkey, hrule⟩, hforeignKeys, hindexes, hchecks, hoptions, -⟩ :=
    hkeeps
  have hkey : textOrTexts.Fits (fieldOf fields "primary_key") := by
    simp only [FieldRule.apply] at hrule
    split at hrule
    · cases hrule
      exact hkey
    · cases hrule
  have hsound (name : String) : (fieldOf fields name).Sound := fieldOf_sound hfields name
  obtain ⟨table, htable⟩ := exists_text? htable
  obtain ⟨columns, hcolumns, hvalidated⟩ :=
    reads_column.exists_parts? (hsound _) hcolumns
  obtain ⟨primaryKey, hkey⟩ := exists_textOrTexts? hkey
  obtain ⟨indexes, hindexes, -⟩ :=
    reads_index.exists_parts? (hsound _) hindexes
  obtain ⟨foreignKeys, hforeignKeys, -⟩ :=
    reads_foreignKey.exists_parts? (hsound _) hforeignKeys
  obtain ⟨checks, hchecks, -⟩ :=
    reads_check.exists_parts? (hsound _) hchecks
  obtain ⟨options, hoptions⟩ :=
    reads_tableOptions.exists_optional? (hsound _) hoptions
  exact ⟨⟨table, columns, primaryKey, indexes, foreignKeys, checks, options,
    (fieldOf fields "drop_if_exists").truthy⟩, by
    simp only [TableDefinition.ofRecord?, htable, hcolumns, hkey, hindexes, hforeignKeys, hchecks,
      hoptions, Option.bind_eq_bind, Option.bind_some, Option.pure_def], hvalidated⟩

end SqlComposer
