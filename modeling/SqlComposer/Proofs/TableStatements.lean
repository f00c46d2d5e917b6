import SqlComposer.Proofs.Routing
import SqlComposer.Proofs.SealedText
import SqlComposer.Proofs.TableRecords

/-!
# The statements of a table

Nothing in the definition of a table is bound to a placeholder: names, values, comments, defaults
and options all become text of the statements. Every text that does is sealed, those of names,
values and comments because they are quoted, those written bare because they were checked, and
lengths and defaults because the record of the column was validated. Expressions are written as
they are given; they are searched for marks, but whether they end outside quotes and have no
placeholder is up to the caller.

With each part sealed the statements are, so they are executed as they are, and none of their
parts is anything but what it was meant as.
-/

set_option autoImplicit false

namespace SqlComposer

open SqlComposer.Sql SqlComposer.Text

/-! ## Lengths and defaults -/

/-- A text is plain if it is so without plain characters at its start. -/
theorem plain_of_dropWhile {p : Char → Bool} (hp : special.any p = false) {cs : List Char}
    (h : Plain (cs.dropWhile p)) : Plain cs := by
  rw [← List.takeWhile_append_dropWhile (p := p) (l := cs)]
  exact (plain_takeWhile hp cs).append h

/-- A text is plain if it is so without plain characters at its ends. -/
theorem plain_of_trimBy {p : Char → Bool} (hp : special.any p = false) {cs : List Char}
    (h : Plain (trimBy p cs)) : Plain cs := by
  have hreverse {ds : List Char} (hds : Plain ds.reverse) : Plain ds :=
    fun c hc => hds c (List.mem_reverse.mpr hc)
  exact plain_of_dropWhile hp (hreverse (plain_of_dropWhile hp (hreverse h)))

/-- A text that was checked to be a length has digits, blanks and at most one comma. -/
theorem plain_of_isLength {text : String} (h : isLength text = true) : Plain text.toList := by
  refine plain_of_trimBy isBlank_special (plain_of_dropWhile isDigit_special ?_)
  unfold isLength at h
  dsimp only at h
  rcases Bool.or_eq_true_iff.mp (Bool.and_eq_true_iff.mp h).2 with hempty | hscale
  · rw [List.isEmpty_iff.mp hempty]
    exact plain_nil
  · refine plain_of_dropWhile isBlank_special ?_
    split at hscale
    · next more hcomma =>
      rw [hcomma]
      have hdigits := List.all_eq_true.mp (Bool.and_eq_true_iff.mp hscale).2
      exact plain_cons (by decide)
        (plain_of_dropWhile isBlank_special (plain_of_class isDigit_special hdigits))
    · cases hscale

/-- A length that validation lets through is sealed as it is shown. -/
theorem IsColumnLength.sealed {v : Value} (h : IsColumnLength v) : Sealed v.display := by
  cases h with
  | number => exact sealed_toString_int _
  | digits hlength =>
    refine sealed_of_plain fun c hc => plain_of_isLength hlength c ?_
    rw [Value.display_text, withoutSpaces, String.toList_ofList] at hc
    exact List.mem_of_mem_filter hc

/-- A default that validation lets through is sealed as it is written. -/
theorem IsColumnDefault.sealed {v : Value} (h : IsColumnDefault v) :
    Sealed (Column.defaultText v) := by
  cases h with
  | null => decide
  | bool b => cases b <;> decide
  | int n => exact sealed_toString_int n
  | float x => exact sealed_floatText x
  | text s =>
    unfold Column.defaultText
    dsimp only
    split
    · decide
    · exact sealed_quoteText s

/-! ## Clauses -/

theorem sealed_upper_name (t : ColumnType) : Sealed (upper t.name) := by
  cases t <;> decide

/-- The clause of a name that is accepted is sealed. -/
theorem sealed_tokenClause {keyword option : String} (hkeyword : Seam keyword)
    {text : Option String} {clauses : List String}
    (h : tokenClause keyword option text = .ok clauses) : ∀ t ∈ clauses, Sealed t := by
  unfold tokenClause at h
  split at h
  · cases h
    exact List.forall_mem_nil _
  · next token _ =>
    obtain ⟨checked, hchecked, h⟩ := ok_of_bind h
    cases h
    exact List.forall_mem_singleton.mpr (hkeyword.before (sealed_checkToken hchecked))

namespace Column

variable {c : Column}

/-- The expression of a computed column is inert. -/
def ExpressionInert (c : Column) : Prop :=
  ∀ g, c.options.generated = some g → Inert g.expression

instance (c : Column) : Decidable c.ExpressionInert :=
  inferInstanceAs (Decidable (∀ g, c.options.generated = some g → Inert g.expression))

/-- The type of a column is sealed, with its length or its values. -/
theorem sealed_typeText (hc : c.options.Validated) : Sealed c.typeText := by
  unfold typeText
  split
  · refine Seam.after ((sealed_upper_name c.type).join (by decide) ?_) (by decide)
    refine .intercalate (by decide) fun t ht => ?_
    obtain ⟨value, -, rfl⟩ := List.mem_map.mp ht
    exact sealed_quoteText value
  · split
    · next length hlength =>
      simpa only [String.append_assoc] using
        Seam.after ((sealed_upper_name c.type).join (by decide) (hc.length length hlength).sealed)
          (by decide)
    · rw [String.append_empty]
      exact sealed_upper_name c.type

theorem sealed_charsetClauses {clauses : List String} (h : c.charsetClauses = .ok clauses) :
    ∀ t ∈ clauses, Sealed t := by
  unfold charsetClauses at h
  split at h
  · obtain ⟨charset, hcharset, h⟩ := ok_of_bind h
    obtain ⟨collate, hcollate, h⟩ := ok_of_bind h
    cases h
    rw [List.forall_mem_append]
    exact ⟨sealed_tokenClause (by decide) hcharset, sealed_tokenClause (by decide) hcollate⟩
  · cases h
    exact List.forall_mem_nil _

theorem sealed_generatedClause (hc : c.ExpressionInert) {clauses : List String}
    (h : c.generatedClause = .ok clauses) : ∀ t ∈ clauses, Sealed t := by
  unfold generatedClause at h
  split at h
  · cases h
    exact List.forall_mem_nil _
  · next g hg =>
    obtain ⟨expression, hexpression, h⟩ := ok_of_bind h
    cases h
    have hkeyword : Sealed g.storage.keyword := by cases g.storage <;> decide
    have hcomputed : Sealed ("GENERATED ALWAYS AS (" ++ expression) :=
      Seam.before (by decide) (sealed_checkFragment (hc g hg) hexpression)
    exact List.forall_mem_singleton.mpr (hcomputed.join (by decide) hkeyword)

/-- So are the clauses after the expression of a computed column. -/
theorem sealed_closingClauses (hc : c.options.Validated) : ∀ t ∈ c.closingClauses, Sealed t := by
  unfold closingClauses
  simp only [List.forall_mem_append, List.forall_mem_singleton]
  refine ⟨⟨⟨⟨?_, ?_⟩, ?_⟩, ?_⟩, ?_⟩
  · split <;> decide
  · split
    · next v hv =>
      exact List.forall_mem_singleton.mpr (Seam.before (by decide) (hc.default v hv).sealed)
    · exact List.forall_mem_nil _
  · split
    · decide
    · exact List.forall_mem_nil _
  · split
    · split
      · decide
      · exact List.forall_mem_nil _
    · exact List.forall_mem_nil _
  · split
    · exact List.forall_mem_singleton.mpr (Seam.before (by decide) (sealed_quoteText _))
    · exact List.forall_mem_nil _

/-- The definition of a column is sealed if its expression is inert. -/
theorem sealed_definition (hc : c.options.Validated) (hexpression : c.ExpressionInert)
    {text : String} (h : c.definition = .ok text) : Sealed text := by
  unfold definition at h
  obtain ⟨_, -, h⟩ := ok_of_bind h
  obtain ⟨charset, hcharset, h⟩ := ok_of_bind h
  obtain ⟨generated, hgenerated, h⟩ := ok_of_bind h
  obtain ⟨_, -, h⟩ := ok_of_bind h
  cases h
  apply Sealed.intercalate (by decide)
  simp only [List.forall_mem_append, List.forall_mem_cons]
  refine ⟨⟨⟨⟨⟨⟨sealed_quoteName c.name, sealed_typeText hc, List.forall_mem_nil _⟩, ?_⟩, ?_⟩,
    sealed_charsetClauses hcharset⟩, sealed_generatedClause hexpression hgenerated⟩,
    sealed_closingClauses hc⟩
  · split
    · decide
    · exact List.forall_mem_nil _
  · split
    · decide
    · exact List.forall_mem_nil _

end Column

/-! ## Keys, checks and options -/

theorem Index.sealed_definition (i : Index) : Sealed i.definition := by
  have hcolumns : Sealed ("(" ++ nameList i.columns ++ ")") :=
    Seam.after (Seam.before (by decide) (sealed_nameList i.columns)) (by decide)
  unfold Index.definition
  dsimp only
  split
  · exact Seam.before (by decide) hcolumns
  · exact Seam.before (by decide) hcolumns
  · next kind _ _ =>
    have hkeyword : Sealed kind.keyword := by cases kind <;> decide
    exact hkeyword.join (by decide) hcolumns

/-- A sealed text stays sealed with an action after it, or none. -/
theorem sealed_append_actionText {text occasion : String} (htext : Sealed text)
    (hoccasion : Seam occasion) (action : Option ReferentialAction) :
    Sealed (text ++ actionText occasion action) := by
  cases action with
  | none =>
    rw [actionText, String.append_empty]
    exact htext
  | some action =>
    have hkeyword : Sealed action.keyword := by cases action <;> decide
    rw [actionText, ← String.append_assoc]
    exact htext.join hoccasion hkeyword

theorem ForeignKey.sealed_definition {k : ForeignKey} {text : String}
    (h : k.definition = .ok text) : Sealed text := by
  unfold ForeignKey.definition at h
  obtain ⟨reference, hreference, h⟩ := ok_of_bind h
  cases h
  have htarget : Sealed ("FOREIGN KEY (" ++ quoteName k.column ++ ") REFERENCES " ++ reference) :=
    (Seam.before (by decide) (sealed_quoteName k.column)).join (by decide)
      (sealed_checkReference hreference)
  exact sealed_append_actionText (sealed_append_actionText htarget (by decide) k.onDelete)
    (by decide) k.onUpdate

theorem Check.sealed_definition {c : Check} (hc : Inert c.condition) {text : String}
    (h : c.definition = .ok text) : Sealed text := by
  unfold Check.definition at h
  obtain ⟨condition, hcondition, h⟩ := ok_of_bind h
  cases h
  exact Seam.after ((Seam.before (by decide) (sealed_quoteName c.name)).join (by decide)
    (sealed_checkFragment hc hcondition)) (by decide)

theorem TableOptions.sealed_text {o : TableOptions} {text : String} (h : o.text = .ok text) :
    Sealed text := by
  unfold TableOptions.text at h
  obtain ⟨engine, hengine, h⟩ := ok_of_bind h
  obtain ⟨_, -, h⟩ := ok_of_bind h
  obtain ⟨charset, hcharset, h⟩ := ok_of_bind h
  obtain ⟨collate, hcollate, h⟩ := ok_of_bind h
  cases h
  apply Sealed.intercalate (by decide)
  simp only [List.forall_mem_append, List.forall_mem_singleton]
  refine ⟨⟨⟨⟨⟨?_, ?_⟩, ?_⟩, ?_⟩, sealed_tokenClause (by decide) hcollate⟩, ?_⟩
  · exact Seam.before (by decide) (sealed_checkToken hengine)
  · split
    · split
      · exact List.forall_mem_nil _
      · exact List.forall_mem_singleton.mpr (Seam.before (by decide) (sealed_toString_int _))
    · exact List.forall_mem_nil _
  · split
    · next f _ =>
      have hkeyword : Sealed f.keyword := by cases f <;> decide
      exact List.forall_mem_singleton.mpr (Seam.before (by decide) hkeyword)
    · exact List.forall_mem_nil _
  · exact Seam.before (by decide) (sealed_checkToken hcharset)
  · split
    · exact List.forall_mem_singleton.mpr (Seam.before (by decide) (sealed_quoteText _))
    · exact List.forall_mem_nil _

namespace TableDefinition

/-! ## Statements -/

/-- The expressions of a table, of its computed columns and of its checks, are inert. -/
structure ExpressionsInert (t : TableDefinition) : Prop where
  columns : ∀ c ∈ t.columns, c.ExpressionInert
  checks : ∀ c ∈ t.checks, Inert c.condition

instance (t : TableDefinition) : Decidable t.ExpressionsInert :=
  decidable_of_iff ((∀ c ∈ t.columns, c.ExpressionInert) ∧ ∀ c ∈ t.checks, Inert c.condition)
    ⟨fun h => ⟨h.1, h.2⟩, fun h => ⟨h.1, h.2⟩⟩

theorem sealed_optionsText {o : Option TableOptions} {text : String}
    (h : optionsText o = .ok text) : Sealed text := by
  cases o with
  | none =>
    cases h
    decide
  | some o => exact TableOptions.sealed_text h

/-- What a list of parts is written as, if each of them is. -/
theorem mem_of_mapM {α ε : Type} {xs : List α} {f : α → Except ε String} {texts : List String}
    (h : xs.mapM f = .ok texts) {text : String} (ht : text ∈ texts) : ∃ x ∈ xs, f x = .ok text := by
  induction xs generalizing texts with
  | nil =>
    cases h
    cases ht
  | cons x xs ih =>
    rw [List.mapM_cons] at h
    obtain ⟨y, hy, h⟩ := ok_of_bind h
    obtain ⟨ys, hys, h⟩ := ok_of_bind h
    cases h
    rcases List.mem_cons.mp ht with rfl | ht
    · exact ⟨x, List.mem_cons_self, hy⟩
    · obtain ⟨x', hx', hfx'⟩ := ih hys ht
      exact ⟨x', List.mem_cons_of_mem x hx', hfx'⟩

/-- A statement that creates a table is sealed if its parts are. -/
theorem sealed_createStatement {table options : String} {definitions : List String}
    (htable : Sealed table) (hdefinitions : ∀ d ∈ definitions, Sealed d)
    (hoptions : Sealed options) : Sealed (createStatement table definitions options) :=
  ((Seam.before (by decide) htable).join (by decide)
    (.intercalate (by decide) hdefinitions)).join (by decide) hoptions

theorem sealed_createText {t : TableDefinition} (hcolumns : ∀ c ∈ t.columns, c.options.Validated)
    (hexpressions : t.ExpressionsInert) {create : String} (h : t.createText = .ok create) :
    Sealed create := by
  unfold createText at h
  obtain ⟨columns, hcolumnTexts, h⟩ := ok_of_bind h
  obtain ⟨foreignKeys, hforeignKeys, h⟩ := ok_of_bind h
  obtain ⟨checks, hchecks, h⟩ := ok_of_bind h
  obtain ⟨options, hoptions, h⟩ := ok_of_bind h
  cases h
  refine sealed_createStatement (sealed_quoteName t.table) ?_ (sealed_optionsText hoptions)
  simp only [List.forall_mem_append, List.forall_mem_singleton]
  refine ⟨⟨⟨⟨?_, ?_⟩, ?_⟩, ?_⟩, ?_⟩
  · intro text htext
    obtain ⟨c, hc, hdefinition⟩ := mem_of_mapM hcolumnTexts htext
    exact Column.sealed_definition (hcolumns c hc) (hexpressions.columns c hc) hdefinition
  · exact Seam.after (Seam.before (by decide) (sealed_nameList t.primaryKey)) (by decide)
  · intro text htext
    obtain ⟨i, -, rfl⟩ := List.mem_map.mp htext
    exact i.sealed_definition
  · intro text htext
    obtain ⟨k, -, hdefinition⟩ := mem_of_mapM hforeignKeys htext
    exact ForeignKey.sealed_definition hdefinition
  · intro text htext
    obtain ⟨c, hc, hdefinition⟩ := mem_of_mapM hchecks htext
    exact Check.sealed_definition (hexpressions.checks c hc) hdefinition

/-- The statements of a table are sealed if its expressions are inert. -/
theorem sealed_statements {t : TableDefinition} (hcolumns : ∀ c ∈ t.columns, c.options.Validated)
    (hexpressions : t.ExpressionsInert) {statements : List String}
    (h : t.compile = .ok statements) : ∀ s ∈ statements, Sealed s := by
  unfold compile at h
  obtain ⟨create, hcreate, h⟩ := ok_of_bind h
  cases h
  have hcreated : Sealed create := sealed_createText hcolumns hexpressions hcreate
  have hdropped : Sealed (dropStatement (quoteName t.table)) :=
    Seam.before (by decide) (sealed_quoteName t.table)
  exact forall_statements hdropped hcreated

end TableDefinition

/-- A statement without placeholders is bound to no values. -/
theorem bindPositional_of_sealed {sql : String} (h : Sealed sql) :
    ∃ b, bindPositional sql [] = .ok b := ⟨_, bindPositional_of_length h.unheld.symm⟩

/-- A sound record of a table is read as a definition. If the expressions in it are inert and it is
composed, each of its statements ends outside quotes, has no separator or comment outside them,
and is bound to no values. -/
theorem table_statements_sealed {fields : List (String × Value)} {given : List String}
    (hrecord : (Value.record .createTableConfig fields given).Sound) :
    ∃ t, TableDefinition.ofRecord? (.record .createTableConfig fields given) = some t
      ∧ (t.ExpressionsInert → ∀ statements,
        (composeTable (.record .createTableConfig fields given)).1 = .ok statements →
          ∀ s ∈ statements, QuoteClosed s ∧ Unmarked s ∧ countPlaceholders s = 0
            ∧ ∃ b, bindPositional s [] = .ok b) := by
  obtain ⟨t, ht, hcolumns⟩ := reads_table fields given hrecord
  refine ⟨t, ht, fun hexpressions statements h s hs => ?_⟩
  have hcompile : t.compile = .ok statements := by
    simp only [composeTable, ht] at h
    exact ok_of_rejecting h
  have hsealed : Sealed s := TableDefinition.sealed_statements hcolumns hexpressions hcompile s hs
  exact ⟨hsealed.closed, hsealed.unmarked, hsealed.unheld, bindPositional_of_sealed hsealed⟩

/-- The options of a column whose values and comment hold quotes, marks and a placeholder. -/
def moodOptions : Value :=
  defaultColumnOptions.copyWith
    [("enum", .list [.text "it's", .text "so; so"]), ("comment", .text "-- or '?\\")]

/-- A table with marks in its name, and a placeholder within the quotes of its check. -/
def guestBook : Value :=
  .record .createTableConfig
    [("table", .text "guest\x60book;#"),
      ("columns", .list
        [.record .columnSpec
          [("name", .text "mood?"), ("type", .text "enum"), ("options", moodOptions)]
          ["name", "type", "options"]]),
      ("primary_key", .text "mood?"),
      ("foreign_keys", .list []),
      ("indexes", .list []),
      ("checks", .list
        [.record .checkConstraint [("name", .text "asked"), ("condition", .text "mood <> '?'")]
          ["name", "condition"]]),
      ("table_options", .null),
      ("drop_if_exists", .bool true)]
    ["table", "columns", "primary_key", "checks", "drop_if_exists"]

/-- The statements of the table. -/
def guestBookStatements : List String :=
  ["DROP TABLE IF EXISTS \x60guest\x60\x60book;#\x60",
    "CREATE TABLE \x60guest\x60\x60book;#\x60 (\x60mood?\x60 ENUM('it\\'s', 'so; so') NULL "
      ++ "COMMENT '-- or \\'?\\\\', PRIMARY KEY (\x60mood?\x60), "
      ++ "CONSTRAINT \x60asked\x60 CHECK (mood <> '?')) ENGINE=InnoDB DEFAULT CHARACTER SET utf8mb4"]

theorem sound_moodOptions : moodOptions.Sound := by
  refine Value.copyWith_sound sound_defaultColumnOptions ?_
  simp [RecordKind.fields, columnOptionFields, anyText, FieldType.Fits.present]

theorem sound_guestBook : guestBook.Sound := by
  have hcolumn : (Value.record .columnSpec
      [("name", .text "mood?"), ("type", .text "enum"), ("options", moodOptions)]
      ["name", "type", "options"]).Sound := by
    refine .record ?_ (by simp [sound_moodOptions])
    simp only [RecordKind.Keeps, RecordKind.fields, List.forall_mem_cons,
      FieldDef.accepts_required, FieldDef.accepts_withDefault]
    exact ⟨.text (by decide), .choice (by decide), .record _ _, List.forall_mem_nil _⟩
  have hcheck : (Value.record .checkConstraint
      [("name", .text "asked"), ("condition", .text "mood <> '?'")] ["name", "condition"]).Sound := by
    refine .record ?_ (by simp)
    simp only [RecordKind.Keeps, RecordKind.fields, List.forall_mem_cons,
      FieldDef.accepts_required]
    exact ⟨.text (by decide), .text (by decide), List.forall_mem_nil _⟩
  refine .record ?_ (by simp [hcolumn, hcheck])
  simp only [RecordKind.Keeps, RecordKind.fields, tableFields, List.forall_mem_cons,
    FieldDef.accepts_required, FieldDef.accepts_nullable, FieldDef.accepts_withDefault,
    FieldDef.accepts_ruled]
  have hkey : textOrTexts.Fits (.text "mood?") := .union List.mem_cons_self (.text (Nat.zero_le _))
  exact ⟨.text (by decide), .list (by decide) (by simp), ⟨.text "mood?", hkey, rfl⟩,
    .list (by decide) (List.forall_mem_nil _), .list (by decide) (List.forall_mem_nil _),
    .list (by decide) (by simp), .null, .boolean true, List.forall_mem_nil _⟩

/-- The statements of a guest book are sealed, whatever its names and texts try. -/
theorem guestBook_sealed :
    (composeTable guestBook).1 = .ok guestBookStatements
      ∧ ∀ s ∈ guestBookStatements, QuoteClosed s ∧ Unmarked s ∧ countPlaceholders s = 0
        ∧ ∃ b, bindPositional s [] = .ok b := by
  obtain ⟨t, ht, hstatements⟩ := table_statements_sealed sound_guestBook
  have hexpressions : t.ExpressionsInert := by
    have hall : (TableDefinition.ofRecord? guestBook).all (fun t => decide t.ExpressionsInert)
        = true := by decide
    have ht : TableDefinition.ofRecord? guestBook = some t := ht
    rw [ht] at hall
    exact of_decide_eq_true hall
  have hcomposed : (composeTable guestBook).1 = .ok guestBookStatements := by
    have hsome : (composeTable guestBook).1.toOption = some guestBookStatements := by
      decide +kernel
    cases h : (composeTable guestBook).1 with
    | error f =>
      rw [h] at hsome
      cases hsome
    | ok statements =>
      rw [h] at hsome
      cases hsome
      rfl
  exact ⟨hcomposed, hstatements hexpressions guestBookStatements hcomposed⟩

end SqlComposer
