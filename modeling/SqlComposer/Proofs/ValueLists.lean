import SqlComposer.Proofs.Edits
import SqlComposer.Proofs.TableRecords
import SqlComposer.Table.Draft

/-!
# Columns and the values they take

A column of a type that takes values, as `ENUM` does, is written with the list of them, which
stands in the options of the column. The options are a record of their own, so the rule that the
list is there spans two records, and it is looked after in one of them: when a column is made, and
after each assignment to a field of the column itself.

This leaves two ways in which a column can lose its values. A column that is refused as a whole
for what has been assigned to it stays as it was refused. And the list can be taken out of the
options, for which no one asks the column. Over any series of edits of a table or a column these
two are the only ones, and each of them shows in the statement that creates the table.
-/

set_option autoImplicit false

namespace SqlComposer

/-! ## The rule on a column -/

/-- A value is no column that its rule on the whole refuses. -/
def Value.Stocked (v : Value) : Prop :=
  ∀ fields given, v = .record .columnSpec fields given →
    RecordKind.columnSpec.ruleOnAll fields = none

/-- The items of a value are stocked, if it has items. -/
def Value.ItemsStocked (v : Value) : Prop :=
  ∀ xs, v.listItems? = some xs → ∀ x ∈ xs, x.Stocked

/-- A value is null or yields an empty list. -/
def Value.HoldsNothing (v : Value) : Prop := v = .null ∨ v.listItems? = some []

theorem ruleOnAll_column {fields : List (String × Value)} :
    RecordKind.columnSpec.ruleOnAll fields = none ↔
      (takesValues (fieldOf fields "type") = true →
        ((fieldOf fields "options").get "enum").truthy = true) := by
  have hvalues : ((lookup? "options" fields).bind (Value.get? "enum")).getD .null
      = (fieldOf fields "options").get "enum" := by
    unfold fieldOf Value.get
    cases lookup? "options" fields <;> rfl
  simp only [RecordKind.ruleOnAll, hvalues]
  rw [← fieldOf]
  split
  · next h => simpa using h
  · next h => simpa using h

theorem takesValues_congr {v w : Value} (h : w.text? = v.text?) :
    takesValues w = takesValues v := by
  rw [takesValues, takesValues, h]

theorem Value.stocked_column {fields : List (String × Value)} {given : List String} :
    (Value.record .columnSpec fields given).Stocked ↔
      RecordKind.columnSpec.ruleOnAll fields = none :=
  ⟨fun h => h fields given rfl, fun h _ _ heq => by cases heq; exact h⟩

/-- What a sound column has for its type and for its options. -/
theorem Value.Sound.column_parts {fields : List (String × Value)} {given : List String}
    (h : (Value.record .columnSpec fields given).Sound) :
    (∃ s, fieldOf fields "type" = .text s) ∧ ∃ optionFields optionsGiven,
      fieldOf fields "options" = .record .columnOptions optionFields optionsGiven ∧
      (Value.record .columnOptions optionFields optionsGiven).Sound := by
  obtain ⟨hkeeps, hfields⟩ := h.keeps
  simp only [RecordKind.Keeps, RecordKind.fields, List.forall_mem_cons, FieldDef.accepts_required,
    FieldDef.name_required, FieldDef.accepts_withDefault, FieldDef.name_withDefault] at hkeeps
  obtain ⟨-, htype, hoptions, -⟩ := hkeeps
  refine ⟨?_, ?_⟩
  · cases htypeValue : fieldOf fields "type" with
    | text s => exact ⟨s, rfl⟩
    | _ =>
      rw [htypeValue] at htype
      cases htype
  · obtain ⟨optionFields, optionsGiven, hrecord⟩ := hoptions.exists_record
    exact ⟨optionFields, optionsGiven, hrecord, hrecord ▸ fieldOf_sound hfields "options"⟩

/-- A sound column fails as a whole only by its rule. -/
theorem failureOnAll_column {fields : List (String × Value)} {given : List String}
    (h : (Value.record .columnSpec fields given).Sound) :
    RecordKind.columnSpec.failureOnAll fields = (RecordKind.columnSpec.ruleOnAll fields).map
      fun r => .refusal RecordKind.columnSpec.name [.here (.unacceptable r)] := by
  obtain ⟨⟨s, htype⟩, optionFields, optionsGiven, hoptions, -⟩ := h.column_parts
  unfold fieldOf at htype hoptions
  simp only [RecordKind.failureOnAll, htype, hoptions]
  rfl

/-! ## Edits of a column -/

/-- An edit, seen from a column, after which the column is without the values that it needs. -/
inductive Edit.Unstocks (e : Edit) : Value → Prop
  /-- The column as a whole is refused for what has been assigned to it. -/
  | refused {column : Value} {a : Assignment} {reason : String} (hpath : e.path = [])
    (h : column.assign e.field e.value = .ok a)
    (hfailure : a.failure
      = some (.refusal RecordKind.columnSpec.name [.here (.unacceptable reason)])) :
    Unstocks e column
  /-- The list of values is taken out of the options of a column whose type takes them. -/
  | emptied {fields : List (String × Value)} {given : List String}
    (hpath : e.path = [.name "options"]) (hfield : e.field = "enum")
    (hvalue : e.value.HoldsNothing) (htype : takesValues (fieldOf fields "type") = true) :
    Unstocks e (.record .columnSpec fields given)

section Column

variable {fields : List (String × Value)} {given : List String} {name : String} {new : Value}
  {a : Assignment}

/-- After an assignment to a field of it a column is stocked unless it is refused as a whole. -/
theorem assign_stocked_iff (hsound : (Value.record .columnSpec fields given).Sound)
    (hstocked : (Value.record .columnSpec fields given).Stocked) (hnew : new.Sound)
    (h : (Value.record .columnSpec fields given).assign name new = .ok a) :
    a.record.Stocked ↔ ¬ ∃ reason, a.failure
      = some (.refusal RecordKind.columnSpec.name [.here (.unacceptable reason)]) := by
  have hafter : a.record.Sound := Value.assign_sound hsound hnew h
  rcases Value.assign_eq_ok h with ⟨hsame, hfailure⟩ | ⟨_, -, -, w, -, hput, hfailure⟩
  · rw [hsame]
    refine iff_of_true hstocked ?_
    rintro ⟨reason, hwhole⟩
    rcases hfailure with hnone | ⟨issues, hissues, hplaced⟩
    · rw [hnone] at hwhole
      cases hwhole
    -- a value that is refused for the field has its issues there, and not in the whole
    · rw [hissues] at hwhole
      cases hwhole
      exact hplaced _ List.mem_cons_self rfl
  · rw [hput] at hafter ⊢
    rw [Value.stocked_column, hfailure, failureOnAll_column hafter]
    cases RecordKind.columnSpec.ruleOnAll (put name w fields) with
    | none => simp
    | some reason => simpa using ⟨reason, rfl⟩

end Column

/-! ## Edits of the options -/

/-- The field of the options of a column that holds its values. -/
def valuesField : FieldDef := .nullable "enum" (.list 0 anyText)

theorem valuesField_mem : valuesField ∈ RecordKind.columnOptions.fields := by
  simp [RecordKind.fields, columnOptionFields, valuesField]

/-- What is let through as a list of values is empty only for nothing. -/
theorem validate_values_iff {room : Nat} {new w : Value}
    (h : valuesField.type.validate room new = .ok w) : w.truthy = true ↔ ¬ new.HoldsNothing := by
  rw [valuesField, FieldDef.type_nullable, FieldType.validate] at h
  split at h
  · next hnull =>
    cases h
    cases new with
    | null => exact iff_of_false Bool.false_ne_true fun h => h (.inl rfl)
    | _ => cases hnull
  · next hnull =>
    obtain ⟨xs, ys, hxs, rfl, -, hlength, -⟩ := FieldType.validate_list_eq_ok h
    have hnothing : new.HoldsNothing ↔ xs = [] := by
      constructor
      · rintro (rfl | hempty)
        · exact absurd rfl hnull
        · exact Option.some.inj (hxs.symm.trans hempty)
      · rintro rfl
        exact .inr hxs
    rw [hnothing, ← List.length_eq_zero_iff, ← hlength, List.length_eq_zero_iff]
    simp [Value.truthy]

/-- Nothing is let through as a list of values. -/
theorem exists_validate_nothing (room : Nat) {new : Value} (h : new.HoldsNothing) :
    ∃ w, valuesField.type.validate room new = .ok w := by
  rw [valuesField, FieldDef.type_nullable, FieldType.validate]
  split
  · exact ⟨.null, rfl⟩
  · next hnull =>
    rcases h with rfl | hempty
    · exact absurd rfl hnull
    · refine ⟨.list [], ?_⟩
      rw [FieldType.validate.eq_def]
      dsimp only
      split
      · next xs hxs =>
        obtain rfl : xs = [] := Option.some.inj (hxs.symm.trans hempty)
        simp [gather]
      · next hnone =>
        rw [hnone] at hempty
        cases hempty

section Options

variable {fields : List (String × Value)} {given : List String} {field : String} {value : Value}

/-- Assigning a list of values to the options of a column puts it there, if it is let through. -/
theorem edited_values : (Value.record .columnOptions fields given).edited ⟨[], "enum", value⟩
    = match valuesField.type.validate mostNested value with
      | .ok w => .record .columnOptions (put "enum" w fields) (addGiven given "enum")
      | .error _ => .record .columnOptions fields given := by
  have hfield : RecordKind.columnOptions.fields.find? (·.name == "enum") = some valuesField := rfl
  have hroom : RecordKind.columnOptions.roomInside mostNested = mostNested := rfl
  simp only [Value.edited, Value.assignAt, Value.assign, hfield, hroom]
  cases valuesField.type.validate mostNested value <;> rfl

/-- Options with values keep them unless nothing is assigned in their place. -/
theorem options_edited_iff
    (hvalues : ((Value.record .columnOptions fields given).get "enum").truthy = true) :
    (((Value.record .columnOptions fields given).edited ⟨[], field, value⟩).get "enum").truthy
      = true ↔ ¬ (field = "enum" ∧ value.HoldsNothing) := by
  by_cases hfield : field = "enum"
  · subst hfield
    rw [edited_values]
    cases hvalid : valuesField.type.validate mostNested value with
    | ok w =>
      change (fieldOf (put "enum" w fields) "enum").truthy = true ↔ _
      rw [fieldOf_put, if_pos rfl, validate_values_iff hvalid]
      simp only [true_and]
    | error issues =>
      refine iff_of_true hvalues fun h => ?_
      obtain ⟨w, hw⟩ := exists_validate_nothing mostNested h.2
      rw [hvalid] at hw
      cases hw
  · rw [Value.get_edited_other hfield]
    exact iff_of_true hvalues fun h => hfield h.1

/-- What is edited inside the options of a column is not whether there are values. -/
theorem options_edited_inside (step : Inward) (path : List Inward) :
    (((Value.record .columnOptions fields given).edited ⟨step :: path, field, value⟩).get
      "enum").truthy = ((Value.record .columnOptions fields given).get "enum").truthy := by
  cases step with
  | index i => rw [Value.edited_of_error rfl]
  | name n =>
    rw [Value.get_edited]
    split
    · exact (Value.edited_becomes _ _).truthy_eq
    · rfl

end Options

/-- Of the edits inside a column only that which takes the values out of its options matters. -/
theorem column_edited_inside_iff {fields : List (String × Value)} {given : List String} {n : String}
    {path : List Inward} {field : String} {value : Value}
    (hsound : (Value.record .columnSpec fields given).Sound)
    (hstocked : (Value.record .columnSpec fields given).Stocked) :
    ((Value.record .columnSpec fields given).edited ⟨.name n :: path, field, value⟩).Stocked ↔
      ¬ Edit.Unstocks ⟨.name n :: path, field, value⟩ (.record .columnSpec fields given) := by
  obtain ⟨fields', given', hafter⟩ := (Value.edited_becomes (.record .columnSpec fields given)
    ⟨.name n :: path, field, value⟩).exists_record
  have hfield (m : String) : fieldOf fields' m
      = if n = m then (fieldOf fields m).edited ⟨path, field, value⟩ else fieldOf fields m := by
    have hget : ((Value.record .columnSpec fields given).edited
        ⟨.name n :: path, field, value⟩).get m = _ := Value.get_edited n m
    rwa [hafter] at hget
  have htype : takesValues (fieldOf fields' "type") = takesValues (fieldOf fields "type") := by
    rw [hfield]
    split
    · exact takesValues_congr (Value.edited_becomes _ _).text?_eq
    · rfl
  -- so the type takes values as before, and what is left to follow is the list in the options
  rw [hafter, Value.stocked_column, ruleOnAll_column, htype]
  rw [Value.stocked_column, ruleOnAll_column] at hstocked
  by_cases htakes : takesValues (fieldOf fields "type") = true
  · have hvalues := hstocked htakes
    rw [hfield]
    by_cases hn : n = "options"
    · subst hn
      obtain ⟨-, optionFields, optionsGiven, hoptions, -⟩ := hsound.column_parts
      rw [if_pos rfl]
      rw [hoptions] at hvalues ⊢
      cases path with
      -- the edit assigns to the options themselves, which know nothing of the type
      | nil =>
        simp only [htakes, true_implies]
        rw [options_edited_iff hvalues]
        refine not_congr ⟨fun h => .emptied rfl h.1 h.2 htakes, ?_⟩
        rintro (⟨⟨⟩⟩ | ⟨-, henum, hnothing, -⟩)
        exact ⟨henum, hnothing⟩
      | cons step path =>
        rw [options_edited_inside]
        exact iff_of_true (fun _ => hvalues) (by rintro (⟨⟨⟩⟩ | ⟨⟨⟩⟩))
    · rw [if_neg hn]
      refine iff_of_true (fun _ => hvalues) ?_
      rintro (⟨⟨⟩⟩ | ⟨⟨⟩⟩)
      exact hn rfl
  · refine iff_of_true (fun h => absurd h htakes) ?_
    rintro (⟨⟨⟩⟩ | ⟨-, -, -, h⟩)
    exact htakes h

/-- After an edit a column is stocked unless the edit takes the values that it needs. -/
theorem column_edited_iff {fields : List (String × Value)} {given : List String} {e : Edit}
    (hsound : (Value.record .columnSpec fields given).Sound)
    (hstocked : (Value.record .columnSpec fields given).Stocked) (he : e.value.Sound) :
    ((Value.record .columnSpec fields given).edited e).Stocked ↔
      ¬ e.Unstocks (.record .columnSpec fields given) := by
  obtain ⟨path, field, value⟩ := e
  cases path with
  | nil =>
    unfold Value.edited
    split
    · next a ha =>
      rw [assign_stocked_iff hsound hstocked he ha]
      refine not_congr ⟨fun ⟨reason, h⟩ => .refused rfl ha h, ?_⟩
      rintro (⟨-, h, hfailure⟩ | ⟨hpath⟩)
      · obtain rfl := Except.ok.inj (ha.symm.trans h)
        exact ⟨_, hfailure⟩
      · cases hpath
    · next f hf =>
      refine iff_of_true hstocked ?_
      rintro (⟨-, h, -⟩ | ⟨hpath⟩)
      · cases hf.symm.trans h
      · cases hpath
  | cons step path =>
    cases step with
    | index i =>
      rw [Value.edited_of_error rfl]
      exact iff_of_true hstocked (by rintro (⟨⟨⟩⟩ | ⟨⟨⟩⟩))
    | name n => exact column_edited_inside_iff hsound hstocked

/-! ## Edits of a table -/

/-- The records of the columns that a record describes: of a table those in it, of a column
itself. -/
def Value.columnRecords : Value → List Value
  | .record .columnSpec fields given => [.record .columnSpec fields given]
  | .record .createTableConfig fields _ => (fieldOf fields "columns").items
  | _ => []

/-- The column that a path through such a record enters, and the rest of the path. -/
def Value.entered? (v : Value) (path : List Inward) : Option (Value × List Inward) :=
  match v, path with
  | .record .columnSpec .., path => some (v, path)
  | .record .createTableConfig fields _, .name n :: .index i :: rest =>
    if n = "columns" then ((fieldOf fields "columns").item i).toOption.map (·, rest) else none
  | _, _ => none

/-- An edit of a table or a column takes values from a column that needs them. -/
def Edit.UnstocksIn (e : Edit) (v : Value) : Prop :=
  ∃ column rest, v.entered? e.path = some (column, rest) ∧
    Edit.Unstocks { e with path := rest } column

/-- What a column is made from is stocked afterwards; one that is given as such stays as it is. -/
theorem validate_column_stocked {room : Nat} {v w : Value} (hv : v.Stocked)
    (h : (FieldType.record .columnSpec).validate room v = .ok w) : w.Stocked := by
  rcases FieldType.validate_record_eq_ok h with ⟨_, _, -, rfl⟩ | ⟨_, _, _, -, rfl, hrule, -⟩
  · exact hv
  · exact Value.stocked_column.mpr hrule

theorem validate_columns_stocked {room least : Nat} {v w : Value} (hv : v.ItemsStocked)
    (h : (FieldType.list least (.record .columnSpec)).validate room v = .ok w) :
    ∀ c ∈ w.items, c.Stocked := by
  obtain ⟨xs, ys, hxs, rfl, -, -, hys⟩ := FieldType.validate_list_eq_ok h
  intro c hc
  obtain ⟨x, hx, hvalid⟩ := hys c hc
  exact validate_column_stocked (hv xs hxs x hx) hvalid

/-- The field of a table that holds its columns. -/
def columnsField : FieldDef := .required "columns" (.list 1 (.record .columnSpec))

theorem columnsField_mem : columnsField ∈ RecordKind.createTableConfig.fields := by
  simp [RecordKind.fields, tableFields, columnsField]

section Table

variable {fields : List (String × Value)} {given : List String}

/-- The columns of a sound table are sound records of columns. -/
theorem Value.Sound.table_columns (h : (Value.record .createTableConfig fields given).Sound) :
    ∃ xs, fieldOf fields "columns" = .list xs ∧ ∀ x ∈ xs, ∃ columnFields columnGiven,
      x = .record .columnSpec columnFields columnGiven ∧ x.Sound := by
  obtain ⟨hkeeps, hfields⟩ := h.keeps
  have hfits : columnsField.type.Fits (fieldOf fields "columns") :=
    FieldDef.accepts_required.mp (hkeeps columnsField columnsField_mem)
  obtain ⟨xs, hxs, hitems⟩ := hfits.exists_list
  have hsound : (Value.list xs).Sound := hxs ▸ fieldOf_sound hfields "columns"
  refine ⟨xs, hxs, fun x hx => ?_⟩
  obtain ⟨columnFields, columnGiven, hrecord⟩ := (hitems x hx).exists_record
  exact ⟨columnFields, columnGiven, hrecord, sound_list.mp hsound x hx⟩

/-- A table that is edited is a table, and what it has for its columns are its columns. -/
theorem columnRecords_edited (e : Edit) :
    ((Value.record .createTableConfig fields given).edited e).columnRecords
      = (((Value.record .createTableConfig fields given).edited e).get "columns").items := by
  obtain ⟨fields', given', h⟩ :=
    (Value.edited_becomes (.record .createTableConfig fields given) e).exists_record
  rw [h]
  rfl

/-- An assignment to a field of a table leaves its columns stocked. -/
theorem table_assigned_stocked {field : String} {value : Value}
    (hstocked : ∀ c ∈ (fieldOf fields "columns").items, c.Stocked) (hvalue : value.ItemsStocked) :
    ∀ c ∈ ((Value.record .createTableConfig fields given).edited ⟨[], field, value⟩).columnRecords,
      c.Stocked := by
  rw [columnRecords_edited]
  by_cases hfield : field = "columns"
  · subst hfield
    unfold Value.edited
    split
    · next a ha =>
      rcases Value.assign_eq_ok ha with ⟨hsame, -⟩ | ⟨d, hd, hname, w, hjudged, hput, -⟩
      · rw [hsame]
        exact hstocked
      · obtain rfl : d = columnsField :=
          List.inj_on_of_nodup_map (RecordKind.nodup_names .createTableConfig) hd columnsField_mem
            hname
        obtain ⟨u, hu, hrule⟩ := FieldDef.judge_eq_ok hjudged
        obtain rfl : u = w := Except.ok.inj hrule
        have hcolumns : a.record.get "columns" = u := by
          rw [hput]
          exact (fieldOf_put "columns" u fields "columns").trans (if_pos rfl)
        rw [hcolumns]
        exact validate_columns_stocked hvalue hu
    · exact hstocked
  · rw [Value.get_edited_other hfield]
    exact hstocked

theorem forall_mem_set_iff {α : Type} {P : α → Prop} {xs : List α} {k : Nat} {x y : α}
    (hx : xs[k]? = some x) (hall : ∀ z ∈ xs, P z) : (∀ z ∈ xs.set k y, P z) ↔ P y := by
  obtain ⟨hlt, -⟩ := List.getElem?_eq_some_iff.mp hx
  constructor
  · intro h
    exact h y (List.mem_set hlt y)
  · intro hy z hz
    rcases List.mem_or_eq_of_mem_set hz with hz | rfl
    · exact hall z hz
    · exact hy

/-- Edits that go on from the list of the columns of a table. -/
theorem columns_edited_iff {xs : List Value} {path : List Inward} {field : String} {value : Value}
    (hcolumns : ∀ x ∈ xs, ∃ columnFields columnGiven,
      x = .record .columnSpec columnFields columnGiven ∧ x.Sound)
    (hstocked : ∀ x ∈ xs, x.Stocked) (hvalue : value.Sound) :
    (∀ c ∈ ((Value.list xs).edited ⟨path, field, value⟩).items, c.Stocked) ↔
      ¬ ∃ i rest column, path = .index i :: rest ∧ (Value.list xs).item i = .ok column ∧
        Edit.Unstocks ⟨rest, field, value⟩ column := by
  cases path with
  | nil => exact iff_of_true hstocked (by rintro ⟨_, _, _, ⟨⟩, -⟩)
  | cons step rest =>
    cases step with
    | name n =>
      rw [Value.edited_of_error rfl]
      exact iff_of_true hstocked (by rintro ⟨_, _, _, ⟨⟩, -⟩)
    | index i =>
      cases hitem : (Value.list xs).item i with
      | error f =>
        have hmissing : (Value.list xs).inward (.index i) = .error f := hitem
        rw [Value.edited_of_error hmissing]
        refine iff_of_true hstocked ?_
        rintro ⟨_, _, _, ⟨⟩, hfound, -⟩
        cases hitem.symm.trans hfound
      | ok column =>
        obtain ⟨k, hk, hx⟩ := Value.item_eq_ok (.inl hitem)
        have hmem : column ∈ xs := List.mem_of_getElem? hx
        obtain ⟨columnFields, columnGiven, rfl, hsound⟩ := hcolumns column hmem
        rw [Value.edited_item hk hx]
        change (∀ c ∈ xs.set k _, c.Stocked) ↔ _
        rw [forall_mem_set_iff hx hstocked, column_edited_iff hsound (hstocked _ hmem) hvalue]
        refine not_congr ⟨fun h => ⟨i, rest, _, rfl, hitem, h⟩, ?_⟩
        rintro ⟨_, _, _, ⟨⟩, hfound, h⟩
        obtain rfl := Except.ok.inj (hitem.symm.trans hfound)
        exact h

/-- The columns that paths through a table enter. -/
theorem entered?_table {path rest : List Inward} {column : Value} :
    (Value.record .createTableConfig fields given).entered? path = some (column, rest) ↔
      ∃ i, path = .name "columns" :: .index i :: rest ∧
        (fieldOf fields "columns").item i = .ok column := by
  unfold Value.entered?
  split
  · next heq => cases heq
  · next n i rest' heq =>
    cases heq
    split
    · next hn =>
      subst hn
      cases hitem : (fieldOf fields "columns").item i with
      | error f =>
        simp only [Except.toOption, Option.map_none, reduceCtorEq, false_iff]
        rintro ⟨_, ⟨⟩, hfound⟩
        cases hitem.symm.trans hfound
      | ok x =>
        simp only [Except.toOption, Option.map_some, Option.some.injEq, Prod.mk.injEq]
        constructor
        · rintro ⟨rfl, rfl⟩
          exact ⟨i, rfl, hitem⟩
        · rintro ⟨_, ⟨⟩, hfound⟩
          exact ⟨Except.ok.inj (hitem.symm.trans hfound), rfl⟩
    · next hn =>
      simp only [reduceCtorEq, false_iff]
      rintro ⟨_, ⟨⟩, -⟩
      exact hn rfl
  · next hother =>
    simp only [reduceCtorEq, false_iff]
    rintro ⟨i, rfl, -⟩
    exact hother fields given "columns" i rest rfl rfl

/-- After an edit the columns of a table are stocked unless the edit takes values from one. -/
theorem table_edited_iff {e : Edit} (hsound : (Value.record .createTableConfig fields given).Sound)
    (hstocked : ∀ c ∈ (fieldOf fields "columns").items, c.Stocked)
    (he : e.value.Sound) (hitems : e.value.ItemsStocked) :
    (∀ c ∈ ((Value.record .createTableConfig fields given).edited e).columnRecords, c.Stocked) ↔
      ¬ e.UnstocksIn (.record .createTableConfig fields given) := by
  obtain ⟨xs, hxs, hcolumns⟩ := hsound.table_columns
  obtain ⟨path, field, value⟩ := e
  have henters : Edit.UnstocksIn ⟨path, field, value⟩ (.record .createTableConfig fields given) ↔
      ∃ i rest column, path = .name "columns" :: .index i :: rest ∧
        (Value.list xs).item i = .ok column ∧ Edit.Unstocks ⟨rest, field, value⟩ column := by
    simp only [Edit.UnstocksIn, entered?_table, hxs]
    constructor
    · rintro ⟨column, rest, ⟨i, hpath, hitem⟩, h⟩
      exact ⟨i, rest, column, hpath, hitem, h⟩
    · rintro ⟨i, rest, column, hpath, hitem, h⟩
      exact ⟨column, rest, ⟨i, hpath, hitem⟩, h⟩
  rw [henters]
  cases path with
  | nil => exact iff_of_true (table_assigned_stocked hstocked hitems) (by rintro ⟨_, _, _, ⟨⟩, -⟩)
  | cons step path =>
    cases step with
    | index i =>
      rw [Value.edited_of_error rfl]
      exact iff_of_true hstocked (by rintro ⟨_, _, _, ⟨⟩, -⟩)
    | name n =>
      rw [columnRecords_edited, Value.get_edited]
      change (∀ c ∈ (if n = "columns" then (fieldOf fields "columns").edited ⟨path, field, value⟩
        else fieldOf fields "columns").items, c.Stocked) ↔ _
      rw [hxs] at hstocked ⊢
      by_cases hn : n = "columns"
      · subst hn
        rw [if_pos rfl, columns_edited_iff hcolumns hstocked he]
        simp only [List.cons.injEq, true_and]
      · rw [if_neg hn]
        refine iff_of_true hstocked ?_
        rintro ⟨_, _, _, ⟨⟩, -⟩
        exact hn rfl

end Table

/-! ## What is written -/

/-- A column whose type takes values has some and is not written with an empty list of them. -/
def Column.ListsValues (c : Column) : Prop :=
  c.type.hasValues = true →
    c.options.values ≠ [] ∧ c.typeText ≠ Text.upper c.type.name ++ "()"

/-- The columns that the record of a column or a table describes. -/
def Value.describedColumns? (v : Value) : Option (List Column) :=
  match v with
  | .record .columnSpec .. => (Column.ofRecord? v).map fun c => [c]
  | _ => (TableDefinition.ofRecord? v).map (·.columns)

theorem intercalate_quoteText_ne {values : List String} (h : values ≠ []) :
    ", ".intercalate (values.map Sql.quoteText) ≠ "" := by
  have hquoted (v : String) : Sql.quoteText v ≠ "" := fun hempty => by
    have hchars := congrArg String.toList hempty
    simp [Sql.quoteText] at hchars
  obtain ⟨v, rest, rfl⟩ := List.exists_cons_of_ne_nil h
  cases rest with
  | nil => simpa using hquoted v
  | cons w rest =>
    rw [List.map_cons, List.map_cons, String.intercalate_cons_cons]
    simp [String.append_eq_empty_iff]

/-- A type is written with an empty list exactly if there are no values. -/
theorem Column.listsValues_iff {c : Column} :
    c.ListsValues ↔ (c.type.hasValues = true → c.options.values ≠ []) := by
  refine ⟨fun h htype => (h htype).1, fun h htype => ⟨h htype, fun hempty => ?_⟩⟩
  rw [typeText, if_pos htype, String.append_assoc, String.append_assoc, String.append_right_inj,
    show "()" = "(" ++ ("" ++ ")") from rfl, String.append_right_inj, String.append_left_inj]
    at hempty
  exact intercalate_quoteText_ne (h htype) hempty

theorem takesValues_name (t : ColumnType) : takesValues (.text t.name) = t.hasValues := by
  cases t <;> rfl

theorem takesValues_of_choice {v : Value} {t : ColumnType}
    (h : choice? ColumnType.all (·.name) v = some t) : takesValues v = t.hasValues := by
  obtain ⟨s, hs, hfound⟩ := Option.bind_eq_some_iff.mp h
  have hname : t.name = s :=
    beq_iff_eq.mp (List.find?_some (p := fun t : ColumnType => t.name == s) hfound)
  subst hname
  rw [← takesValues_name t]
  exact takesValues_congr hs

/-- What is read of each of several values agrees with the values. -/
theorem forall_mem_mapM_iff {α β : Type} {read? : α → Option β} {P : α → Prop} {Q : β → Prop}
    {xs : List α} {bs : List β} (h : xs.mapM read? = some bs)
    (hread : ∀ x ∈ xs, ∀ b, read? x = some b → (Q b ↔ P x)) :
    (∀ b ∈ bs, Q b) ↔ ∀ x ∈ xs, P x := by
  induction xs generalizing bs with
  | nil =>
    cases h
    simp
  | cons x xs ih =>
    simp only [List.mapM_cons, Option.bind_eq_bind, Option.bind_eq_some_iff, Option.pure_def,
      Option.some.injEq] at h
    obtain ⟨b, hb, rest, hrest, rfl⟩ := h
    rw [List.forall_mem_cons, List.forall_mem_cons, hread x List.mem_cons_self b hb,
      ih hrest fun y hy => hread y (List.mem_cons_of_mem x hy)]

/-- The options of a column are read with values if they have some. -/
theorem options_values_iff {fields : List (String × Value)} {given : List String}
    {o : ColumnOptions} (hsound : (Value.record .columnOptions fields given).Sound)
    (h : ColumnOptions.ofRecord? (.record .columnOptions fields given) = some o) :
    o.values ≠ [] ↔ ((Value.record .columnOptions fields given).get "enum").truthy = true := by
  have hfits : valuesField.type.Fits (fieldOf fields "enum") :=
    FieldDef.accepts_nullable.mp (hsound.keeps.1 valuesField valuesField_mem)
  simp only [ColumnOptions.ofRecord?, Option.bind_eq_bind, Option.bind_eq_some_iff,
    Option.pure_def, Option.some.injEq] at h
  obtain ⟨_, -, _, -, _, -, _, -, values, hvalues, _, -, rfl⟩ := h
  change values ≠ [] ↔ (fieldOf fields "enum").truthy = true
  rcases hfits.cases_optional with hnull | hlist
  · rw [hnull] at hvalues ⊢
    cases hvalues
    exact iff_of_false (fun h => h rfl) Bool.false_ne_true
  · obtain ⟨xs, hxs, -⟩ := hlist.exists_list
    rw [hxs] at hvalues ⊢
    have hread : xs.mapM Value.text? = some values := hvalues
    have hempty : (∀ s ∈ values, False) ↔ ∀ x ∈ xs, False :=
      forall_mem_mapM_iff hread fun _ _ _ _ => Iff.rfl
    rw [← List.eq_nil_iff_forall_not_mem, ← List.eq_nil_iff_forall_not_mem] at hempty
    rw [Ne, hempty]
    simp [Value.truthy]

/-- The column that a sound record describes lists its values if the record is stocked. -/
theorem column_listsValues_iff {fields : List (String × Value)} {given : List String} {c : Column}
    (hsound : (Value.record .columnSpec fields given).Sound)
    (h : Column.ofRecord? (.record .columnSpec fields given) = some c) :
    c.ListsValues ↔ (Value.record .columnSpec fields given).Stocked := by
  obtain ⟨-, optionFields, optionsGiven, hrecord, hoptionsSound⟩ := hsound.column_parts
  simp only [Column.ofRecord?, Option.bind_eq_bind, Option.bind_eq_some_iff, Option.pure_def,
    Option.some.injEq] at h
  obtain ⟨name, -, type, htype, options, hoptions, rfl⟩ := h
  rw [hrecord] at hoptions
  rw [Column.listsValues_iff, Value.stocked_column, ruleOnAll_column, hrecord,
    takesValues_of_choice htype, options_values_iff hoptionsSound hoptions]

/-- The columns that a sound record of a column or a table describes list their values if their
records are stocked. -/
theorem described_listsValues_iff {kind : RecordKind} {v : Value}
    (hkind : kind = .columnSpec ∨ kind = .createTableConfig) (hsound : v.Sound)
    (hfits : (FieldType.record kind).Fits v) : ∃ cs, v.describedColumns? = some cs ∧
      ((∀ c ∈ cs, c.ListsValues) ↔ ∀ r ∈ v.columnRecords, r.Stocked) := by
  obtain ⟨fields, given, rfl⟩ := hfits.exists_record
  rcases hkind with rfl | rfl
  · obtain ⟨c, hc, -⟩ := reads_column fields given hsound
    refine ⟨[c], by simp only [Value.describedColumns?, hc, Option.map_some], ?_⟩
    simp only [Value.columnRecords, List.forall_mem_singleton]
    exact column_listsValues_iff hsound hc
  · obtain ⟨t, ht, -⟩ := reads_table fields given hsound
    obtain ⟨xs, hxs, hcolumns⟩ := hsound.table_columns
    have hread : xs.mapM Column.ofRecord? = some t.columns := by
      have h := ht
      simp only [TableDefinition.ofRecord?, hxs, Option.bind_eq_bind, Option.bind_eq_some_iff,
        Option.pure_def, Option.some.injEq] at h
      obtain ⟨_, -, columns, hcolumns, _, -, _, -, _, -, _, -, _, -, rfl⟩ := h
      exact hcolumns
    refine ⟨t.columns, by simp only [Value.describedColumns?, ht, Option.map_some], ?_⟩
    simp only [Value.columnRecords, hxs]
    refine forall_mem_mapM_iff hread fun x hx c hc => ?_
    obtain ⟨columnFields, columnGiven, rfl, hxsound⟩ := hcolumns x hx
    exact column_listsValues_iff hxsound hc

/-! ## Series of edits -/

/-- A column or a table as it is made is stocked. -/
theorem construct_stocked {kind : RecordKind} (hkind : kind = .columnSpec ∨ kind = .createTableConfig)
    {entries : List (String × Value)} (hentries : ∀ e ∈ entries, e.2.ItemsStocked) {v : Value}
    (h : kind.construct entries = .ok v) : ∀ c ∈ v.columnRecords, c.Stocked := by
  rcases FieldType.validate_record_eq_ok h with ⟨_, _, ⟨⟩, -⟩ |
    ⟨es, fields, given, heq, rfl, hrule, hfields, -⟩
  cases heq
  rcases hkind with rfl | rfl
  · exact List.forall_mem_singleton.mpr (Value.stocked_column.mpr hrule)
  · rcases hfields columnsField columnsField_mem with ⟨x, u, hx, hu, happlied⟩ | hdefault
    · have hcolumns : u = fieldOf fields "columns" := Except.ok.inj happlied
      simp only [Value.columnRecords, ← hcolumns]
      exact validate_columns_stocked (hentries _ (mem_of_lookup? hx)) hu
    · cases hdefault

/-- After an edit the columns of a column or a table are stocked unless the edit takes values from
one that needs them. -/
theorem edited_stocked_iff {kind : RecordKind} {v : Value} {e : Edit}
    (hkind : kind = .columnSpec ∨ kind = .createTableConfig) (hsound : v.Sound)
    (hfits : (FieldType.record kind).Fits v) (hstocked : ∀ c ∈ v.columnRecords, c.Stocked)
    (he : e.value.Sound) (hitems : e.value.ItemsStocked) :
    (∀ c ∈ (v.edited e).columnRecords, c.Stocked) ↔ ¬ e.UnstocksIn v := by
  obtain ⟨fields, given, rfl⟩ := hfits.exists_record
  rcases hkind with rfl | rfl
  · have hcolumn : (Value.record .columnSpec fields given).Stocked :=
      List.forall_mem_singleton.mp hstocked
    obtain ⟨fields', given', hafter⟩ :=
      (Value.edited_becomes (.record .columnSpec fields given) e).exists_record
    have hrecords : ((Value.record .columnSpec fields given).edited e).columnRecords
        = [(Value.record .columnSpec fields given).edited e] := by
      rw [hafter]
      rfl
    rw [hrecords, List.forall_mem_singleton, column_edited_iff hsound hcolumn he]
    simp [Edit.UnstocksIn, Value.entered?]
  · exact table_edited_iff hsound hstocked he hitems

/-- Over any series of edits of a column or a table, refused or not, the columns that it describes
list their values all along exactly if no edit takes values from one that needs them. What it
describes can always be told. -/
theorem columns_list_values_iff {kind : RecordKind}
    (hkind : kind = .columnSpec ∨ kind = .createTableConfig) {entries : List (String × Value)}
    (hentries : ∀ e ∈ entries, e.2.Sound ∧ e.2.ItemsStocked) {v : Value}
    (hv : kind.construct entries = .ok v) {edits : List Edit}
    (hedits : ∀ e ∈ edits, e.value.Sound ∧ e.value.ItemsStocked) :
    (∀ done, done <+: edits → ∃ cs, (v.editedBy done).describedColumns? = some cs) ∧
    ((∀ done, done <+: edits → ∀ cs, (v.editedBy done).describedColumns? = some cs →
      ∀ c ∈ cs, c.ListsValues) ↔
    ∀ done e, done ++ [e] <+: edits → ¬ e.UnstocksIn (v.editedBy done)) := by
  obtain ⟨hsound, hfits⟩ := RecordKind.construct_sound (fun e he => (hentries e he).1) hv
  have hsounds (done : List Edit) (hdone : done <+: edits) : (v.editedBy done).Sound :=
    Value.editedBy_sound hsound fun e he => (hedits e (hdone.subset he)).1
  have hread (done : List Edit) (hdone : done <+: edits) :=
    described_listsValues_iff hkind (hsounds done hdone) (Value.editedBy_fits hfits)
  refine ⟨fun done hdone => (hread done hdone).imp fun _ h => h.1, ?_⟩
  rw [← Value.along_iff (P := fun v => ∀ c ∈ v.columnRecords, c.Stocked)
    (construct_stocked hkind (fun e he => (hentries e he).2) hv)]
  · constructor
    · intro hall done hdone
      obtain ⟨cs, hcs, hlists⟩ := hread done hdone
      exact hlists.mp (hall done hdone cs hcs)
    · intro hall done hdone cs hcs
      obtain ⟨cs', hcs', hlists⟩ := hread done hdone
      obtain rfl := Option.some.inj (hcs.symm.trans hcs')
      exact hlists.mpr (hall done hdone)
  · intro done e hdone hstocked
    have hbefore : done <+: edits := (List.prefix_append done [e]).trans hdone
    obtain ⟨he, hitems⟩ := hedits e (hdone.subset List.mem_concat_self)
    exact edited_stocked_iff hkind (hsounds done hbefore) (Value.editedBy_fits hfits) hstocked he
      hitems

/-! ## A table of orders -/

section Orders

/-- The options of a column with something for its values and nothing else. -/
def optionsWith (values : Value) : Value :=
  .record .columnOptions (columnOptionFields.map fun d =>
    (d.name, if d.name == "enum" then values else d.default.getD .null)) ["enum"]

/-- A column for the state of an order. -/
def stateColumn (options : Value) : Value :=
  .record .columnSpec [("name", .text "state"), ("type", .text "enum"), ("options", options)]
    ["name", "type", "options"]

/-- A table of orders with nothing but their state. -/
def ordersTable (options : Value) : Value :=
  .record .createTableConfig
    [("table", .text "orders"), ("columns", .list [stateColumn options]),
      ("primary_key", .text "state"), ("foreign_keys", .list []), ("indexes", .list []),
      ("checks", .list []), ("table_options", .null), ("drop_if_exists", .bool false)]
    ["table", "columns", "primary_key"]

/-- What the table is made from if an order can only be open. -/
def ordersEntries : List (String × Value) :=
  [("table", .text "orders"),
    ("columns", .list [.dict [("name", .text "state"), ("type", .text "enum"),
      ("options", .dict [("enum", .list [.text "open"])])]]),
    ("primary_key", .text "state")]

/-- The statement that creates the table, with the type of the state as it is written. -/
def ordersStatement (type : String) : String :=
  "CREATE TABLE `orders` (`state` " ++ type
    ++ " NULL, PRIMARY KEY (`state`)) ENGINE=InnoDB DEFAULT CHARACTER SET utf8mb4"

/-- The refusal of a state that an order could not have. -/
def stateRefusal : Failure :=
  .refusal "ColumnSpec"
    [⟨[], .unacceptable "Column 'state' of type enum requires options.enum values"⟩]

/-- A comment on the state. -/
def stateCommented : Edit :=
  ⟨[.name "columns", .index 0, .name "options"], "comment", .text "where the order is"⟩

theorem validate_openOptions (room : Nat) :
    (FieldType.record .columnOptions).validate room (.dict [("enum", .list [.text "open"])])
      = .ok (optionsWith (.list [.text "open"])) := by
  have hvalues : (FieldType.optional (.list 0 anyText)).validate room (.list [.text "open"])
      = .ok (.list [.text "open"]) := by
    simp [FieldType.validate, Value.isNull, anyText, readText, gather, Checked.under,
      Value.listItems?]
  rw [FieldType.validate.eq_def]
  simp [RecordKind.fields, columnOptionFields, lookup?, FieldDef.nullable, FieldDef.withDefault,
    FieldDef.ruled, RecordKind.nests, gather, Checked.under, hvalues, FieldDef.judge,
    FieldRule.apply, Except.map, finishRecord, RecordKind.ruleOnAll, RecordKind.roomInside,
    optionsWith]

theorem validate_stateColumn (room : Nat) :
    (FieldType.record .columnSpec).validate room
      (.dict [("name", .text "state"), ("type", .text "enum"),
        ("options", .dict [("enum", .list [.text "open"])])])
      = .ok (stateColumn (optionsWith (.list [.text "open"]))) := by
  have htype : (FieldType.choice .smalls (ColumnType.all.map (·.name))).validate room
      (.text "enum") = .ok (.text "enum") := by
    have htidy : Tidying.smalls.applyTo (.text "enum") = some "enum" := by decide
    rw [FieldType.validate, htidy]
    rfl
  rw [FieldType.validate.eq_def]
  simp [RecordKind.fields, lookup?, FieldDef.required, FieldDef.withDefault, RecordKind.nests,
    gather, Checked.under, FieldDef.judge, FieldRule.apply, Except.map, finishRecord,
    RecordKind.ruleOnAll, RecordKind.roomInside, htype, validate_openOptions, someText,
    FieldType.validate, readText]
  rfl

theorem construct_orders : RecordKind.createTableConfig.construct ordersEntries
    = .ok (ordersTable (optionsWith (.list [.text "open"]))) := by
  have hkey : textOrTexts.validate mostNested (.text "state") = .ok (.text "state") := by
    simp [textOrTexts, anyText, FieldType.validate, readText, chooseMember, FieldType.closeness,
      Except.isOk, Except.toBool]
  rw [RecordKind.construct, ordersEntries, FieldType.validate.eq_def]
  simp [RecordKind.fields, tableFields, lookup?, FieldDef.required, FieldDef.withDefault,
    FieldDef.nullable, FieldDef.ruled, RecordKind.nests, gather, Checked.under, FieldDef.judge,
    FieldRule.apply, Except.map, finishRecord, RecordKind.ruleOnAll, RecordKind.roomInside, hkey,
    validate_stateColumn, someText, FieldType.validate, readText, Value.listItems?, Value.truthy]
  rfl

/-- A comment leaves the table with the states of orders. -/
theorem orders_commented :
    (∀ e ∈ ordersEntries, e.2.Sound ∧ e.2.ItemsStocked) ∧
    RecordKind.createTableConfig.construct ordersEntries
      = .ok (ordersTable (optionsWith (.list [.text "open"]))) ∧
    (∀ e ∈ [stateCommented], e.value.Sound ∧ e.value.ItemsStocked) ∧
    ∀ done, done <+: [stateCommented] → ∀ cs,
      ((ordersTable (optionsWith (.list [.text "open"]))).editedBy done).describedColumns?
        = some cs → ∀ c ∈ cs, c.ListsValues := by
  have hentries : ∀ e ∈ ordersEntries, e.2.Sound ∧ e.2.ItemsStocked := by
    simp [ordersEntries, Value.ItemsStocked, Value.listItems?, Value.Stocked]
  have hedits : ∀ e ∈ [stateCommented], e.value.Sound ∧ e.value.ItemsStocked := by
    simp [stateCommented, Value.ItemsStocked, Value.listItems?]
  refine ⟨hentries, construct_orders, hedits, ?_⟩
  refine (columns_list_values_iff (.inr rfl) hentries construct_orders hedits).2.mpr ?_
  intro done e hdone
  have hfirst : done = [] := by
    have hlength := hdone.length_le
    simpa using hlength
  subst hfirst
  obtain rfl : e = stateCommented := by simpa using hdone
  rintro ⟨column, rest, hentered, h⟩
  obtain ⟨i, hpath, -⟩ := entered?_table.mp hentered
  cases hpath
  rcases h with ⟨⟨⟩⟩ | ⟨-, hfield⟩
  revert hfield
  decide

/-- A table can be left without the states of orders: by an edit of the options that is let
through, and by one of the column that is refused. -/
theorem orders_without_states :
    ∃ v, RecordKind.createTableConfig.construct ordersEntries = .ok v ∧
      (∃ a, v.assignAt "enum" (.list []) [.name "columns", .index 0, .name "options"] = .ok a ∧
        a.failure = none ∧ (composeTable a.record).1 = .ok [ordersStatement "ENUM()"]) ∧
      ∃ a, v.assignAt "options" (.dict []) [.name "columns", .index 0] = .ok a ∧
        a.failure = some stateRefusal ∧
        (composeTable a.record).1 = .ok [ordersStatement "ENUM()"] := by
  refine ⟨_, construct_orders, ?_, ?_⟩
  · refine ⟨⟨ordersTable (optionsWith (.list [])), none⟩, ?_, rfl, rfl⟩
    have hvalid : valuesField.type.validate mostNested (.list []) = .ok (.list []) := by
      simp [valuesField, FieldType.validate, Value.isNull, Value.listItems?, gather]
    have hassign : (optionsWith (.list [.text "open"])).assign "enum" (.list [])
        = .ok ⟨optionsWith (.list []), none⟩ := by
      have hfield : RecordKind.columnOptions.fields.find? (·.name == "enum") = some valuesField :=
        rfl
      have hroom : RecordKind.columnOptions.roomInside mostNested = mostNested := rfl
      simp only [optionsWith, Value.assign, hfield, hroom, hvalid]
      rfl
    exact Value.assignAt_cons_eq_ok.mpr ⟨_, _, rfl, Value.assignAt_cons_eq_ok.mpr
      ⟨_, _, rfl, Value.assignAt_cons_eq_ok.mpr ⟨_, _, rfl, hassign, rfl⟩, rfl⟩, rfl⟩
  · refine ⟨⟨ordersTable defaultColumnOptions, some stateRefusal⟩, ?_, rfl, rfl⟩
    have hvalid : (FieldType.record .columnOptions).validate mostNested (.dict [])
        = .ok defaultColumnOptions := by
      rw [FieldType.validate.eq_def]
      simp [RecordKind.fields, columnOptionFields, lookup?, FieldDef.nullable,
        FieldDef.withDefault, FieldDef.ruled, RecordKind.nests, gather, Checked.under,
        finishRecord, RecordKind.ruleOnAll, defaultColumnOptions]
    have hassign : (stateColumn (optionsWith (.list [.text "open"]))).assign "options" (.dict [])
        = .ok ⟨stateColumn defaultColumnOptions, some stateRefusal⟩ := by
      have hfield : RecordKind.columnSpec.fields.find? (·.name == "options")
          = some (.withDefault "options" (.record .columnOptions) defaultColumnOptions) := rfl
      have hroom : RecordKind.columnSpec.roomInside mostNested = mostNested := rfl
      simp only [stateColumn, Value.assign, hfield, hroom, FieldDef.withDefault, hvalid]
      rfl
    exact Value.assignAt_cons_eq_ok.mpr
      ⟨_, _, rfl, Value.assignAt_cons_eq_ok.mpr ⟨_, _, rfl, hassign, rfl⟩, rfl⟩

end Orders

end SqlComposer
