import Mathlib.Data.List.Nodup
import SqlComposer.Proofs.BareTexts
import SqlComposer.Proofs.Edits
import SqlComposer.Proofs.SettledTypes

/-!
# Validating what was validated

Validation turns what is lenient into what is exact: texts of digits become numbers, dictionaries
become records, names get their capitals. What comes out of it is settled (`FieldType.Settled`):
validated once more, it stays as it is. From the types this goes on to the rules of fields, to the
fields of each kind of records, and to the records. Every field of a record that named values have
made can be assigned what it is, and the fields that were given make the same record again.
-/

set_option autoImplicit false

namespace SqlComposer

open SqlComposer.Text

/-! ## Rules -/

/-- Without its spaces a length is still accepted. -/
theorem isLength_withoutSpaces {s : String} (h : isLength s = true) :
    isLength (withoutSpaces s) = true := by
  have hblank {blanks : List Char} (h : Sql.Blank blanks) :
      Sql.Blank (blanks.filter (· != ' ')) := fun c hc => h c (List.mem_of_mem_filter hc)
  have hdigits {digits : List Char} (h : Sql.NonemptyRun isDigit digits) :
      digits.filter (· != ' ') = digits := by
    rw [List.filter_eq_self]
    intro c hc
    have hspace : isDigit ' ' = false := by decide
    refine bne_iff_ne.mpr ?_
    rintro rfl
    rw [h.chars ' ' hc] at hspace
    cases hspace
  have hcomma (cs : List Char) : (',' :: cs).filter (· != ' ') = ',' :: cs.filter (· != ' ') :=
    List.filter_cons_of_pos (by decide)
  rw [Sql.isLength_iff] at h ⊢
  rw [withoutSpaces, String.toList_ofList]
  generalize s.toList = cs at h
  cases h with
  | whole hbefore hrun hafter =>
    simp only [List.filter_append, hdigits hrun]
    exact .whole (hblank hbefore) hrun (hblank hafter)
  | scaled hbefore hprecision hleft hright hscale hafter =>
    simp only [List.filter_append, hcomma, hdigits hprecision, hdigits hscale]
    exact .scaled (hblank hbefore) hprecision (hblank hleft) (hblank hright) hscale (hblank hafter)

theorem withoutSpaces_withoutSpaces (s : String) :
    withoutSpaces (withoutSpaces s) = withoutSpaces s := by
  simp [withoutSpaces, List.filter_filter]

/-- What a rule has made of a value it accepts as it is. -/
theorem FieldRule.apply_self {rule : FieldRule} {v w : Value} (h : rule.apply v = .ok w) :
    rule.apply w = .ok w := by
  rcases apply_eq_ok h with rfl | ⟨s, t, rfl, rfl⟩
  · exact h
  · cases rule with
    | length =>
      simp only [apply] at h ⊢
      split at h
      · next hlength =>
        cases h
        rw [if_pos (isLength_withoutSpaces hlength), withoutSpaces_withoutSpaces]
      · cases h
    | logLevel =>
      have hlevels : ∀ level ∈ ["DEBUG", "INFO", "WARNING", "ERROR", "CRITICAL"],
          upper level = level := by decide
      simp only [apply] at h ⊢
      split at h
      · next hlevel =>
        cases h
        rw [hlevels _ (List.contains_iff_mem.mp hlevel), if_pos hlevel]
      · cases h
    | anything =>
      cases h
      rfl
    | finite =>
      cases h
      rfl
    | _ =>
      simp only [apply] at h ⊢
      split at h
      all_goals
        cases h <;> simp only [*, if_true, if_false, Bool.false_eq_true]

/-- The other rules leave the values they accept as they are. -/
theorem FieldRule.eq_of_apply {rule : FieldRule} (hlength : rule ≠ .length)
    (hlevel : rule ≠ .logLevel) {v w : Value} (h : rule.apply v = .ok w) : w = v := by
  unfold apply at h
  split at h <;> (try dsimp only at h) <;> (try split at h) <;> first
    | exact (Except.ok.inj h).symm
    | exact absurd rfl hlength
    | exact absurd rfl hlevel
    | cases h

/-! ## Fields -/

/-- Judged once more, the value of a field stays as it is. -/
def FieldDef.Settled (d : FieldDef) (w : Value) : Prop :=
  ∀ room, 0 < room → d.judge (d.type.validate room w) = .ok w

/-- The fields whose values are settled: the type is stable, a rule that puts one text in place of
another is on a field that takes any text, and the default is settled. -/
structure FieldDef.Stable (d : FieldDef) : Prop where
  type : d.type.Stable
  rule : d.rule = .length ∨ d.rule = .logLevel → ∀ s, d.type.Settled (.text s)
  default : ∀ v, d.default = some v → d.type.Settled v ∧ d.rule.apply v = .ok v

namespace FieldDef

variable {d : FieldDef} {w : Value}

/-- A value that the type of a field leaves as it is, and its rule as well, is settled. -/
theorem settled_of_type (htype : d.type.Settled w) (hrule : d.rule.apply w = .ok w) :
    d.Settled w := by
  intro room hroom
  rw [htype room hroom]
  simp only [judge, hrule]

/-- What a stable field is made of a value is settled. -/
theorem Stable.settled_of_judge (hd : d.Stable) {room : Nat} {v : Value}
    (h : d.judge (d.type.validate room v) = .ok w) : d.Settled w := by
  obtain ⟨u, hu, hrule⟩ := judge_eq_ok h
  refine settled_of_type ?_ (FieldRule.apply_self hrule)
  by_cases htexts : d.rule = .length ∨ d.rule = .logLevel
  · rcases FieldRule.apply_eq_ok hrule with rfl | ⟨_, t, -, rfl⟩
    · exact hd.type.settled hu
    · exact hd.rule htexts t
  · obtain ⟨hlength, hlevel⟩ := not_or.mp htexts
    rw [FieldRule.eq_of_apply hlength hlevel hrule]
    exact hd.type.settled hu

theorem Stable.settled_default (hd : d.Stable) (h : d.default = some w) : d.Settled w :=
  settled_of_type (hd.default w h).1 (hd.default w h).2

end FieldDef

/-! ## The schema -/

section Schema

variable {least : Nat} {item : FieldType}

@[simp] theorem FieldType.stable_text (least : Nat) : (FieldType.text least).Stable := .scalar rfl

@[simp] theorem FieldType.stable_integer (least most : Option Int) :
    (FieldType.integer least most).Stable := .scalar rfl

@[simp] theorem FieldType.stable_number (least : Option Int) : (FieldType.number least).Stable :=
  .scalar rfl

@[simp] theorem FieldType.stable_boolean : FieldType.boolean.Stable := .scalar rfl

@[simp] theorem FieldType.stable_list : (FieldType.list least item).Stable ↔ item.Stable := by
  refine ⟨fun h => ?_, .list⟩
  cases h with
  | list hitem => exact hitem
  | scalar h => cases h

@[simp] theorem FieldType.stable_dict : (FieldType.dict item).Stable ↔ item.Stable := by
  refine ⟨fun h => ?_, .dict⟩
  cases h with
  | dict hitem => exact hitem
  | scalar h => cases h

@[simp] theorem FieldType.stable_optional : (FieldType.optional item).Stable ↔ item.Stable := by
  refine ⟨fun h => ?_, .optional⟩
  cases h with
  | optional hitem => exact hitem
  | scalar h => cases h

@[simp] theorem stable_anyText : anyText.Stable := .scalar rfl

@[simp] theorem stable_someText : someText.Stable := .scalar rfl

@[simp] theorem stable_anyInteger : anyInteger.Stable := .scalar rfl

@[simp] theorem stable_atLeast (n : Int) : (atLeast n).Stable := .scalar rfl

@[simp] theorem FieldType.stable_any : FieldType.any.Stable := .any

@[simp] theorem FieldType.stable_fragments : FieldType.fragments.Stable := .fragments

@[simp] theorem FieldType.stable_record (kind : RecordKind) : (FieldType.record kind).Stable :=
  .record kind

@[simp] theorem FieldType.settled_any (v : Value) : FieldType.any.Settled v := by
  intro room _
  rw [validate]

@[simp] theorem FieldType.settled_fragments_nil : FieldType.fragments.Settled (.list []) := by
  intro room _
  rw [validate.eq_def]
  rfl

@[simp] theorem FieldType.settled_int {least most : Option Int} {n : Int} :
    (FieldType.integer least most).Settled (.int n) ↔ withinBounds least most n = .ok n := by
  refine ⟨fun h => ?_, settled_integer⟩
  have hvalid := h 1 Nat.one_pos
  rw [validate] at hvalid
  obtain ⟨m, hm, hn⟩ := Except.map_eq_ok hvalid
  cases hn
  exact hm

@[simp] theorem FieldType.settled_list_nil (item : FieldType) :
    (FieldType.list 0 item).Settled (.list []) :=
  fun _ _ => validate_list_self (Nat.zero_le _) (List.forall_mem_nil _)

@[simp] theorem FieldType.settled_dict_nil (item : FieldType) :
    (FieldType.dict item).Settled (.dict []) :=
  fun _ _ => validate_dict_self (List.forall_mem_nil _)

attribute [simp] FieldType.settled_boolean FieldType.settled_null

variable {name : String} {type : FieldType} {default : Value}

@[simp] theorem FieldDef.stable_required : (FieldDef.required name type).Stable ↔ type.Stable :=
  ⟨fun h => h.type, fun h => ⟨h, by simp [required], by simp [required]⟩⟩

@[simp] theorem FieldDef.stable_withDefault :
    (FieldDef.withDefault name type default).Stable ↔ type.Stable ∧ type.Settled default :=
  ⟨fun h => ⟨h.type, (h.default default rfl).1⟩, fun h =>
    ⟨h.1, by simp [withDefault], by simpa [withDefault, FieldRule.apply] using h.2⟩⟩

@[simp] theorem FieldDef.stable_nullable : (FieldDef.nullable name type).Stable ↔ type.Stable := by
  simp [nullable]

/-- A stable field stays so with a rule that accepts its default, on a field that takes any text if
the rule puts one text in place of another. -/
theorem FieldDef.Stable.ruled {d : FieldDef} (h : d.Stable) {rule : FieldRule}
    (htexts : rule = .length ∨ rule = .logLevel → ∀ s, d.type.Settled (.text s))
    (hdefault : ∀ v, d.default = some v → rule.apply v = .ok v) : (d.ruled rule).Stable :=
  ⟨h.type, htexts, fun v hv => ⟨(h.default v hv).1, hdefault v hv⟩⟩

@[simp] theorem FieldDef.stable_ruled_required {rule : FieldRule} (h : type.Stable)
    (hlength : rule ≠ .length) (hlevel : rule ≠ .logLevel) :
    ((FieldDef.required name type).ruled rule).Stable :=
  (stable_required.mpr h).ruled (fun htexts => by simp [hlength, hlevel] at htexts)
    (by simp [required])

@[simp] theorem FieldDef.stable_ruled_nullable {rule : FieldRule} (h : type.Stable)
    (hlength : rule ≠ .length) (hlevel : rule ≠ .logLevel) (hnull : rule.apply .null = .ok .null) :
    ((FieldDef.nullable name type).ruled rule).Stable :=
  (stable_nullable.mpr h).ruled (fun htexts => by simp [hlength, hlevel] at htexts)
    (by simpa [nullable, withDefault] using hnull)

/-- The type of names that may also be listed. -/
@[simp] theorem stable_textOrTexts : textOrTexts.Stable := by
  have hmembers : ∀ m ∈ [("str", anyText), ("list[str]", FieldType.list 0 anyText)],
      m.2.isScalar = true ∨ m.2 = .list 0 anyText := by
    simp [anyText, FieldType.isScalar]
  exact .lists (.scalar rfl) hmembers

/-- The type of the order of rows. -/
@[simp] theorem stable_orderType : (FieldType.union [("str", anyText),
    ("list[union[str,OrderByItem]]",
      .list 0 (.union [("str", anyText), ("OrderByItem", .record .orderByItem)]))]).Stable := by
  have hitem : (FieldType.union
      [("str", anyText), ("OrderByItem", .record .orderByItem)]).Stable :=
    .records (by simp [anyText, FieldType.isScalar])
  have hmembers : ∀ m ∈ [("str", anyText), ("list[union[str,OrderByItem]]",
      FieldType.list 0 (.union [("str", anyText), ("OrderByItem", .record .orderByItem)]))],
      m.2.isScalar = true
        ∨ m.2 = .list 0 (.union [("str", anyText), ("OrderByItem", .record .orderByItem)]) := by
    simp [anyText, FieldType.isScalar]
  exact .lists hitem hmembers

/-- The type of the expression of an output column. -/
@[simp] theorem stable_fieldType : (FieldType.union [("str", anyText),
    ("RawExpression", .record .rawExpression), ("QueryConfig", .record .queryConfig)]).Stable :=
  .records (by simp [anyText, FieldType.isScalar])

/-- The type of lengths takes any text as it is. -/
theorem settled_lengthType (s : String) :
    (FieldType.optional (.union [("int", anyInteger), ("str", anyText)])).Settled (.text s) := by
  have hmember : ("str", anyText) ∈ [("int", anyInteger), ("str", anyText)] :=
    List.mem_cons_of_mem _ List.mem_cons_self
  exact FieldType.settled_present (FieldType.settled_union hmember
    (FieldType.settled_text (Nat.zero_le _)) (.inl rfl))

theorem stable_columnOptionFields : ∀ d ∈ columnOptionFields, d.Stable := by
  have hlength : ((FieldDef.nullable "length"
      (.union [("int", anyInteger), ("str", anyText)])).ruled .length).Stable := by
    refine (FieldDef.stable_nullable.mpr (.records ?_)).ruled (fun _ => settled_lengthType) ?_
    · simp [anyText, anyInteger, FieldType.isScalar]
    · simp [FieldDef.nullable, FieldDef.withDefault, FieldRule.apply]
  have hdefault : (FieldType.union [("bool", .boolean), ("int", anyInteger),
      ("float", .number none), ("str", anyText)]).Stable :=
    .records (by simp [anyText, anyInteger, FieldType.isScalar])
  simp [columnOptionFields, hlength, hdefault]

/-- The fields of every kind of records are stable, but for the settings of a query log, whose
default threshold is a whole number that is no double. -/
theorem RecordKind.stable {kind : RecordKind} (hkind : kind ≠ .queryLoggerConfig) :
    ∀ d ∈ kind.fields, d.Stable := by
  have hjoin : (keywords (JoinKind.all.map (·.keyword))).Stable := .choice (by decide)
  have hdirection : (keywords (SortDirection.all.map (·.keyword))).Stable := .choice (by decide)
  have hstorage : (keywords (GeneratedStorage.all.map (·.keyword))).Stable := .choice (by decide)
  have hindex : (keywords (IndexKind.all.map (·.keyword))).Stable := .choice (by decide)
  have hformat : (keywords (RowFormat.all.map (·.keyword))).Stable := .choice (by decide)
  have haction : (FieldType.choice .spacedCapitals
    (ReferentialAction.all.map (·.keyword))).Stable := .choice (by decide)
  have htype : (FieldType.choice .smalls (ColumnType.all.map (·.name))).Stable :=
    .choice (by decide)
  have hinner : (keywords (JoinKind.all.map (·.keyword))).Settled (.text "INNER") :=
    FieldType.settled_choice (by decide) (by decide)
  have hvirtual : (keywords (GeneratedStorage.all.map (·.keyword))).Settled (.text "VIRTUAL") :=
    FieldType.settled_choice (by decide) (by decide)
  have hid : someText.Settled (.text "id") := FieldType.settled_text (by decide)
  have htext (s : String) : anyText.Settled (.text s) := FieldType.settled_text (Nat.zero_le _)
  have hoptions : (FieldType.record .columnOptions).Settled defaultColumnOptions :=
    FieldType.settled_record _ _ _
  have hlevel : ((FieldDef.withDefault "log_level" anyText
      (.text "INFO")).ruled .logLevel).Stable :=
    (FieldDef.stable_withDefault.mpr ⟨stable_anyText, htext "INFO"⟩).ruled (fun _ => htext)
      (by simp [FieldDef.withDefault, apply_logLevel])
  have hfinite : FieldRule.finite.apply .null = .ok .null := rfl
  cases kind with
  | columnOptions => exact stable_columnOptionFields
  | queryConfig => simp [fields, queryFields, *]
  | createTableConfig => simp [fields, tableFields, *]
  | queryLoggerConfig => exact absurd rfl hkind
  | _ =>
    simp [fields, databaseFields, queryLogFields, appFields, atLeast, anyInteger, withinBounds, *]

end Schema

/-! ## Records -/

/-- What a field is in a record made of entries, or what is wrong with its entry. -/
def FieldDef.found (d : FieldDef) (room : Nat) (es : List (String × Value)) :
    Checked (String × Value) :=
  Checked.under (.name d.name) <|
    match lookup? d.name es with
    | some w => (d.judge (d.type.validate room w)).map fun x => (d.name, x)
    | none => match d.default with
      | some x => .ok (d.name, x)
      | none => complain .missing

/-- The names of the fields of a kind for which there are entries. -/
def RecordKind.givenBy (kind : RecordKind) (es : List (String × Value)) : List String :=
  (kind.fields.map (·.name)).filter fun n => (lookup? n es).isSome

/-- A record is made of entries exactly if each of its fields is found in them and the rule on the
whole allows it. -/
theorem RecordKind.construct_eq_ok_iff {kind : RecordKind} {es : List (String × Value)}
    {record : Value} :
    kind.construct es = .ok record ↔ ∃ fields,
      kind.fields.map (·.found (kind.roomInside mostNested) es) = fields.map .ok
      ∧ kind.ruleOnAll fields = none ∧ record = .record kind fields (kind.givenBy es) := by
  have hdeep : ¬ (kind.nests && mostNested == 0) = true := by
    rw [show (mostNested == 0) = false from rfl, Bool.and_false]
    exact Bool.false_ne_true
  rw [construct, FieldType.validate.eq_def]
  dsimp only
  rw [if_neg hdeep, List.map_congr_left (g := (·.found (kind.roomInside mostNested) es))]
  · constructor
    · intro h
      split at h
      · next fields hfields =>
        obtain ⟨hrule, hrecord⟩ := FieldType.finishRecord_eq_ok h
        exact ⟨fields, gather_eq_ok hfields, hrule, hrecord⟩
      · cases h
    · rintro ⟨fields, hfields, hrule, rfl⟩
      rw [hfields, gather_map_ok]
      simp only [finishRecord, hrule, givenBy]
  · intro d _
    unfold FieldDef.found
    split
    · next w hw => simp only [hw]
    · next hw => cases d.default <;> simp only [hw]

/-- The entry of a field that was found. -/
theorem FieldDef.name_of_found {d : FieldDef} {room : Nat} {es : List (String × Value)}
    {e : String × Value} (h : d.found room es = .ok e) : e.1 = d.name := by
  have h := Checked.under_eq_ok h
  split at h
  · obtain ⟨x, -, rfl⟩ := Except.map_eq_ok h
    rfl
  · split at h
    · cases h
      rfl
    · cases h

/-- What a stable field is found to be in a record is settled. -/
theorem FieldDef.Stable.settled_of_found {d : FieldDef} (hd : d.Stable) {room : Nat}
    {es : List (String × Value)} {w : Value} (h : d.found room es = .ok (d.name, w)) :
    d.Settled w := by
  have h := Checked.under_eq_ok h
  split at h
  · obtain ⟨x, hx, hw⟩ := Except.map_eq_ok h
    cases hw
    exact hd.settled_of_judge hx
  · split at h
    · next hdefault =>
      cases h
      exact hd.settled_default hdefault
    · cases h

/-- A field with a settled entry is found to be that entry. -/
theorem FieldDef.Settled.found {d : FieldDef} {w : Value} (h : d.Settled w) {room : Nat}
    (hroom : 0 < room) {es : List (String × Value)} (hentry : lookup? d.name es = some w) :
    d.found room es = .ok (d.name, w) := by
  unfold FieldDef.found
  rw [hentry]
  simp only [h room hroom]
  rfl

/-- A record with settled fields under their names, which the rule on the whole allows. -/
structure RecordKind.Settles (kind : RecordKind) (fields : List (String × Value)) : Prop where
  each : ∀ d ∈ kind.fields, ∃ w, lookup? d.name fields = some w ∧ d.Settled w
  rule : kind.ruleOnAll fields = none

section Records

variable {kind : RecordKind} {fields es : List (String × Value)} {given : List String}
  {record : Value}

/-- Each field of a record is found under its name. -/
theorem RecordKind.lookup?_of_found {room : Nat}
    (h : kind.fields.map (·.found room es) = fields.map .ok) {d : FieldDef}
    (hd : d ∈ kind.fields) :
    ∃ w, lookup? d.name fields = some w ∧ d.found room es = .ok (d.name, w) := by
  have hgathered : gather (kind.fields.map (·.found room es)) = .ok fields := by
    rw [h, gather_map_ok]
  have hfield : d.found room es = .ok (d.name, fieldOf fields d.name) :=
    fieldOf_gathered kind.nodup_names (fun _ _ _ he => FieldDef.name_of_found he) hgathered hd
  have hnamed : d.name ∈ fields.map (·.1) := by
    have hmem : d.found room es ∈ fields.map .ok := h ▸ List.mem_map_of_mem hd
    obtain ⟨e, he, hfound⟩ := List.mem_map.mp hmem
    rw [← FieldDef.name_of_found hfound.symm]
    exact List.mem_map_of_mem he
  obtain ⟨w, hw⟩ := exists_lookup? hnamed
  refine ⟨w, hw, ?_⟩
  rw [hfield, fieldOf, hw, Option.getD_some]

/-- What values are made into is settled. -/
theorem RecordKind.settles_of_construct (hkind : kind ≠ .queryLoggerConfig)
    (h : kind.construct es = .ok record) :
    ∃ fields, record = .record kind fields (kind.givenBy es) ∧ kind.Settles fields := by
  obtain ⟨fields, hfound, hrule, rfl⟩ := construct_eq_ok_iff.mp h
  refine ⟨fields, rfl, fun d hd => ?_, hrule⟩
  obtain ⟨w, hw, hfield⟩ := lookup?_of_found hfound hd
  exact ⟨w, hw, (RecordKind.stable hkind d hd).settled_of_found hfield⟩

theorem RecordKind.roomInside_pos (kind : RecordKind) : 0 < kind.roomInside mostNested := by
  unfold roomInside
  split <;> decide

/-- A settled value without a rule is what its type leaves as it is. -/
theorem FieldDef.Settled.validate {d : FieldDef} {w : Value} (h : d.Settled w)
    (hrule : d.rule = .anything) : d.type.validate 1 w = .ok w := by
  obtain ⟨u, hu, happly⟩ := judge_eq_ok (h 1 Nat.one_pos)
  rw [hrule] at happly
  cases happly
  exact hu

theorem FieldType.exists_text_of_choice {tidying : Tidying} {names : List String} {room : Nat}
    {v w : Value} (h : (FieldType.choice tidying names).validate room v = .ok w) :
    ∃ s, w = .text s := by
  rw [FieldType.validate] at h
  split at h
  · split at h
    · cases h
      exact ⟨_, rfl⟩
    · cases h
  · cases h

/-- A record with settled fields is not refused as a whole. -/
theorem RecordKind.Settles.failureOnAll (h : kind.Settles fields) :
    kind.failureOnAll fields = none := by
  have hrefusal : RecordKind.failureOnAll.refusal kind fields = none := by
    rw [RecordKind.failureOnAll.refusal, h.rule, Option.map_none]
  cases kind with
  | columnSpec =>
    have hfields := h.each
    simp only [RecordKind.fields, List.forall_mem_cons, FieldDef.name_required,
      FieldDef.name_withDefault] at hfields
    obtain ⟨-, ⟨type, htype, htypeSettled⟩, ⟨options, hoptions, hoptionsSettled⟩, -⟩ := hfields
    obtain ⟨s, rfl⟩ := FieldType.exists_text_of_choice (htypeSettled.validate rfl)
    obtain ⟨optionFields, optionsGiven, rfl⟩ :=
      FieldType.exists_record_of_validate (hoptionsSettled.validate rfl)
    simp only [RecordKind.failureOnAll, htype, hoptions, Option.getD_some]
    exact hrefusal
  | _ => exact hrefusal

/-- A field is looked up by its name. -/
theorem RecordKind.find?_name {d : FieldDef} (hd : d ∈ kind.fields) :
    kind.fields.find? (·.name == d.name) = some d := by
  obtain ⟨d', hd'⟩ := Option.isSome_iff_exists.mp
    (List.find?_isSome (p := fun d' : FieldDef => d'.name == d.name).mpr
      ⟨d, hd, beq_self_eq_true d.name⟩)
  have hname : d'.name = d.name :=
    beq_iff_eq.mp (List.find?_some (p := fun d' : FieldDef => d'.name == d.name) hd')
  have hsame : d' = d :=
    List.inj_on_of_nodup_map kind.nodup_names (List.mem_of_find?_eq_some hd') hd hname
  rw [hd', hsame]

/-- A field of a record with settled fields can be assigned what it is. -/
theorem RecordKind.Settles.assign (h : kind.Settles fields) {d : FieldDef} (hd : d ∈ kind.fields)
    {w : Value} (hw : lookup? d.name fields = some w) (given : List String) :
    (Value.record kind fields given).assign d.name w
      = .ok ⟨.record kind fields (addGiven given d.name), none⟩ := by
  obtain ⟨w', hw', hsettled⟩ := h.each d hd
  rw [hw] at hw'
  cases hw'
  unfold Value.assign
  simp only [RecordKind.find?_name hd, hsettled _ kind.roomInside_pos, Checked.under, put_self hw,
    h.failureOnAll]

/-- The entry of a field among the fields of a record that were given. -/
theorem RecordKind.lookup?_given {d : FieldDef} (hd : d ∈ kind.fields) {w : Value}
    (hw : lookup? d.name fields = some w) :
    lookup? d.name (fields.filter fun e => (kind.givenBy es).contains e.1)
      = (lookup? d.name es).map fun _ => w := by
  have hgiven : (kind.givenBy es).contains d.name = (lookup? d.name es).isSome := by
    rw [Bool.eq_iff_iff, List.contains_iff_mem, givenBy, List.mem_filter]
    exact and_iff_right (List.mem_map_of_mem hd)
  rw [lookup?_filter d.name fields (kind.givenBy es).contains, hgiven, hw]
  cases lookup? d.name es <;> rfl

/-- The fields that were given make the same record again: an entry that was given is settled, and
a field that was not given has its default either way. -/
theorem RecordKind.construct_given (hkind : kind ≠ .queryLoggerConfig)
    (h : kind.construct es = .ok (.record kind fields (kind.givenBy es))) :
    kind.construct (fields.filter fun e => (kind.givenBy es).contains e.1)
      = .ok (.record kind fields (kind.givenBy es)) := by
  obtain ⟨_, hfound, hrule, ⟨⟩⟩ := construct_eq_ok_iff.mp h
  have hfield (d : FieldDef) (hd : d ∈ kind.fields) :
      d.found (kind.roomInside mostNested)
          (fields.filter fun e => (kind.givenBy es).contains e.1)
        = d.found (kind.roomInside mostNested) es := by
    obtain ⟨w, hw, hdw⟩ := lookup?_of_found hfound hd
    have hentry : lookup? d.name (fields.filter fun e => (kind.givenBy es).contains e.1)
        = (lookup? d.name es).map fun _ => w := lookup?_given hd hw
    cases hes : lookup? d.name es with
    | some v =>
      rw [hes] at hentry
      rw [hdw]
      exact ((RecordKind.stable hkind d hd).settled_of_found hdw).found kind.roomInside_pos hentry
    | none =>
      rw [hes] at hentry
      simp only [FieldDef.found, hentry, hes, Option.map_none]
  have hnames : kind.givenBy (fields.filter fun e => (kind.givenBy es).contains e.1)
      = kind.givenBy es := by
    refine List.filter_congr fun n hn => ?_
    obtain ⟨d, hd, rfl⟩ := List.mem_map.mp hn
    obtain ⟨w, hw, -⟩ := lookup?_of_found hfound hd
    rw [lookup?_given hd hw, Option.isSome_map]
  refine construct_eq_ok_iff.mpr ⟨fields, ?_, hrule, by rw [hnames]⟩
  rw [← hfound]
  exact List.map_congr_left hfield

end Records

/-- A record that named values have made keeps what it is: each field can be assigned its own value,
which is accepted and changes no field, and the values of the fields that were given make the same
record once more, with the same fields given. -/
theorem validation_projects {kind : RecordKind} (hkind : kind ≠ .queryLoggerConfig)
    {data : List (String × Value)} {record : Value} (h : kind.construct data = .ok record) :
    ∃ fields given, record = .record kind fields given
      ∧ (∀ d ∈ kind.fields, ∃ w, lookup? d.name fields = some w
        ∧ record.assign d.name w = .ok ⟨.record kind fields (addGiven given d.name), none⟩)
      ∧ kind.construct (fields.filter fun e => given.contains e.1) = .ok record := by
  obtain ⟨fields, rfl, hsettles⟩ := RecordKind.settles_of_construct hkind h
  refine ⟨fields, kind.givenBy data, rfl, fun d hd => ?_, RecordKind.construct_given hkind h⟩
  obtain ⟨w, hw, -⟩ := hsettles.each d hd
  exact ⟨w, hw, hsettles.assign hd hw _⟩

/-- A foreign key with an action in small letters and with blanks of its own. -/
def ownerEntries : List (String × Value) :=
  [("column", .text "owner"), ("reference", .text "users(id)"), ("on_delete", .text " set\t null")]

/-- The fields of the foreign key. -/
def ownerFields : List (String × Value) :=
  [("column", .text "owner"), ("reference", .text "users(id)"), ("on_delete", .text "SET NULL"),
    ("on_update", .null)]

theorem construct_owner : RecordKind.foreignKey.construct ownerEntries
    = .ok (.record .foreignKey ownerFields ["column", "reference", "on_delete"]) := by
  have hcolumn : someText.validate mostNested (.text "owner") = .ok (.text "owner") :=
    FieldType.settled_text (by decide) mostNested (by decide)
  have hreference : anyText.validate mostNested (.text "users(id)") = .ok (.text "users(id)") :=
    FieldType.settled_text (by decide) mostNested (by decide)
  have haction : (FieldType.optional (.choice .spacedCapitals
      (ReferentialAction.all.map (·.keyword)))).validate mostNested (.text " set\t null")
      = .ok (.text "SET NULL") := by
    have hname : Tidying.spacedCapitals.applyTo (.text " set\t null") = some "SET NULL" := by decide
    have hknown : (ReferentialAction.all.map (·.keyword)).contains "SET NULL" = true := by decide
    rw [FieldType.validate, FieldType.validate, hname]
    simp only [hknown, if_true, Value.isNull, Bool.false_eq_true, if_false]
  rw [RecordKind.construct_eq_ok_iff]
  refine ⟨ownerFields, ?_, rfl, rfl⟩
  simp [RecordKind.fields, FieldDef.found, ownerEntries, ownerFields, FieldDef.required,
    FieldDef.nullable, FieldDef.withDefault, lookup?, RecordKind.roomInside, RecordKind.nests,
    hcolumn, hreference, haction, FieldDef.judge, FieldRule.apply, Checked.under, Except.map]

/-- The foreign key can be assigned what it has, the action left out included, and is made again
from what was given. -/
theorem owner_projects :
    RecordKind.foreignKey.construct ownerEntries
        = .ok (.record .foreignKey ownerFields ["column", "reference", "on_delete"])
      ∧ (Value.record .foreignKey ownerFields ["column", "reference", "on_delete"]).assign
          "on_update" .null
        = .ok ⟨.record .foreignKey ownerFields ["column", "reference", "on_delete", "on_update"],
          none⟩
      ∧ RecordKind.foreignKey.construct [("column", .text "owner"),
          ("reference", .text "users(id)"), ("on_delete", .text "SET NULL")]
        = .ok (.record .foreignKey ownerFields ["column", "reference", "on_delete"]) := by
  have hkind : RecordKind.foreignKey ≠ .queryLoggerConfig := by decide
  obtain ⟨_, _, ⟨⟩, hassign, hagain⟩ := validation_projects hkind construct_owner
  simp only [RecordKind.fields, List.forall_mem_cons, FieldDef.name_required,
    FieldDef.name_nullable] at hassign
  obtain ⟨-, -, -, ⟨_, ⟨⟩, hassigned⟩, -⟩ := hassign
  exact ⟨construct_owner, hassigned, hagain⟩

end SqlComposer
