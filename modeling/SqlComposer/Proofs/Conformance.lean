import Mathlib.Data.List.Nodup
import SqlComposer.Query.OfRecord
import SqlComposer.Record.Access

/-!
# What validation lets through

A record is made from named values of which nothing is known, and it is read later as if its
fields had the types of the schema. `FieldType.Fits` says what it is for a value to have a type,
and a value is `Sound` if every record in it keeps to the schema of its kind. Validation turns
sound values into sound values that fit, whatever its leniency made of them, so all that callers
come by through making records and assigning to their fields is sound.

Only a copy with changed fields goes around validation. Records are not validated again where
they are given as values of fields, so soundness of what is given has to be assumed of them.
-/

set_option autoImplicit false

namespace SqlComposer

/-! ## Values of a type -/

/-- A value has a type. Of a record the kind is asked for and not what its fields are. -/
inductive FieldType.Fits : FieldType → Value → Prop
  | any (v : Value) : Fits .any v
  | text {least : Nat} {s : String} (h : least ≤ s.length) : Fits (.text least) (.text s)
  | integer {least most : Option Int} {n : Int} (h : withinBounds least most n = .ok n) :
    Fits (.integer least most) (.int n)
  | number {least : Option Int} {x : Float} (h : notBelow least x = .ok x) :
    Fits (.number least) (.float x)
  /-- A default is not made a double, and has few digits. -/
  | whole {least : Option Int} {n : Int} (h : withinBounds least none n = .ok n)
    (hfew : fewDigits n = true) : Fits (.number least) (.int n)
  | boolean (b : Bool) : Fits .boolean (.bool b)
  | choice {tidying : Tidying} {names : List String} {name : String} (h : name ∈ names) :
    Fits (.choice tidying names) (.text name)
  | fragments {xs : List Value} (h : ∀ x ∈ xs, Fits (.text 0) x) : Fits .fragments (.list xs)
  | list {least : Nat} {item : FieldType} {xs : List Value} (hlength : least ≤ xs.length)
    (hitems : ∀ x ∈ xs, Fits item x) : Fits (.list least item) (.list xs)
  | dict {item : FieldType} {es : List (String × Value)} (h : ∀ e ∈ es, Fits item e.2) :
    Fits (.dict item) (.dict es)
  | null {item : FieldType} : Fits (.optional item) .null
  | present {item : FieldType} {v : Value} (h : Fits item v) : Fits (.optional item) v
  | union {members : List (String × FieldType)} {m : String × FieldType} {v : Value}
    (hm : m ∈ members) (h : Fits m.2 v) : Fits (.union members) v
  | record {kind : RecordKind} (fields : List (String × Value)) (given : List String) :
    Fits (.record kind) (.record kind fields given)

/-- A field may have a value: it is what the rule of the field makes of a value of its type. -/
def FieldDef.Accepts (d : FieldDef) (w : Value) : Prop :=
  ∃ v, d.type.Fits v ∧ d.rule.apply v = .ok w

/-- Fields are as the schema of a kind has them. -/
def RecordKind.Keeps (kind : RecordKind) (fields : List (String × Value)) : Prop :=
  ∀ d ∈ kind.fields, d.Accepts (fieldOf fields d.name)

/-- All records in a value keep to their schemas. -/
inductive Value.Sound : Value → Prop
  | scalar {v : Value} (hitems : v.listItems? = none) (hentries : v.entries? = none) : Sound v
  | list {xs : List Value} (h : ∀ x ∈ xs, Sound x) : Sound (.list xs)
  | tuple {xs : List Value} (h : ∀ x ∈ xs, Sound x) : Sound (.tuple xs)
  | dict {es : List (String × Value)} (h : ∀ e ∈ es, Sound e.2) : Sound (.dict es)
  | record {kind : RecordKind} {fields : List (String × Value)} {given : List String}
    (hkeeps : kind.Keeps fields) (h : ∀ e ∈ fields, Sound e.2) : Sound (.record kind fields given)

@[simp] theorem Value.sound_null : Value.null.Sound := .scalar rfl rfl

@[simp] theorem Value.sound_bool (b : Bool) : (Value.bool b).Sound := .scalar rfl rfl

@[simp] theorem Value.sound_int (n : Int) : (Value.int n).Sound := .scalar rfl rfl

@[simp] theorem Value.sound_float (x : Float) : (Value.float x).Sound := .scalar rfl rfl

@[simp] theorem Value.sound_text (s : String) : (Value.text s).Sound := .scalar rfl rfl

@[simp] theorem Value.sound_list {xs : List Value} :
    (Value.list xs).Sound ↔ ∀ x ∈ xs, x.Sound := by
  constructor
  · intro h
    cases h with
    | scalar hitems => cases hitems
    | list h => exact h
  · exact .list

@[simp] theorem Value.sound_dict {es : List (String × Value)} :
    (Value.dict es).Sound ↔ ∀ e ∈ es, e.2.Sound := by
  constructor
  · intro h
    cases h with
    | scalar _ hentries => cases hentries
    | dict h => exact h
  · exact .dict

theorem Value.Sound.keeps {kind : RecordKind} {fields : List (String × Value)}
    {given : List String} (h : (Value.record kind fields given).Sound) :
    kind.Keeps fields ∧ ∀ e ∈ fields, e.2.Sound := by
  cases h with
  | scalar hitems => cases hitems
  | record hkeeps h => exact ⟨hkeeps, h⟩

theorem Value.mem_pairs {fields : List (String × Value)} {x : Value}
    (h : x ∈ Value.pairs fields) : ∃ e ∈ fields, x = .tuple [.text e.1, e.2] := by
  induction fields with
  | nil => cases h
  | cons e rest ih =>
    rcases List.mem_cons.mp h with rfl | h
    · exact ⟨e, List.mem_cons_self, rfl⟩
    · obtain ⟨e', he', rfl⟩ := ih h
      exact ⟨e', List.mem_cons_of_mem e he', rfl⟩

/-- What a value is read as a list of is sound if the value is, the pairs of a record too. -/
theorem Value.Sound.listItems {v : Value} (hv : v.Sound) {xs : List Value}
    (hxs : v.listItems? = some xs) : ∀ x ∈ xs, x.Sound := by
  cases hv with
  | scalar hitems =>
    rw [hitems] at hxs
    cases hxs
  | list h | tuple h =>
    cases hxs
    exact h
  | dict => cases hxs
  | record _ h =>
    cases hxs
    intro x hx
    obtain ⟨e, he, rfl⟩ := Value.mem_pairs hx
    refine .tuple fun y hy => ?_
    simp only [List.mem_cons, List.not_mem_nil, or_false] at hy
    rcases hy with rfl | rfl
    · exact Value.sound_text e.1
    · exact h e he

/-! ## Rules -/

/-- A rule leaves a value as it is or puts a text in place of a text. -/
theorem FieldRule.apply_eq_ok {rule : FieldRule} {v w : Value} (h : rule.apply v = .ok w) :
    w = v ∨ ∃ s t, v = .text s ∧ w = .text t := by
  unfold FieldRule.apply at h
  split at h <;> (try dsimp only at h) <;> (try split at h) <;> first
    | exact .inl (Except.ok.inj h).symm
    | exact .inr ⟨_, _, rfl, (Except.ok.inj h).symm⟩
    | cases h

theorem FieldRule.apply_sound {rule : FieldRule} {v w : Value} (hv : v.Sound)
    (h : rule.apply v = .ok w) : w.Sound := by
  rcases apply_eq_ok h with rfl | ⟨s, t, -, rfl⟩
  · exact hv
  · exact Value.sound_text t

/-- What comes out of the rule of a field is sound, and the rule on the value before it. -/
theorem FieldDef.judge_eq_ok {d : FieldDef} {r : Checked Value} {w : Value}
    (h : d.judge r = .ok w) : ∃ v, r = .ok v ∧ d.rule.apply v = .ok w := by
  unfold FieldDef.judge at h
  split at h
  · next v =>
    split at h
    · next w' hw =>
      cases h
      exact ⟨v, rfl, hw⟩
    · cases h
  · cases h

/-! ## Lists of outcomes -/

theorem Checked.under_eq_ok {α : Type} {step : Step} {r : Checked α} {a : α}
    (h : r.under step = .ok a) : r = .ok a := by
  cases r with
  | ok b => exact h
  | error issues => cases h

/-- All outcomes are results if they are gathered into a list of results. -/
theorem gather_eq_ok {α : Type} {outcomes : List (Checked α)} {results : List α}
    (h : gather outcomes = .ok results) : outcomes = results.map .ok := by
  induction outcomes generalizing results with
  | nil =>
    cases h
    rfl
  | cons r rest ih =>
    cases hrest : gather rest with
    | error issues => cases r <;> simp [gather, hrest] at h
    | ok as =>
      cases r with
      | error issues => simp [gather, hrest] at h
      | ok a =>
        simp only [gather, hrest] at h
        cases h
        rw [List.map_cons, ih hrest]

/-- A gathered result is one of the outcomes. -/
theorem mem_of_gather {α : Type} {outcomes : List (Checked α)} {results : List α}
    (h : gather outcomes = .ok results) {a : α} (ha : a ∈ results) : .ok a ∈ outcomes := by
  rw [gather_eq_ok h]
  exact List.mem_map_of_mem ha

/-- A result gathered from the items of a list is what one of them became. -/
theorem mem_of_gather_mapIdx {α β : Type} {xs : List α} {f : α → Checked β} {results : List β}
    (h : gather (xs.mapIdx fun i x => (f x).under (.index i)) = .ok results) {b : β}
    (hb : b ∈ results) : ∃ x ∈ xs, f x = .ok b := by
  obtain ⟨i, hi, hr⟩ := List.mem_mapIdx.mp (mem_of_gather h hb)
  exact ⟨_, List.getElem_mem hi, Checked.under_eq_ok hr⟩

theorem Except.map_eq_ok {ε α β : Type} {f : α → β} {r : Except ε α} {b : β}
    (h : r.map f = .ok b) : ∃ a, r = .ok a ∧ f a = b := by
  cases r with
  | error e => cases h
  | ok a => exact ⟨a, rfl, Except.ok.inj h⟩

/-- The fullest of several values is one of them. -/
theorem foldl_fuller_mem (first : Value) (rest : List Value) :
    rest.foldl fuller first ∈ first :: rest := by
  induction rest generalizing first with
  | nil => exact List.mem_cons_self
  | cons v rest ih =>
    have hchoice : fuller first v = first ∨ fuller first v = v := by
      unfold fuller
      split
      · exact .inr rfl
      · exact .inl rfl
    rw [List.foldl_cons]
    rcases List.mem_cons.mp (ih (fuller first v)) with hfold | hfold
    · rw [hfold]
      rcases hchoice with hfirst | hsecond
      · rw [hfirst]
        exact List.mem_cons_self
      · rw [hsecond]
        exact List.mem_cons_of_mem _ List.mem_cons_self
    · exact List.mem_cons_of_mem _ (List.mem_cons_of_mem _ hfold)

/-- The chosen outcome is a result of one of the types. -/
theorem mem_of_chooseMember {v w : Value} {outcomes : List (String × FieldType × Checked Value)}
    (h : chooseMember v outcomes = .ok w) : ∃ o ∈ outcomes, o.2.2 = .ok w := by
  unfold chooseMember at h
  dsimp only at h
  split at h
  · next o hclosest =>
    have ho : o ∈ outcomes := by
      rcases Option.or_eq_some_iff.mp hclosest with hfirst | ⟨-, hsecond⟩
      · exact List.mem_of_find?_eq_some hfirst
      · exact List.mem_of_find?_eq_some hsecond
    exact ⟨o, ho, h⟩
  · next first rest _ hresults =>
    have hw : w ∈ outcomes.filterMap fun o => o.2.2.toOption := by
      rw [hresults, ← Except.ok.inj h]
      exact foldl_fuller_mem first rest
    obtain ⟨o, ho, how⟩ := List.mem_filterMap.mp hw
    refine ⟨o, ho, ?_⟩
    cases hr : o.2.2 with
    | error issues =>
      rw [hr] at how
      cases how
    | ok x =>
      rw [hr] at how
      cases how
      rfl
  · cases h

section Accepts

variable {name : String} {type : FieldType} {default w : Value}

theorem FieldDef.accepts_anything {d : FieldDef} (h : d.rule = .anything) :
    d.Accepts w ↔ d.type.Fits w := by
  unfold Accepts
  rw [h]
  constructor
  · rintro ⟨v, hv, ⟨⟩⟩
    exact hv
  · exact fun hw => ⟨w, hw, rfl⟩

@[simp] theorem FieldDef.accepts_required : (FieldDef.required name type).Accepts w ↔ type.Fits w :=
  accepts_anything rfl

@[simp] theorem FieldDef.accepts_withDefault :
    (FieldDef.withDefault name type default).Accepts w ↔ type.Fits w := accepts_anything rfl

@[simp] theorem FieldDef.accepts_nullable :
    (FieldDef.nullable name type).Accepts w ↔ (FieldType.optional type).Fits w :=
  accepts_anything rfl

@[simp] theorem FieldDef.accepts_ruled {d : FieldDef} {rule : FieldRule} :
    (d.ruled rule).Accepts w ↔ ∃ v, d.type.Fits v ∧ rule.apply v = .ok w := Iff.rfl

end Accepts

@[simp] theorem FieldDef.name_required (name : String) (type : FieldType) :
    (FieldDef.required name type).name = name := rfl

@[simp] theorem FieldDef.name_withDefault (name : String) (type : FieldType) (default : Value) :
    (FieldDef.withDefault name type default).name = name := rfl

@[simp] theorem FieldDef.name_nullable (name : String) (type : FieldType) :
    (FieldDef.nullable name type).name = name := rfl

@[simp] theorem FieldDef.name_ruled (d : FieldDef) (rule : FieldRule) :
    (d.ruled rule).name = d.name := rfl

@[simp] theorem FieldDef.type_required (name : String) (type : FieldType) :
    (FieldDef.required name type).type = type := rfl

@[simp] theorem FieldDef.type_nullable (name : String) (type : FieldType) :
    (FieldDef.nullable name type).type = .optional type := rfl

/-! ## Fields under their names -/

/-- The names of the fields of a kind are different. -/
theorem RecordKind.nodup_names (kind : RecordKind) : (kind.fields.map (·.name)).Nodup := by
  cases kind <;> decide

/-- The field of a name among fields that were found one by one. -/
theorem fieldOf_map {α : Type} {ds : List α} {name : α → String} (hnames : (ds.map name).Nodup)
    (value : α → Value) {d : α} (hd : d ∈ ds) :
    fieldOf (ds.map fun d => (name d, value d)) (name d) = value d := by
  induction ds with
  | nil => cases hd
  | cons d' ds ih =>
    obtain ⟨hfresh, hnames⟩ := List.nodup_cons.mp hnames
    rw [List.map_cons, fieldOf, lookup?]
    split
    · next heq =>
      rcases List.mem_cons.mp hd with rfl | hd
      · rfl
      · exact absurd (beq_iff_eq.mp heq ▸ List.mem_map_of_mem hd) hfresh
    · next hne =>
      rcases List.mem_cons.mp hd with rfl | hd
      · exact absurd (beq_self_eq_true _) hne
      · exact ih hnames hd

/-- Gathered fields have what was found for each of them under its name. -/
theorem fieldOf_gathered {ds : List FieldDef} (hnames : (ds.map (·.name)).Nodup)
    {found : FieldDef → Checked (String × Value)}
    (hfound : ∀ d ∈ ds, ∀ e, found d = .ok e → e.1 = d.name) {fields : List (String × Value)}
    (h : gather (ds.map found) = .ok fields) {d : FieldDef} (hd : d ∈ ds) :
    found d = .ok (d.name, fieldOf fields d.name) := by
  obtain ⟨value, hvalue⟩ : ∃ value : FieldDef → Value, ∀ d ∈ ds, found d = .ok (d.name, value d) := by
    refine ⟨fun d => ((found d).toOption.map (·.2)).getD .null, fun d hd => ?_⟩
    have hmem : found d ∈ fields.map Except.ok := gather_eq_ok h ▸ List.mem_map_of_mem hd
    obtain ⟨e, -, he⟩ := List.mem_map.mp hmem
    have hname : e.1 = d.name := hfound d hd e he.symm
    simp only [← he, ← hname, Except.toOption, Option.map_some, Option.getD_some]
  have hfields : fields = ds.map fun d => (d.name, value d) := by
    have hok : fields.map (Except.ok (ε := List Issue))
        = (ds.map fun d => (d.name, value d)).map .ok := by
      rw [← gather_eq_ok h, List.map_map]
      exact List.map_congr_left hvalue
    exact List.map_injective_iff.mpr (fun _ _ => Except.ok.inj) hok
  rw [hvalue d hd, hfields, fieldOf_map hnames value hd]

/-! ## Defaults -/

/-- What a field is if it is not given has the type of the field, and its rule accepts it. -/
def FieldDef.Consistent (d : FieldDef) : Prop :=
  ∀ v, d.default = some v → v.Sound ∧ d.type.Fits v ∧ d.rule.apply v = .ok v

@[simp] theorem FieldDef.consistent_required (name : String) (type : FieldType) :
    (FieldDef.required name type).Consistent := by
  rintro _ ⟨⟩

@[simp] theorem FieldDef.consistent_withDefault {name : String} {type : FieldType} {v : Value} :
    (FieldDef.withDefault name type v).Consistent ↔ v.Sound ∧ type.Fits v := by
  constructor
  · intro h
    exact ⟨(h v rfl).1, (h v rfl).2.1⟩
  · rintro ⟨hv, h⟩ _ ⟨⟩
    exact ⟨hv, h, rfl⟩

@[simp] theorem FieldDef.consistent_nullable (name : String) (type : FieldType) :
    (FieldDef.nullable name type).Consistent :=
  consistent_withDefault.mpr ⟨Value.sound_null, .null⟩

@[simp] theorem FieldDef.consistent_ruled_required (name : String) (type : FieldType)
    (rule : FieldRule) : ((FieldDef.required name type).ruled rule).Consistent := by
  rintro _ ⟨⟩

/-- No rule is against null. -/
@[simp] theorem FieldDef.consistent_ruled_nullable {name : String} {type : FieldType}
    {rule : FieldRule} :
    ((FieldDef.nullable name type).ruled rule).Consistent ↔ rule.apply .null = .ok .null := by
  constructor
  · intro h
    exact (h .null rfl).2.2
  · rintro h _ ⟨⟩
    exact ⟨Value.sound_null, .null, h⟩

@[simp] theorem FieldDef.consistent_ruled_withDefault {name : String} {type : FieldType}
    {v : Value} {rule : FieldRule} : ((FieldDef.withDefault name type v).ruled rule).Consistent
      ↔ v.Sound ∧ type.Fits v ∧ rule.apply v = .ok v := by
  constructor
  · intro h
    exact h v rfl
  · rintro h _ ⟨⟩
    exact h

section Scalars

@[simp] theorem FieldType.fits_text {least : Nat} {s : String} :
    (FieldType.text least).Fits (.text s) ↔ least ≤ s.length :=
  ⟨fun h => by cases h; assumption, .text⟩

@[simp] theorem FieldType.fits_integer {least most : Option Int} {n : Int} :
    (FieldType.integer least most).Fits (.int n) ↔ withinBounds least most n = .ok n :=
  ⟨fun h => by cases h; assumption, .integer⟩

@[simp] theorem FieldType.fits_whole {least : Option Int} {n : Int} :
    (FieldType.number least).Fits (.int n)
      ↔ withinBounds least none n = .ok n ∧ fewDigits n = true := by
  constructor
  · rintro ⟨⟩
    exact ⟨‹_›, ‹_›⟩
  · rintro ⟨h, hfew⟩
    exact .whole h hfew

@[simp] theorem FieldType.fits_choice {tidying : Tidying} {names : List String} {s : String} :
    (FieldType.choice tidying names).Fits (.text s) ↔ s ∈ names :=
  ⟨fun h => by cases h; assumption, .choice⟩

@[simp] theorem FieldType.fits_list {least : Nat} {item : FieldType} {xs : List Value} :
    (FieldType.list least item).Fits (.list xs) ↔ least ≤ xs.length ∧ ∀ x ∈ xs, item.Fits x :=
  ⟨fun h => by cases h; exact ⟨‹_›, ‹_›⟩, fun h => .list h.1 h.2⟩

@[simp] theorem FieldType.fits_dict {item : FieldType} {es : List (String × Value)} :
    (FieldType.dict item).Fits (.dict es) ↔ ∀ e ∈ es, item.Fits e.2 :=
  ⟨fun h => by cases h; assumption, .dict⟩

attribute [simp] FieldType.Fits.boolean FieldType.Fits.record

@[simp] theorem FieldType.fits_fragments {xs : List Value} :
    FieldType.fragments.Fits (.list xs) ↔ ∀ x ∈ xs, (FieldType.text 0).Fits x :=
  ⟨fun h => by cases h; assumption, .fragments⟩

end Scalars

theorem consistent_columnOptionFields : ∀ d ∈ columnOptionFields, d.Consistent := by
  simp [columnOptionFields, FieldRule.apply]

/-- Fields that are all left out keep to the schema if they may be. -/
theorem sound_defaultColumnOptions : defaultColumnOptions.Sound := by
  have hsome (d : FieldDef) (hd : d ∈ columnOptionFields) :
      d.default = some (d.default.getD .null) := by
    have hall : ∀ d ∈ columnOptionFields, d.default.isSome = true := by
      simp [columnOptionFields, FieldDef.nullable, FieldDef.withDefault, FieldDef.ruled]
    obtain ⟨v, hv⟩ := Option.isSome_iff_exists.mp (hall d hd)
    rw [hv, Option.getD_some]
  refine .record ?_ ?_
  · intro d hd
    have hfield : fieldOf (columnOptionFields.map fun d => (d.name, d.default.getD .null)) d.name
        = d.default.getD .null := fieldOf_map (RecordKind.nodup_names .columnOptions) _ hd
    obtain ⟨-, hfits, hrule⟩ := consistent_columnOptionFields d hd _ (hsome d hd)
    rw [hfield]
    exact ⟨_, hfits, hrule⟩
  · intro e he
    obtain ⟨d, hd, rfl⟩ := List.mem_map.mp he
    exact (consistent_columnOptionFields d hd _ (hsome d hd)).1

theorem apply_logLevel : FieldRule.logLevel.apply (.text "INFO") = .ok (.text "INFO") := rfl

/-- Every default of every kind of records passes the checks of its field. -/
theorem RecordKind.consistent (kind : RecordKind) : ∀ d ∈ kind.fields, d.Consistent := by
  have hid : 1 ≤ "id".length := by decide
  have hinner : "INNER" ∈ JoinKind.all.map (·.keyword) := by decide
  have hvirtual : "VIRTUAL" ∈ GeneratedStorage.all.map (·.keyword) := by decide
  have hoptions : (FieldType.record .columnOptions).Fits defaultColumnOptions := .record _ _
  have hthreshold : fewDigits 1000 = true := by decide
  cases kind with
  | columnOptions => exact consistent_columnOptionFields
  | databaseSettings => simp [RecordKind.fields, databaseFields, anyText, atLeast, withinBounds]
  | queryLogSettings => simp [RecordKind.fields, queryLogFields, anyText, atLeast, withinBounds]
  | appSettings => simp [RecordKind.fields, appFields, anyText, apply_logLevel]
  | settings => simp [RecordKind.fields, appFields, anyText, apply_logLevel]
  | _ =>
    simp [RecordKind.fields, queryFields, tableFields, keywords, someText, anyText, atLeast,
      anyInteger, withinBounds, FieldRule.apply, FieldType.Fits.any, sound_defaultColumnOptions,
      hid, hinner, hvirtual, hoptions, hthreshold]

/-! ## Validation -/

theorem withinBounds_eq_ok {least most : Option Int} {n m : Int}
    (h : withinBounds least most n = .ok m) : m = n := by
  unfold withinBounds at h
  repeat' split at h
  all_goals first
    | exact (Except.ok.inj h).symm
    | cases h

theorem notBelow_eq_ok {least : Option Int} {x y : Float} (h : notBelow least x = .ok y) :
    y = x := by
  unfold notBelow at h
  repeat' split at h
  all_goals first
    | exact (Except.ok.inj h).symm
    | cases h

/-- What a field is in a record made of entries: its entry as it was validated, or its default. -/
def FieldDef.Finds (d : FieldDef) (room : Nat) (es : List (String × Value)) (w : Value) : Prop :=
  (∃ x u, lookup? d.name es = some x ∧ d.type.validate room x = .ok u ∧ d.rule.apply u = .ok w) ∨
    d.default = some w

namespace FieldType

section Parts

variable {item : FieldType} {room : Nat} {v w : Value}

/-- A validated list has an item for each that was given, which is what that was validated as. -/
theorem validate_list_eq_ok {least : Nat}
    (h : (FieldType.list least item).validate room v = .ok w) :
    ∃ xs ys, v.listItems? = some xs ∧ w = .list ys ∧ least ≤ ys.length ∧ ys.length = xs.length ∧
      ∀ y ∈ ys, ∃ x ∈ xs, item.validate room x = .ok y := by
  rw [validate.eq_def] at h
  dsimp only at h
  split at h
  · next xs hxs =>
    split at h
    · next ys hys =>
      split at h
      · cases h
      · next hlength =>
        cases h
        have hsame : ys.length = xs.length := by
          simpa using (congrArg List.length (gather_eq_ok hys)).symm
        refine ⟨xs, ys, hxs, rfl, Nat.le_of_not_lt hlength, hsame, fun y hy => ?_⟩
        obtain ⟨r, hr, rfl⟩ := mem_of_gather_mapIdx (f := id) hys hy
        obtain ⟨x, -, hx⟩ := List.mem_map.mp hr
        exact ⟨x.1, x.2, hx⟩
    · cases h
  · cases h

/-- A validated list, if validating items makes sound items that fit. -/
theorem validate_list {least : Nat}
    (hitem : ∀ xs, v.listItems? = some xs → ∀ x ∈ xs, ∀ y, item.validate room x = .ok y →
      y.Sound ∧ item.Fits y)
    (h : (FieldType.list least item).validate room v = .ok w) :
    w.Sound ∧ (FieldType.list least item).Fits w := by
  obtain ⟨xs, ys, hxs, rfl, hlength, -, hys⟩ := validate_list_eq_ok h
  have hfits (y : Value) (hy : y ∈ ys) : y.Sound ∧ item.Fits y := by
    obtain ⟨x, hx, hvalid⟩ := hys y hy
    exact hitem xs hxs x hx y hvalid
  exact ⟨.list fun y hy => (hfits y hy).1, .list hlength fun y hy => (hfits y hy).2⟩

/-- A validated dictionary, if validating entries makes sound entries that fit. -/
theorem validate_dict
    (hitem : ∀ es, v = .dict es → ∀ e ∈ es, ∀ y, item.validate room e.2 = .ok y →
      y.Sound ∧ item.Fits y)
    (h : (FieldType.dict item).validate room v = .ok w) :
    w.Sound ∧ (FieldType.dict item).Fits w := by
  rw [validate.eq_def] at h
  dsimp only at h
  split at h
  · next es =>
    obtain ⟨fs, hfs, rfl⟩ := Except.map_eq_ok h
    have hfits (f : String × Value) (hf : f ∈ fs) : f.2.Sound ∧ item.Fits f.2 := by
      obtain ⟨e, he, hr⟩ := List.mem_map.mp (mem_of_gather hfs hf)
      obtain ⟨y, hy, rfl⟩ := Except.map_eq_ok hr
      exact hitem es rfl e he y (Checked.under_eq_ok hy)
    exact ⟨.dict fun f hf => (hfits f hf).1, .dict fun f hf => (hfits f hf).2⟩
  · cases h

theorem validate_fragments (h : FieldType.fragments.validate room v = .ok w) :
    w.Sound ∧ FieldType.fragments.Fits w := by
  rw [validate.eq_def] at h
  dsimp only at h
  split at h
  · next s =>
    cases h
    simp
  · next xs _ _ =>
    obtain ⟨ys, hys, rfl⟩ := Except.map_eq_ok h
    have hfits (y : Value) (hy : y ∈ ys) : y.Sound ∧ (FieldType.text 0).Fits y := by
      obtain ⟨x, -, hx⟩ := mem_of_gather_mapIdx (f := fun x => (readText x).map .text) hys hy
      obtain ⟨s, -, rfl⟩ := Except.map_eq_ok hx
      simp
    exact ⟨.list fun y hy => (hfits y hy).1, .fragments fun y hy => (hfits y hy).2⟩
  · cases h

theorem validate_union {members : List (String × FieldType)}
    (hmember : ∀ m ∈ members, ∀ y, m.2.validate room v = .ok y → y.Sound ∧ m.2.Fits y)
    (h : (FieldType.union members).validate room v = .ok w) :
    w.Sound ∧ (FieldType.union members).Fits w := by
  rw [validate.eq_def] at h
  dsimp only at h
  obtain ⟨o, ho, how⟩ := mem_of_chooseMember h
  obtain ⟨m, hm, rfl⟩ := List.mem_map.mp ho
  obtain ⟨hw, hfits⟩ := hmember m hm w how
  exact ⟨hw, .union hm hfits⟩

theorem finishRecord_eq_ok {kind : RecordKind} {fields : List (String × Value)}
    {given : List String} (h : finishRecord kind fields given = .ok w) :
    kind.ruleOnAll fields = none ∧ w = .record kind fields given := by
  unfold finishRecord at h
  split at h
  · cases h
  · next hrule => exact ⟨hrule, (Except.ok.inj h).symm⟩

/-- A validated record is the one that was given, or it has the fields found in the entries that
were given, and the rule on the whole allows it. -/
theorem validate_record_eq_ok {kind : RecordKind}
    (h : (FieldType.record kind).validate room v = .ok w) :
    (∃ fields given, v = .record kind fields given ∧ w = v) ∨
    ∃ es fields given, v = .dict es ∧ w = .record kind fields given ∧
      kind.ruleOnAll fields = none ∧
      (∀ d ∈ kind.fields, d.Finds (kind.roomInside room) es (fieldOf fields d.name)) ∧
      ∀ e ∈ fields, ∃ d ∈ kind.fields, d.Finds (kind.roomInside room) es e.2 := by
  rw [validate.eq_def] at h
  dsimp only at h
  split at h
  · cases h
  · split at h
    · next k fields given =>
      split at h
      · next hk =>
        cases h
        subst hk
        exact .inl ⟨fields, given, rfl, rfl⟩
      · cases h
    · next es =>
      split at h
      · next fields hgathered =>
        obtain ⟨hrule, rfl⟩ := finishRecord_eq_ok h
        obtain ⟨found, hfound, hgathered⟩ : ∃ found : FieldDef → Checked (String × Value),
            (∀ d ∈ kind.fields, ∀ e, found d = .ok e →
              e.1 = d.name ∧ d.Finds (kind.roomInside room) es e.2)
            ∧ gather (kind.fields.map found) = .ok fields := by
          refine ⟨_, ?_, hgathered⟩
          intro d hd e he
          have he := Checked.under_eq_ok he
          split at he
          · next x hx =>
            obtain ⟨y, hy, rfl⟩ := Except.map_eq_ok he
            obtain ⟨u, hu, hrule⟩ := FieldDef.judge_eq_ok hy
            exact ⟨rfl, .inl ⟨x, u, hx, hu, hrule⟩⟩
          · split at he
            · next x hx =>
              cases he
              exact ⟨rfl, .inr hx⟩
            · cases he
        have hname (d : FieldDef) (hd : d ∈ kind.fields) (e : String × Value)
            (he : found d = .ok e) : e.1 = d.name := (hfound d hd e he).1
        refine .inr ⟨es, fields, _, rfl, rfl, hrule, ?_, ?_⟩
        · intro d hd
          exact (hfound d hd _ (fieldOf_gathered kind.nodup_names hname hgathered hd)).2
        · intro e he
          obtain ⟨d, hd, hde⟩ := List.mem_map.mp (mem_of_gather hgathered he)
          exact ⟨d, hd, (hfound d hd e hde).2⟩
      · cases h
    · cases h

/-- A validated record, if validating fields makes sound values that fit. -/
theorem validate_record {kind : RecordKind} (hv : v.Sound)
    (hfield : ∀ es, v = .dict es → ∀ d ∈ kind.fields, ∀ x, lookup? d.name es = some x → ∀ y,
      d.type.validate (kind.roomInside room) x = .ok y → y.Sound ∧ d.type.Fits y)
    (h : (FieldType.record kind).validate room v = .ok w) :
    w.Sound ∧ (FieldType.record kind).Fits w := by
  rcases validate_record_eq_ok h with ⟨fields, given, rfl, rfl⟩ |
    ⟨es, fields, given, rfl, rfl, -, hfields, hentries⟩
  · exact ⟨hv, .record fields given⟩
  · have hfound {d : FieldDef} (hd : d ∈ kind.fields) {w : Value}
        (hw : d.Finds (kind.roomInside room) es w) : w.Sound ∧ d.Accepts w := by
      rcases hw with ⟨x, u, hx, hu, hrule⟩ | hdefault
      · obtain ⟨husound, hufits⟩ := hfield es rfl d hd x hx u hu
        exact ⟨FieldRule.apply_sound husound hrule, u, hufits, hrule⟩
      · obtain ⟨hsound, hfits, hrule⟩ := kind.consistent d hd w hdefault
        exact ⟨hsound, w, hfits, hrule⟩
    refine ⟨.record (fun d hd => (hfound hd (hfields d hd)).2) fun e he => ?_, .record _ _⟩
    obtain ⟨d, hd, hde⟩ := hentries e he
    exact (hfound hd hde).1

end Parts

/-- Whatever is made of a sound value for a type is sound and has the type. -/
theorem validate_sound (t : FieldType) (room : Nat) {v w : Value} (hv : v.Sound)
    (h : t.validate room v = .ok w) : w.Sound ∧ t.Fits w := by
  cases t with
  | any =>
    rw [validate] at h
    cases h
    exact ⟨hv, .any _⟩
  | text least =>
    rw [validate] at h
    split at h
    · split at h
      · cases h
      · next hlength =>
        cases h
        exact ⟨Value.sound_text _, .text (Nat.le_of_not_lt hlength)⟩
    · cases h
  | integer least most =>
    rw [validate] at h
    split at h
    · obtain ⟨n, hn, rfl⟩ := Except.map_eq_ok h
      obtain rfl := withinBounds_eq_ok hn
      exact ⟨Value.sound_int _, .integer hn⟩
    · cases h
  | number least =>
    rw [validate] at h
    split at h
    · obtain ⟨x, hx, rfl⟩ := Except.map_eq_ok h
      obtain rfl := notBelow_eq_ok hx
      exact ⟨Value.sound_float _, .number hx⟩
    · cases h
  | boolean =>
    rw [validate] at h
    obtain ⟨b, -, rfl⟩ := Except.map_eq_ok h
    exact ⟨Value.sound_bool b, .boolean b⟩
  | choice tidying names =>
    rw [validate] at h
    split at h
    · split at h
      · next hname =>
        cases h
        exact ⟨Value.sound_text _, .choice (List.contains_iff_mem.mp hname)⟩
      · cases h
    · cases h
  | fragments => exact validate_fragments h
  | list least item =>
    refine validate_list (fun xs hxs x hx y hy => ?_) h
    have hsmaller : sizeOf x < sizeOf v := Value.sizeOf_lt_of_mem_listItems? hxs hx
    exact validate_sound item room (hv.listItems hxs x hx) hy
  | dict item =>
    refine validate_dict (fun es hes e he y hy => ?_) h
    subst hes
    have hsmaller : sizeOf e.2 < sizeOf (Value.dict es) := by
      have := List.sizeOf_lt_of_mem he
      obtain ⟨key, x⟩ := e
      simp only [Prod.mk.sizeOf_spec, Value.dict.sizeOf_spec] at this ⊢
      omega
    exact validate_sound item room (Value.sound_dict.mp hv e he) hy
  | optional item =>
    rw [validate] at h
    split at h
    · cases h
      exact ⟨Value.sound_null, .null⟩
    · obtain ⟨hw, hfits⟩ := validate_sound item room hv h
      exact ⟨hw, .present hfits⟩
  | union members =>
    refine validate_union (fun m hm y hy => ?_) h
    have hsmaller : sizeOf m.2 < sizeOf (FieldType.union members) := by
      have := List.sizeOf_lt_of_mem hm
      obtain ⟨label, t⟩ := m
      simp only [Prod.mk.sizeOf_spec, union.sizeOf_spec] at this ⊢
      omega
    exact validate_sound m.2 room hv hy
  | record kind =>
    refine validate_record hv (fun es hes d hd x hx y hy => ?_) h
    subst hes
    have hsmaller : sizeOf x < sizeOf (Value.dict es) := by
      have := sizeOf_lookup? hx
      simp only [Value.dict.sizeOf_spec]
      omega
    exact validate_sound d.type (kind.roomInside room)
      (Value.sound_dict.mp hv _ (mem_of_lookup? hx)) hy
  termination_by (sizeOf v, sizeOf t)

end FieldType

/-- A record that named values make is sound if the values are. -/
theorem RecordKind.construct_sound {kind : RecordKind} {entries : List (String × Value)}
    (hentries : ∀ e ∈ entries, e.2.Sound) {record : Value}
    (h : kind.construct entries = .ok record) :
    record.Sound ∧ (FieldType.record kind).Fits record :=
  FieldType.validate_sound (.record kind) mostNested (.dict hentries) h

/-! ## Assignment -/

theorem fieldOf_put (name : String) (w : Value) (fields : List (String × Value)) (other : String) :
    fieldOf (put name w fields) other = if name = other then w else fieldOf fields other := by
  rw [fieldOf, lookup?_put]
  split <;> rfl

/-- A record stays sound if a field is put into it that may have its value. -/
theorem Value.Sound.put {kind : RecordKind} {fields : List (String × Value)} {given : List String}
    (hrecord : (Value.record kind fields given).Sound) {name : String} {w : Value} (hw : w.Sound)
    (haccepts : ∀ d ∈ kind.fields, d.name = name → d.Accepts w) (given' : List String) :
    (Value.record kind (put name w fields) given').Sound := by
  obtain ⟨hkeeps, hfields⟩ := hrecord.keeps
  refine .record ?_ ?_
  · intro d hd
    rw [fieldOf_put]
    split
    · next hname => exact haccepts d hd hname.symm
    · exact hkeeps d hd
  · intro e he
    rcases mem_put he with he | rfl
    · exact hfields e he
    · exact hw

/-- Assigning a sound value to a field leaves a sound record, whether it is refused or not. -/
theorem Value.assign_sound {v new : Value} {name : String} {a : Assignment} (hv : v.Sound)
    (hnew : new.Sound) (h : v.assign name new = .ok a) : a.record.Sound := by
  unfold Value.assign at h
  split at h
  · next kind fields given =>
    split at h
    · split at h
      · cases h
        exact hv
      · split at h
        · cases h
        · cases h
          exact hv
    · next d hd =>
      split at h
      · cases h
        exact hv
      · next w hw =>
        cases h
        obtain ⟨u, hu, hrule⟩ := FieldDef.judge_eq_ok (Checked.under_eq_ok hw)
        obtain ⟨husound, hufits⟩ := FieldType.validate_sound d.type _ hnew hu
        have hname : d.name = name :=
          beq_iff_eq.mp (List.find?_some (p := fun d : FieldDef => d.name == name) hd)
        refine hv.put (FieldRule.apply_sound husound hrule) (fun d' hd' hsame => ?_) _
        obtain rfl : d' = d := List.inj_on_of_nodup_map kind.nodup_names hd'
          (List.mem_of_find?_eq_some hd) (hsame.trans hname.symm)
        exact ⟨u, hufits, hrule⟩
  · cases h

/-- A copy with changed fields is not validated, but it is sound if the fields may have their
values. -/
theorem Value.copyWith_sound {kind : RecordKind} {fields : List (String × Value)}
    {given : List String} (hrecord : (Value.record kind fields given).Sound)
    {update : List (String × Value)}
    (hupdate : ∀ e ∈ update, e.2.Sound ∧ ∀ d ∈ kind.fields, d.name = e.1 → d.Accepts e.2) :
    ((Value.record kind fields given).copyWith update).Sound := by
  have hall (names : List String) : (Value.record kind (putAll fields update) names).Sound := by
    induction update generalizing fields given with
    | nil => exact .record hrecord.keeps.1 hrecord.keeps.2
    | cons e update ih =>
      obtain ⟨hsound, haccepts⟩ := hupdate e List.mem_cons_self
      exact ih (hrecord.put hsound haccepts given)
        fun e' he' => hupdate e' (List.mem_cons_of_mem e he')
  exact hall _

end SqlComposer
