import SqlComposer.Proofs.Edits
import SqlComposer.Proofs.NearestDouble
import SqlComposer.Proofs.TableCreation
import SqlComposer.Query.Draft

/-!
# Row bounds

The bounds of a query are written into its row statement as numbers, with no placeholders for them.
A bound that is given as a whole number is made a double when it is validated, and what is written
is the whole part of the double. So the statement has the number itself if it is short enough for a
double, and otherwise the nearest number that is.

A bound is text and nothing else: with it and without it a query is refused for the same reasons
and takes the same values. That is a property of row statements in general, however their parts are
composed (`rowOf_bounded`), and queries and drafts are two instances of it.
-/

set_option autoImplicit false

namespace SqlComposer

open SqlComposer.Sql SqlComposer.Number

/-! ## The fields that bound rows -/

/-- The fields of a query that bound its rows. -/
inductive RowField where
  | limit
  | offset
  deriving DecidableEq

namespace RowField

/-- The name of a field. -/
def name : RowField → String
  | .limit => "limit"
  | .offset => "offset"

/-- The keyword that a field is written with. -/
def keyword : RowField → String
  | .limit => "LIMIT"
  | .offset => "OFFSET"

/-- The clause that bounds the rows by a number. -/
def clause (field : RowField) (size : Nat) : String := field.keyword ++ " " ++ toString size

/-- A field as the schema has it. -/
def declared (field : RowField) : FieldDef :=
  (FieldDef.nullable field.name (.number none)).ruled .finite

theorem find?_declared (field : RowField) :
    RecordKind.queryConfig.fields.find? (·.name == field.name) = some field.declared := by
  cases field <;> rfl

theorem name_injective {f g : RowField} (h : f.name = g.name) : f = g := by
  revert h
  cases f <;> cases g <;> decide

/-- A whole number becomes a double, unless it is beyond them. -/
theorem validate_int (n : Int) (room : Nat) :
    (FieldType.optional (.number none)).validate room (.int n)
      = if isFinite (ofInt n) then .ok (.float (ofInt n)) else complain .notNumber := by
  have hread : readNumber (.int n)
      = if isFinite (ofInt n) then .ok (ofInt n) else complain .notNumber := rfl
  have hpresent : (FieldType.optional (.number none)).validate room (.int n)
      = (FieldType.number none).validate room (.int n) := by
    rw [FieldType.validate.eq_def]
    rfl
  rw [hpresent, FieldType.validate.eq_def]
  dsimp only
  rw [hread]
  by_cases h : isFinite (ofInt n) = true
  · rw [if_pos h, if_pos h]
    rfl
  · rw [if_neg h, if_neg h]
    rfl

theorem judge_int (field : RowField) (n : Int) (room : Nat) :
    field.declared.judge (field.declared.type.validate room (.int n))
      = if nearest n.natAbs < twoTo 1024 then .ok (.float (ofInt n)) else complain .notNumber := by
  have hrule : field.declared.rule = .finite := rfl
  change field.declared.judge ((FieldType.optional (.number none)).validate room (.int n)) = _
  rw [validate_int]
  by_cases h : isFinite (ofInt n) = true
  · rw [if_pos h, if_pos ((isFinite_ofInt n).mp h)]
    simp only [FieldDef.judge, hrule, FieldRule.apply, h, if_true]
  · rw [if_neg h, if_neg (mt (isFinite_ofInt n).mpr h)]
    rfl

end RowField

/-! ## Whole numbers as bounds -/

/-- A record made from named values has under the name of a field what the field makes of the value
that is given for it. -/
theorem validated_entry {kind : RecordKind} {room : Nat} {es : List (String × Value)} {w : Value}
    (h : (FieldType.record kind).validate room (.dict es) = .ok w) :
    ∃ fields given, w = .record kind fields given ∧
      ∀ d ∈ kind.fields, ∀ x, lookup? d.name es = some x →
        d.judge (d.type.validate (kind.roomInside room) x) = .ok (fieldOf fields d.name) := by
  rw [FieldType.validate.eq_def] at h
  dsimp only at h
  split at h
  · cases h
  · split at h
    · next fields hgathered =>
      obtain ⟨-, rfl⟩ := FieldType.finishRecord_eq_ok h
      refine ⟨fields, _, rfl, fun d hd x hx => ?_⟩
      have hfound := fieldOf_gathered kind.nodup_names (fun d' _ e he => ?_) hgathered hd
      · have hentry := Checked.under_eq_ok hfound
        split at hentry
        · next y hy =>
          obtain rfl : y = x := Option.some.inj (hy.symm.trans hx)
          obtain ⟨z, hz, hpair⟩ := Except.map_eq_ok hentry
          cases hpair
          exact hz
        · next hnone =>
          rw [hx] at hnone
          cases hnone
      · have he := Checked.under_eq_ok he
        split at he
        · obtain ⟨y, -, rfl⟩ := Except.map_eq_ok he
          rfl
        · split at he
          · cases he
            rfl
          · cases he
    · cases h

/-- Assigning a whole number to a bound puts its double there, or is refused. -/
theorem assign_bound (field : RowField) (fields : List (String × Value)) (given : List String)
    (n : Int) : (Value.record .queryConfig fields given).assign field.name (.int n)
      = .ok (if nearest n.natAbs < twoTo 1024 then
          ⟨.record .queryConfig (put field.name (.float (ofInt n)) fields)
            (addGiven given field.name), none⟩
        else
          ⟨.record .queryConfig fields given,
            some (.refusal "QueryConfig" [⟨[.name field.name], .notNumber⟩])⟩) := by
  simp only [Value.assign, field.find?_declared, field.judge_int]
  by_cases h : nearest n.natAbs < twoTo 1024
  · simp only [if_pos h]
    rfl
  · simp only [if_neg h]
    rfl

/-- A whole number is accepted as a bound exactly if its double is finite. -/
theorem bound_accepted_iff {field : RowField} {fields : List (String × Value)}
    {given : List String} {n : Int} :
    (∃ a, (Value.record .queryConfig fields given).assign field.name (.int n) = .ok a
      ∧ a.failure = none) ↔ nearest n.natAbs < twoTo 1024 := by
  rw [assign_bound]
  split
  · next h => exact ⟨fun _ => h, fun _ => ⟨_, rfl, rfl⟩⟩
  · next h =>
    constructor
    · rintro ⟨a, ha, hnone⟩
      cases ha
      cases hnone
    · exact fun hlt => absurd hlt h

/-- An edit that is an accepted assignment to a field of the value itself. -/
def Edit.Sets (e : Edit) (name : String) (v : Value) : Prop :=
  e.path = [] ∧ e.field = name ∧ ∃ a, v.assign name e.value = .ok a ∧ a.failure = none

/-- A query that was given a whole number for a bound, when it was made or by an assignment that was
accepted, and that has been edited since in other places. -/
inductive Value.Gives (field : RowField) (n : Int) : Value → Prop
  | made {data : List (String × Value)} {v : Value} (hdata : lookup? field.name data = some (.int n))
    (h : RecordKind.queryConfig.construct data = .ok v) : Gives field n v
  | assigned {fields : List (String × Value)} {given : List String} {a : Assignment}
    (h : (Value.record .queryConfig fields given).assign field.name (.int n) = .ok a)
    (haccepted : a.failure = none) : Gives field n a.record
  | edited {v : Value} {e : Edit} (hv : Gives field n v) (h : ¬ e.Sets field.name v) :
    Gives field n (v.edited e)

/-- An edit in another place leaves a bound as it is. -/
theorem fieldOf_edited {field : RowField} {fields : List (String × Value)} {given : List String}
    {x : Float} {e : Edit} (hfield : fieldOf fields field.name = .float x)
    (h : ¬ e.Sets field.name (.record .queryConfig fields given)) :
    ((Value.record .queryConfig fields given).edited e).get field.name = .float x := by
  obtain ⟨path, name, new⟩ := e
  cases path with
  | nil =>
    by_cases hname : name = field.name
    · subst hname
      have hsame : (Value.record .queryConfig fields given).edited ⟨[], field.name, new⟩
          = .record .queryConfig fields given := by
        unfold Value.edited
        split
        · next a ha =>
          rcases Value.assign_eq_ok ha with ⟨hsame, -⟩ | ⟨-, -, -, w, -, -, hfailure⟩
          · exact hsame
          · exact absurd ⟨rfl, rfl, a, ha, hfailure⟩ h
        · rfl
      rw [hsame]
      exact hfield
    · rw [Value.get_edited_other hname]
      exact hfield
  | cons step path =>
    cases step with
    | index i =>
      have herror : (Value.record .queryConfig fields given).inward (.index i)
          = .error ⟨.type, ""⟩ := rfl
      rw [Value.edited_of_error herror]
      exact hfield
    | name other =>
      rw [Value.get_edited]
      split
      · change (fieldOf fields field.name).edited _ = _
        rw [hfield]
        -- there is nothing inside a number that could be assigned to
        generalize hedited : (Value.float x).edited ⟨path, name, new⟩ = w
        have hbecomes := (Value.float x).edited_becomes ⟨path, name, new⟩
        rw [hedited] at hbecomes
        cases hbecomes
        rfl
      · exact hfield

/-- A query that was given a whole number for a bound has its double there. -/
theorem Value.Gives.exists_float {field : RowField} {n : Int} {v : Value} (h : v.Gives field n) :
    nearest n.natAbs < twoTo 1024 ∧ ∃ fields given, v = .record .queryConfig fields given ∧
      fieldOf fields field.name = .float (ofInt n) := by
  induction h with
  | made hdata h =>
    obtain ⟨fields, given, rfl, hentries⟩ := validated_entry h
    have hentry := hentries _ (List.mem_of_find?_eq_some field.find?_declared) (.int n) hdata
    rw [RowField.judge_int] at hentry
    split at hentry
    · next hrange => exact ⟨hrange, fields, given, rfl, (Except.ok.inj hentry).symm⟩
    · cases hentry
  | @assigned fields given a h haccepted =>
    have hrange := bound_accepted_iff.mp ⟨a, h, haccepted⟩
    rw [assign_bound, if_pos hrange] at h
    cases h
    refine ⟨hrange, _, _, rfl, ?_⟩
    rw [fieldOf_put, if_pos rfl]
  | @edited v e _ h ih =>
    obtain ⟨hrange, fields, given, rfl, hfield⟩ := ih
    obtain ⟨fields', given', hedited⟩ :=
      ((Value.record .queryConfig fields given).edited_becomes e).exists_record
    refine ⟨hrange, fields', given', hedited, ?_⟩
    have hkept := fieldOf_edited hfield h
    rw [hedited] at hkept
    exact hkept

/-- The fields of a query that are no bounds. -/
def otherNames : List String :=
  ["table", "id_field", "fields", "joins", "where", "where_in", "where_not_in", "having", "group_by",
    "order_by", "order_direction", "distinct", "union"]

theorem fieldOf_put_bound {field : RowField} {fields : List (String × Value)} {name : String}
    (h : name ∈ otherNames) : fieldOf (put field.name .null fields) name = fieldOf fields name := by
  rw [fieldOf_put, if_neg]
  revert name
  cases field <;> decide

/-! ## Row statements in parts -/

/-- A bound as it is written, if there is one. -/
def RowField.written (field : RowField) (size : Option Nat) : List String :=
  size.toList.map field.clause

/-- The bounds as they are written. -/
def boundTexts (bound : RowField → Option Nat) : List String :=
  RowField.limit.written (bound .limit) ++ RowField.offset.written (bound .offset)

/-- The parts of a row statement. -/
structure RowParts where
  distinct : Bool
  columns : List String
  /-- The clauses from `FROM` to `HAVING`. -/
  clauses : List String
  /-- The terms of the order. -/
  order : List String
  bound : RowField → Option Nat
  /-- The statements of the union branches. -/
  branches : List String

namespace RowParts

/-- A row statement as its parts are written. -/
def text (p : RowParts) : String :=
  " ".intercalate (Query.rowHead p.distinct p.columns :: (p.clauses
    ++ (Query.ordering p.order :: boundTexts p.bound ++ p.branches.map ("UNION " ++ ·))))

/-- A row statement without a bound. -/
def unbounded (p : RowParts) (field : RowField) : RowParts :=
  { p with bound := Function.update p.bound field none }

end RowParts

section Composition

variable {ε : Type}

/-- The order and the bounds, composed one after the other. -/
def tailOf (order : Except ε String) (size : RowField → Except ε (Option Nat)) :
    StateT BindPlan (Except ε) (List String) := do
  let order ← StateT.lift order
  let order ← fun plan => .ok (order, plan.addText order)
  let limit ← StateT.lift ((size .limit).map RowField.limit.written)
  let offset ← StateT.lift ((size .offset).map RowField.offset.written)
  return order :: (limit ++ offset)

/-- A row statement, its parts composed one after the other. -/
def rowOf (distinct : Bool) (columns clauses : StateT BindPlan (Except ε) (List String))
    (order : Except ε String) (size : RowField → Except ε (Option Nat))
    (branches : StateT BindPlan (Except ε) (List String)) : StateT BindPlan (Except ε) String := do
  let columns ← columns
  let clauses ← clauses
  let tail ← tailOf order size
  let branches ← branches
  return " ".intercalate (Query.rowHead distinct columns :: (clauses ++ (tail ++ branches)))

variable {field : RowField} {k : Nat} {order : Except ε String}
  {size size' : RowField → Except ε (Option Nat)}

/-- The order and the bounds with one bound more, unless they fail for another reason. -/
theorem tailOf_bounded (order : Except ε String) (hwithout : size field = .ok none)
    (hwith : size' field = .ok (some k)) (hothers : ∀ f ≠ field, size' f = size f) (plan : BindPlan) :
    (∃ e, tailOf order size plan = .error e ∧ tailOf order size' plan = .error e) ∨
    ∃ text bound after, order = .ok text ∧ bound field = some k ∧
      tailOf order size plan = .ok (text :: boundTexts (Function.update bound field none), after) ∧
      tailOf order size' plan = .ok (text :: boundTexts bound, after) := by
  simp only [tailOf, bind, StateT.bind, StateT.lift, Except.bind, pure, StateT.pure, Except.pure]
  cases order with
  | error e => exact .inl ⟨e, rfl, rfl⟩
  | ok text =>
    cases field with
    | limit =>
      rw [hwithout, hwith, hothers .offset (by decide)]
      cases size .offset with
      | error e => exact .inl ⟨e, rfl, rfl⟩
      | ok offset =>
        exact .inr ⟨text, fun | .limit => some k | .offset => offset, _, rfl, rfl, rfl, rfl⟩
    | offset =>
      rw [hwithout, hwith, hothers .limit (by decide)]
      cases size .limit with
      | error e => exact .inl ⟨e, rfl, rfl⟩
      | ok limit =>
        exact .inr ⟨text, fun | .limit => limit | .offset => some k, _, rfl, rfl, rfl, rfl⟩

/-- Two outcomes of composing a statement, without a bound and with it: the same failure, or the
same statement but for the bound. -/
inductive Bounded (field : RowField) (k : Nat) :
    Except ε (String × BindPlan) → Except ε (String × BindPlan) → Prop
  | failed (e : ε) : Bounded field k (.error e) (.error e)
  | composed {p : RowParts} (hbound : p.bound field = some k) (plan : BindPlan) :
    Bounded field k (.ok ((p.unbounded field).text, plan)) (.ok (p.text, plan))

theorem Bounded.failed_or_composed {r r' : Except ε (String × BindPlan)}
    (h : Bounded field k r r') : (∃ e, r = .error e ∧ r' = .error e) ∨
      ∃ (p : RowParts) (plan : BindPlan), p.bound field = some k ∧
        r = .ok ((p.unbounded field).text, plan) ∧ r' = .ok (p.text, plan) := by
  cases h with
  | failed e => exact .inl ⟨e, rfl, rfl⟩
  | @composed p hbound plan => exact .inr ⟨p, plan, hbound, rfl, rfl⟩

/-- A row statement has a bound as one more clause, and nothing else depends on it. -/
theorem rowOf_bounded {distinct : Bool}
    {columns clauses branches : StateT BindPlan (Except ε) (List String)}
    (horder : ∀ text, order = .ok text → ∃ terms, text = Query.ordering terms)
    (hbranches : ∀ plan texts after, branches plan = .ok (texts, after) →
      ∃ statements : List String, texts = statements.map ("UNION " ++ ·))
    (hwithout : size field = .ok none) (hwith : size' field = .ok (some k))
    (hothers : ∀ f ≠ field, size' f = size f) (plan : BindPlan) :
    Bounded field k (rowOf distinct columns clauses order size branches plan)
      (rowOf distinct columns clauses order size' branches plan) := by
  simp only [rowOf, bind, StateT.bind, Except.bind, pure, StateT.pure, Except.pure]
  -- the parts one after the other: the first that fails fails both times
  cases columns plan with
  | error e => exact .failed e
  | ok columned =>
    obtain ⟨names, plan⟩ := columned
    dsimp only
    cases clauses plan with
    | error e => exact .failed e
    | ok claused =>
      obtain ⟨texts, plan⟩ := claused
      dsimp only
      rcases tailOf_bounded order hwithout hwith hothers plan with
        ⟨e, htail, htail'⟩ | ⟨text, bound, after, htext, hfield, htail, htail'⟩
      · rw [htail, htail']
        exact .failed e
      · obtain ⟨terms, rfl⟩ := horder text htext
        rw [htail, htail']
        dsimp only
        cases hunion : branches after with
        | error e => exact .failed e
        | ok united =>
          obtain ⟨statements, hstatements⟩ := hbranches after united.1 united.2 hunion
          dsimp only
          rw [hstatements]
          exact .composed (p := ⟨distinct, names, texts, terms, bound, statements⟩) hfield _

/-- Statements composed one after the other, each after a keyword. -/
theorem exists_statements_of_mapM {α : Type} {f : α → StateT BindPlan (Except ε) String}
    (hf : ∀ a plan text after, f a plan = .ok (text, after) → ∃ s, text = "UNION " ++ s)
    (xs : List α) (plan : BindPlan) (texts : List String) (after : BindPlan)
    (h : xs.mapM f plan = .ok (texts, after)) :
    ∃ statements : List String, texts = statements.map ("UNION " ++ ·) := by
  induction xs generalizing plan texts after with
  | nil =>
    cases h
    exact ⟨[], rfl⟩
  | cons x xs ih =>
    rw [List.mapM_cons] at h
    obtain ⟨⟨text, plan'⟩, htext, h⟩ := ok_of_bind h
    obtain ⟨⟨rest, plan''⟩, hrest, h⟩ := ok_of_bind h
    cases h
    obtain ⟨s, rfl⟩ := hf x plan text plan' htext
    obtain ⟨statements, rfl⟩ := ih plan' rest _ hrest
    exact ⟨s :: statements, rfl⟩

end Composition

/-! ## Queries -/

namespace Query

/-- The bounds of a query. -/
def bound (q : Query) : RowField → Option RowBound
  | .limit => q.limit
  | .offset => q.offset

/-- A query without a bound. -/
def unbounded (q : Query) : RowField → Query
  | .limit => { q with limit := none }
  | .offset => { q with offset := none }

/-- What is written of a bound, if it is set. -/
def sizeOf? : Option RowBound → Except Rejection (Option Nat)
  | none => .ok none
  | some b => b.magnitude.map some

theorem boundClause_written (field : RowField) (bound : Option RowBound) :
    boundClause field.keyword bound = (sizeOf? bound).map field.written := by
  cases bound with
  | none => rfl
  | some b =>
    simp only [boundClause, sizeOf?]
    cases b.magnitude <;> rfl

theorem rowText_eq_rowOf (q : Query) : q.rowText = rowOf q.distinct (fieldTexts q.fields) q.body
    q.orderClause (fun f => sizeOf? (q.bound f)) (branchTexts q.union) := by
  have htail : q.tail = tailOf q.orderClause (fun f => sizeOf? (q.bound f)) := by
    simp only [tailOf, ← boundClause_written]
    rfl
  rw [rowOf, ← htail]
  cases q
  rw [rowText]

theorem branchTexts_eq_mapM (branches : List Query) :
    branchTexts branches = branches.mapM fun q => do return "UNION " ++ (← rowText q) := by
  induction branches with
  | nil => rw [branchTexts, List.mapM_nil]
  | cons q rest ih =>
    rw [branchTexts, List.mapM_cons, ih]
    simp only [bind_assoc, pure_bind]

theorem orderClause_eq_ok {q : Query} {text : String} (h : q.orderClause = .ok text) :
    ∃ terms, text = ordering terms := by
  unfold orderClause at h
  split at h
  · exact ⟨_, (Except.ok.inj h).symm⟩
  · split at h
    · exact ⟨_, (Except.ok.inj h).symm⟩
    · exact ⟨_, (Except.ok.inj h).symm⟩
    · cases h

/-- A query is composed with a finite bound as without it. -/
theorem rowText_bounded {q : Query} {field : RowField} {x : Float}
    (hbound : q.bound field = some (.real x)) (hx : isFinite x = true) (plan : BindPlan) :
    Bounded field (floorAbs x) ((q.unbounded field).rowText plan) (q.rowText plan) := by
  have hbranches : ∀ plan texts after, branchTexts q.union plan = .ok (texts, after) →
      ∃ statements : List String, texts = statements.map ("UNION " ++ ·) := by
    rw [branchTexts_eq_mapM]
    refine exists_statements_of_mapM (fun q plan text after h => ?_) q.union
    obtain ⟨⟨s, _⟩, -, h⟩ := ok_of_bind h
    cases h
    exact ⟨s, rfl⟩
  have hwith : sizeOf? (q.bound field) = .ok (some (floorAbs x)) := by
    rw [hbound, sizeOf?, RowBound.magnitude, if_pos hx]
    rfl
  rw [rowText_eq_rowOf, rowText_eq_rowOf]
  cases field with
  | limit =>
    refine rowOf_bounded (fun text h => orderClause_eq_ok h) hbranches rfl hwith ?_ plan
    rintro (_ | _) hf
    · exact absurd rfl hf
    · rfl
  | offset =>
    refine rowOf_bounded (fun text h => orderClause_eq_ok h) hbranches rfl hwith ?_ plan
    rintro (_ | _) hf
    · rfl
    · exact absurd rfl hf

end Query

/-! ## Drafts -/

namespace Draft

/-- What is written of a bound, if it is set. -/
def sizeOf? : Value → Except Failure (Option Nat)
  | .decimal d => (faulting (wholeMagnitude d)).map some
  | v => match rowBound? v with
    | some bound => rejecting (Query.sizeOf? bound)
    | none => unusable

theorem boundClause_written (field : RowField) (v : Value) :
    boundClause field.keyword v = (sizeOf? v).map field.written := by
  have hbound (bound : Option RowBound) : rejecting (Query.boundClause field.keyword bound)
      = (rejecting (Query.sizeOf? bound)).map field.written := by
    rw [Query.boundClause_written]
    cases Query.sizeOf? bound <;> rfl
  cases v with
  | decimal d =>
    simp only [boundClause, sizeOf?]
    cases faulting (wholeMagnitude d) <;> rfl
  | null | bool | int | float => exact hbound _
  | _ => rfl

theorem text_eq_rowOf (fields : List (String × Value)) : text fields .row =
    liftM (keyed (fieldOf fields "fields")) >>= fun specs =>
      rowOf (fieldOf fields "distinct").truthy (fieldTexts specs) (body (plainColumns specs) fields)
        (orderClause (plainColumns specs) fields) (fun f => sizeOf? (fieldOf fields f.name))
        (branches fields) := by
  have htail (aliases : Aliases) : tail aliases fields
      = tailOf (orderClause aliases fields) (fun f => sizeOf? (fieldOf fields f.name)) := by
    simp only [tailOf, ← boundClause_written]
    rfl
  simp only [rowOf, ← htail]
  rfl

theorem orderClause_eq_ok {aliases : Aliases} {fields : List (String × Value)} {text : String}
    (h : orderClause aliases fields = .ok text) : ∃ terms, text = Query.ordering terms := by
  unfold orderClause at h
  dsimp only at h
  split at h
  · obtain ⟨_, -, h⟩ := ok_of_bind h
    exact ⟨_, (Except.ok.inj h).symm⟩
  · obtain ⟨_, -, h⟩ := ok_of_bind h
    obtain ⟨_, -, h⟩ := ok_of_bind h
    obtain ⟨_, -, h⟩ := ok_of_bind h
    exact ⟨_, (Except.ok.inj h).symm⟩

theorem branches_eq_ok {fields : List (String × Value)} {plan after : BindPlan}
    {texts : List String} (h : branches fields plan = .ok (texts, after)) :
    ∃ statements : List String, texts = statements.map ("UNION " ++ ·) := by
  obtain ⟨⟨all, plan'⟩, -, h⟩ := ok_of_bind h
  refine exists_statements_of_mapM (fun v plan text after h => ?_) all plan' texts after h
  cases hquery : Query.ofRecord? v with
  | none =>
    rw [hquery] at h
    cases h
  | some q =>
    rw [hquery] at h
    obtain ⟨⟨s, _⟩, -, h⟩ := ok_of_bind h
    cases h
    exact ⟨s, rfl⟩

/-- A draft is composed with a finite bound as without it. -/
theorem text_bounded {fields : List (String × Value)} {field : RowField} {x : Float}
    (hfield : fieldOf fields field.name = .float x) (hx : isFinite x = true) (plan : BindPlan) :
    Bounded field (floorAbs x) (text (put field.name .null fields) .row plan)
      (text fields .row plan) := by
  have hwithout : sizeOf? (fieldOf (put field.name .null fields) field.name) = .ok none := by
    rw [fieldOf_put, if_pos rfl]
    rfl
  have hwith : sizeOf? (fieldOf fields field.name) = .ok (some (floorAbs x)) := by
    rw [hfield]
    simp only [sizeOf?, rowBound?, Query.sizeOf?, RowBound.magnitude, if_pos hx]
    rfl
  have hothers (f : RowField) (hf : f ≠ field) :
      fieldOf fields f.name = fieldOf (put field.name .null fields) f.name := by
    rw [fieldOf_put, if_neg fun h => hf (RowField.name_injective h).symm]
  have hbody (aliases : Aliases) :
      body aliases (put field.name .null fields) = body aliases fields := by
    simp (disch := decide) only [body, whereClause, groupClauses, fieldOf_put_bound]
  have horder (aliases : Aliases) :
      orderClause aliases (put field.name .null fields) = orderClause aliases fields := by
    simp (disch := decide) only [orderClause, fieldOf_put_bound]
  have hunion : branches (put field.name .null fields) = branches fields := by
    simp (disch := decide) only [branches, fieldOf_put_bound]
  rw [text_eq_rowOf, text_eq_rowOf]
  simp (disch := decide) only [fieldOf_put_bound, hbody, horder, hunion]
  cases keyed (fieldOf fields "fields") with
  | error e => exact .failed e
  | ok specs =>
    exact rowOf_bounded (fun text h => orderClause_eq_ok h)
      (fun plan texts after h => branches_eq_ok h) hwithout hwith
      (fun f hf => congrArg sizeOf? (hothers f hf)) plan

end Draft

/-! ## Records -/

section Records

variable {fields : List (String × Value)} {field : RowField} {name : String} {w : Value}

theorem outputColumns?_put (h : name ≠ "fields") :
    outputColumns? (put name w fields) = outputColumns? fields := by
  induction fields with
  | nil => simp [put, outputColumns?, h]
  | cons e rest ih =>
    obtain ⟨key, v⟩ := e
    rw [put]
    split
    · next hkey =>
      obtain rfl : key = name := beq_iff_eq.mp hkey
      simp [outputColumns?, h]
    · simp only [outputColumns?, ih]

theorem unionBranches?_put (h : name ≠ "union") :
    unionBranches? (put name w fields) = unionBranches? fields := by
  induction fields with
  | nil => simp [put, unionBranches?, h]
  | cons e rest ih =>
    obtain ⟨key, v⟩ := e
    rw [put]
    split
    · next hkey =>
      obtain rfl : key = name := beq_iff_eq.mp hkey
      simp [unionBranches?, h]
    · simp only [unionBranches?, ih]

theorem bind_eq_map_bind {α β γ : Type} {r : Option α} {f : α → Option β} {f' : α → Option γ}
    {g : β → γ} (h : ∀ a, f' a = (f a).map g) : (r >>= f') = (r >>= f).map g := by
  cases r with
  | none => rfl
  | some a => exact h a

theorem forall_bind_eq_some {α β : Type} {r : Option α} {f : α → Option β} {P : β → Prop}
    (h : ∀ a, r = some a → ∀ b, f a = some b → P b) : ∀ b, (r >>= f) = some b → P b := by
  cases r with
  | none => rintro b ⟨⟩
  | some a => exact h a rfl

/-- A bound is read for itself: without it the rest of a query is read as with it. -/
theorem assemble?_unbounded {x : Float} (hfield : fieldOf fields field.name = .float x)
    (specs : List (String × FieldSpec Query)) (branches : List Query) :
    Query.assemble? (put field.name .null fields) specs branches
      = (Query.assemble? fields specs branches).map (·.unbounded field) := by
  have hnull : rowBound? (fieldOf (put field.name .null fields) field.name) = some none := by
    rw [fieldOf_put, if_pos rfl]
    rfl
  have hreal : rowBound? (fieldOf fields field.name) = some (some (.real x)) := by
    rw [hfield]
    rfl
  unfold Query.assemble?
  simp (disch := decide) only [fieldOf_put_bound]
  cases field with
  | limit =>
    have hoffset : fieldOf (put "limit" .null fields) "offset" = fieldOf fields "offset" := by
      rw [fieldOf_put, if_neg (by decide)]
    simp only [RowField.name] at hnull hreal ⊢
    simp only [hoffset, hnull, hreal]
    -- what is read before the bound is the same
    repeat refine bind_eq_map_bind fun _ => ?_
    cases rowBound? (fieldOf fields "offset") <;> rfl
  | offset =>
    have hlimit : fieldOf (put "offset" .null fields) "limit" = fieldOf fields "limit" := by
      rw [fieldOf_put, if_neg (by decide)]
    simp only [RowField.name] at hnull hreal ⊢
    simp only [hlimit, hnull, hreal]
    repeat refine bind_eq_map_bind fun _ => ?_
    rfl

theorem assemble?_bound {x : Float} (hfield : fieldOf fields field.name = .float x)
    (specs : List (String × FieldSpec Query)) (branches : List Query) :
    ∀ q, Query.assemble? fields specs branches = some q → q.bound field = some (.real x) := by
  have hreal {b : Option RowBound} (h : rowBound? (fieldOf fields field.name) = some b) :
      b = some (.real x) := by
    rw [hfield] at h
    exact (Option.some.inj h).symm
  unfold Query.assemble?
  repeat refine forall_bind_eq_some fun _ _ => ?_
  rintro q ⟨⟩
  cases field with
  | limit => exact hreal (by assumption)
  | offset => exact hreal (by assumption)

/-- A record is read without a bound as it is read with it. -/
theorem ofRecord?_unbounded {x : Float} (hfield : fieldOf fields field.name = .float x)
    (given given' : List String) :
    Query.ofRecord? (.record .queryConfig (put field.name .null fields) given')
      = (Query.ofRecord? (.record .queryConfig fields given)).map (·.unbounded field) := by
  have hcolumns : field.name ≠ "fields" := by cases field <;> decide
  have hunion : field.name ≠ "union" := by cases field <;> decide
  simp only [Query.ofRecord?, outputColumns?_put hcolumns, unionBranches?_put hunion,
    assemble?_unbounded hfield, bind, Option.map_bind, Function.comp_def]

theorem ofRecord?_bound {x : Float} (hfield : fieldOf fields field.name = .float x)
    {given : List String} {q : Query}
    (h : Query.ofRecord? (.record .queryConfig fields given) = some q) :
    q.bound field = some (.real x) := by
  rw [Query.ofRecord?] at h
  obtain ⟨specs, -, h⟩ := Option.bind_eq_some_iff.mp h
  obtain ⟨branches, -, h⟩ := Option.bind_eq_some_iff.mp h
  exact assemble?_bound hfield specs branches q h

/-- What is described as a query without a bound. -/
def Value.unbounded (v : Value) (field : RowField) : Value := v.copyWith [(field.name, .null)]

/-- With a finite bound and without it a record is composed alike, but for the bound. -/
theorem composeQuery_bounded {x : Float} (hfield : fieldOf fields field.name = .float x)
    (hx : isFinite x = true) (given : List String) :
    let v := Value.record .queryConfig fields given
    (∃ e, composeQuery v .row = .error e ∧ composeQuery (v.unbounded field) .row = .error e) ∨
    ∃ (p : RowParts) (slots : List Slot) (callers : Int), p.bound field = some (floorAbs x) ∧
      composeQuery v .row = .ok ⟨p.text, slots, callers⟩ ∧
      composeQuery (v.unbounded field) .row = .ok ⟨(p.unbounded field).text, slots, callers⟩ := by
  intro v
  have hunbounded : v.unbounded field = .record .queryConfig (put field.name .null fields)
      (addGiven given field.name) := rfl
  have hread := ofRecord?_unbounded hfield given (addGiven given field.name)
  rw [hunbounded]
  simp only [composeQuery, hread]
  cases hq : Query.ofRecord? v with
  | some q =>
    have hrow := Query.rowText_bounded (ofRecord?_bound hfield hq) hx .empty
    simp only [Option.map_some, Query.compile, Query.text, StateT.run]
    rcases hrow.failed_or_composed with ⟨e, hwithout, hwith⟩ | ⟨p, plan, hbound, hwithout, hwith⟩
    · rw [hwithout, hwith]
      exact .inl ⟨_, rfl, rfl⟩
    · rw [hwithout, hwith]
      exact .inr ⟨p, _, _, hbound, rfl, rfl⟩
  | none =>
    have hrow := Draft.text_bounded hfield hx .empty
    simp only [Option.map_none, StateT.run, v]
    rcases hrow.failed_or_composed with ⟨e, hwithout, hwith⟩ | ⟨p, plan, hbound, hwithout, hwith⟩
    · rw [hwithout, hwith]
      exact .inl ⟨_, rfl, rfl⟩
    · rw [hwithout, hwith]
      exact .inr ⟨p, _, _, hbound, rfl, rfl⟩

end Records

/-! ## Whole numbers in statements -/

/-- A whole number that a query was given for a bound is in the range of doubles, and the query is
composed with it as without it, but for one clause. The clause has the nearest number that is short
enough for a double, which is the number itself exactly if it has no more than fifty-three digits
before its zeros. -/
theorem given_bound_written {field : RowField} {n : Int} {v : Value} (hv : v.Gives field n) :
    nearest n.natAbs < twoTo 1024 ∧
    ((∃ e, composeQuery v .row = .error e ∧ composeQuery (v.unbounded field) .row = .error e) ∨
      ∃ (p : RowParts) (slots : List Slot) (callers : Int),
        p.bound field = some (nearest n.natAbs) ∧
        (p.bound field = some n.natAbs ↔ ∃ a k, a < 2 ^ 53 ∧ n.natAbs = a * 2 ^ k) ∧
        composeQuery v .row = .ok ⟨p.text, slots, callers⟩ ∧
        composeQuery (v.unbounded field) .row
          = .ok ⟨(p.unbounded field).text, slots, callers⟩) := by
  obtain ⟨hrange, fields, given, rfl, hfield⟩ := hv.exists_float
  have hfinite : isFinite (ofInt n) = true := (isFinite_ofInt n).mpr hrange
  refine ⟨hrange, ?_⟩
  rcases composeQuery_bounded hfield hfinite given with hfailed |
    ⟨p, slots, callers, hbound, hwith, hwithout⟩
  · exact .inl hfailed
  · rw [floorAbs_ofInt hfinite] at hbound
    refine .inr ⟨p, slots, callers, hbound, ?_, hwith, hwithout⟩
    rw [hbound, Option.some_inj]
    exact nearest_eq_self_iff n.natAbs

/-- What a page of orders is made from. -/
def pageEntries (n : Int) : List (String × Value) :=
  [("table", .text "orders"), ("fields", .dict [("id", .text "id")]), ("limit", .int n)]

/-- A page of orders. -/
def page (limit : Float) : Value :=
  .record .queryConfig
    [("table", .text "orders"), ("id_field", .text "id"), ("fields", .dict [("id", .text "id")]),
      ("joins", .list []), ("where", .list []), ("where_in", .dict []), ("where_not_in", .dict []),
      ("having", .list []), ("group_by", .null), ("order_by", .null), ("order_direction", .null),
      ("limit", .float limit), ("offset", .null), ("distinct", .bool false), ("union", .list [])]
    ["table", "fields", "limit"]

theorem construct_page {n : Int} (h : nearest n.natAbs < twoTo 1024) :
    RecordKind.queryConfig.construct (pageEntries n) = .ok (page (ofInt n)) := by
  have htable : textOrTexts.validate (RecordKind.queryConfig.roomInside mostNested) (.text "orders")
      = .ok (.text "orders") := by
    simp [textOrTexts, anyText, FieldType.validate, readText, chooseMember, FieldType.closeness,
      Except.isOk, Except.toBool]
  have hcolumns : (FieldType.dict (.union [("str", anyText),
      ("RawExpression", .record .rawExpression), ("QueryConfig", .record .queryConfig)])).validate
        (RecordKind.queryConfig.roomInside mostNested) (.dict [("id", .text "id")])
      = .ok (.dict [("id", .text "id")]) := by
    rw [FieldType.validate.eq_def]
    simp [anyText, FieldType.validate, readText, chooseMember, FieldType.closeness, Except.isOk,
      Except.toBool, gather, Checked.under, Except.map]
  have hfinite : isFinite (ofInt n) = true := (isFinite_ofInt n).mpr h
  have hlimit := RowField.validate_int n (RecordKind.queryConfig.roomInside mostNested)
  rw [if_pos hfinite] at hlimit
  have hroom : (mostNested == 0) = false := rfl
  rw [RecordKind.construct, pageEntries, FieldType.validate.eq_def]
  simp [RecordKind.fields, queryFields, lookup?, FieldDef.required, FieldDef.withDefault,
    FieldDef.nullable, FieldDef.ruled, RecordKind.nests, hroom, gather, Checked.under,
    FieldDef.judge, FieldRule.apply, Except.map, finishRecord, RecordKind.ruleOnAll, htable,
    hcolumns, hlimit, hfinite, Value.truthy]
  rfl

/-- The parts of the row statement of a page. -/
def pageParts (size : Nat) : RowParts where
  distinct := false
  columns := ["\x60id\x60 AS \x60id\x60"]
  clauses := ["FROM \x60orders\x60"]
  order := [Query.usualTerm "id"]
  bound := fun
    | .limit => some size
    | .offset => none
  branches := []

/-- A page of orders as a query. -/
def pageQuery (limit : Float) : Query :=
  ⟨["orders"], "id", [("id", .column "id")], [], [], [], [], [], [], [], .absent,
    some (.real limit), none, false, []⟩

theorem rowText_page {x : Float} (hx : isFinite x = true) :
    (pageQuery x).rowText .empty = .ok ((pageParts (floorAbs x)).text, .empty) := by
  have hcolumns : Query.fieldTexts (pageQuery x).fields .empty
      = .ok (["\x60id\x60 AS \x60id\x60"], .empty) := rfl
  have hclauses : (pageQuery x).body .empty = .ok (["FROM \x60orders\x60"], .empty) := rfl
  have hsize : Query.sizeOf? ((pageQuery x).bound .limit) = .ok (some (floorAbs x)) := by
    change Query.sizeOf? (some (.real x)) = _
    rw [Query.sizeOf?, RowBound.magnitude, if_pos hx]
    rfl
  have hunset : Query.sizeOf? ((pageQuery x).bound .offset) = .ok none := rfl
  have horder : (pageQuery x).orderClause = .ok (Query.ordering [Query.usualTerm "id"]) := rfl
  have hplan : BindPlan.empty.addText (Query.ordering [Query.usualTerm "id"]) = .empty := by
    have hcount : countPlaceholders (Query.ordering [Query.usualTerm "id"]) = 0 := by
      decide +kernel
    rw [BindPlan.addText, hcount]
    rfl
  have hbranches : Query.branchTexts (pageQuery x).union = pure [] := by
    rw [pageQuery, Query.branchTexts]
  rw [Query.rowText_eq_rowOf]
  simp only [rowOf, tailOf, bind, StateT.bind, StateT.lift, Except.bind, pure, StateT.pure,
    Except.pure, hcolumns, hclauses, hsize, hunset, horder, hplan, hbranches, Except.map]
  rfl

theorem composeQuery_page {n : Int} (h : nearest n.natAbs < twoTo 1024) :
    composeQuery (page (ofInt n)) .row = .ok ⟨(pageParts (nearest n.natAbs)).text, [], 0⟩ := by
  have hfinite : isFinite (ofInt n) = true := (isFinite_ofInt n).mpr h
  have hread : Query.ofRecord? (page (ofInt n)) = some (pageQuery (ofInt n)) := rfl
  simp only [composeQuery, hread, Query.compile, Query.text, StateT.run, rowText_page hfinite,
    floorAbs_ofInt hfinite]
  rfl

/-- A page of twenty orders is written with the number that it was given. -/
theorem page_written :
    ∃ v, RecordKind.queryConfig.construct (pageEntries 20) = .ok v ∧ v.Gives .limit 20 ∧
      composeQuery v .row = .ok ⟨"SELECT \x60id\x60 AS \x60id\x60 FROM \x60orders\x60 "
        ++ "ORDER BY \x60id\x60 ASC LIMIT 20", [], 0⟩ ∧
      ∃ (p : RowParts) (slots : List Slot) (callers : Int), p.bound .limit = some 20 ∧
        composeQuery v .row = .ok ⟨p.text, slots, callers⟩ := by
  have hnearest : nearest (20 : Int).natAbs = 20 := by decide +kernel
  have hrange : nearest (20 : Int).natAbs < twoTo 1024 := by
    rw [hnearest]
    decide +kernel
  have hgives : (page (ofInt 20)).Gives .limit 20 := .made rfl (construct_page hrange)
  have hrow := composeQuery_page hrange
  rw [hnearest] at hrow
  have htext : (pageParts 20).text
      = "SELECT \x60id\x60 AS \x60id\x60 FROM \x60orders\x60 "
        ++ "ORDER BY \x60id\x60 ASC LIMIT 20" := by
    decide +kernel
  rw [htext] at hrow
  refine ⟨_, construct_page hrange, hgives, hrow, ?_⟩
  rcases (given_bound_written hgives).2 with ⟨e, hfailed, -⟩ | ⟨p, slots, callers, -, hexact, hp, -⟩
  · rw [hrow] at hfailed
    cases hfailed
  · exact ⟨p, slots, callers, hexact.mpr ⟨20, 0, by decide, rfl⟩, hp⟩

/-- The greatest number of sixty-four digits is accepted as a limit, and the statement has the next
number, which has one digit more. -/
theorem allRows_exceeded :
    ∃ v, RecordKind.queryConfig.construct (pageEntries 18446744073709551615) = .ok v ∧
      composeQuery v .row = .ok ⟨"SELECT \x60id\x60 AS \x60id\x60 FROM \x60orders\x60 "
        ++ "ORDER BY \x60id\x60 ASC LIMIT 18446744073709551616", [], 0⟩ := by
  have hnearest : nearest (18446744073709551615 : Int).natAbs = 18446744073709551616 := by
    decide +kernel
  have hrange : nearest (18446744073709551615 : Int).natAbs < twoTo 1024 := by
    rw [hnearest]
    decide +kernel
  refine ⟨_, construct_page hrange, ?_⟩
  rw [composeQuery_page hrange, hnearest]
  have htext : (pageParts 18446744073709551616).text
      = "SELECT \x60id\x60 AS \x60id\x60 FROM \x60orders\x60 "
        ++ "ORDER BY \x60id\x60 ASC LIMIT 18446744073709551616" := by
    decide +kernel
  rw [htext]

end SqlComposer
