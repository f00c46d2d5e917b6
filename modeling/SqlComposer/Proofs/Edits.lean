import Mathlib.Data.List.Induction
import SqlComposer.Proofs.Conformance

/-!
# Edits

A record is edited by assigning to a field of it, or of a record inside it that a path leads to.
An edit changes one record and puts it back into what it stands in, level by level. So a value
`Becomes` one of the same shape: a record of the same kind, a list with one item that has become
another, a dictionary with one entry that has. Types, rules and truth do not see more of a value
than that, which is why soundness survives edits at any depth, whatever they are refused for.
-/

set_option autoImplicit false

namespace SqlComposer

/-! ## One assignment -/

/-- What can come of an assignment to a field of a record: nothing, with a failure that has a
place in the record, or the validated value in the field and the rule on the whole. -/
theorem Value.assign_eq_ok {kind : RecordKind} {fields : List (String × Value)}
    {given : List String} {name : String} {new : Value} {a : Assignment}
    (h : (Value.record kind fields given).assign name new = .ok a) :
    (a.record = .record kind fields given ∧ (a.failure = none ∨ ∃ issues,
      a.failure = some (.refusal kind.name issues) ∧ ∀ i ∈ issues, i.path ≠ [])) ∨
    ∃ d ∈ kind.fields, d.name = name ∧ ∃ w,
      d.judge (d.type.validate (kind.roomInside mostNested) new) = .ok w ∧
      a.record = .record kind (put name w fields) (addGiven given name) ∧
      a.failure = kind.failureOnAll (put name w fields) := by
  unfold Value.assign at h
  dsimp only at h
  split at h
  · split at h
    · cases h
      exact .inl ⟨rfl, .inl rfl⟩
    · split at h
      · cases h
      · cases h
        exact .inl ⟨rfl, .inr ⟨_, rfl, by simp⟩⟩
  · next d hd =>
    split at h
    · next issues hissues =>
      cases h
      refine .inl ⟨rfl, .inr ⟨issues, rfl, fun i hi => ?_⟩⟩
      cases hjudged : d.judge (d.type.validate (kind.roomInside mostNested) new) with
      | ok w =>
        rw [hjudged] at hissues
        cases hissues
      | error inner =>
        rw [hjudged] at hissues
        cases hissues
        obtain ⟨j, -, rfl⟩ := List.mem_map.mp hi
        exact List.cons_ne_nil _ _
    · next w hw =>
      cases h
      have hname : d.name = name :=
        beq_iff_eq.mp (List.find?_some (p := fun d : FieldDef => d.name == name) hd)
      exact .inr ⟨d, List.mem_of_find?_eq_some hd, hname, w, Checked.under_eq_ok hw, rfl, rfl⟩

/-- Only records can be assigned to, and they stay records of their kind. -/
theorem Value.exists_record_of_assign {v new : Value} {name : String} {a : Assignment}
    (h : v.assign name new = .ok a) : ∃ kind fields given fields' given',
      v = .record kind fields given ∧ a.record = .record kind fields' given' := by
  cases v with
  | record kind fields given =>
    rcases assign_eq_ok h with ⟨hsame, -⟩ | ⟨_, -, -, w, -, hput, -⟩
    · exact ⟨kind, fields, given, fields, given, rfl, hsame⟩
    · exact ⟨kind, fields, given, put name w fields, addGiven given name, rfl, hput⟩
  | _ => cases h

/-- An assignment further inside is one inside the value a step away, which is then put back. -/
theorem Value.assignAt_cons_eq_ok {v new : Value} {name : String} {step : Inward}
    {path : List Inward} {a : Assignment} : v.assignAt name new (step :: path) = .ok a ↔
      ∃ x inner, v.inward step = .ok x ∧ x.assignAt name new path = .ok inner ∧
        a = { inner with record := v.replaced step inner.record } := by
  simp only [assignAt, bind, Except.bind]
  constructor
  · intro h
    split at h
    · cases h
    · next x hx =>
      split at h
      · cases h
      · next inner hinner =>
        cases h
        exact ⟨x, inner, hx, hinner, rfl⟩
  · rintro ⟨x, inner, hx, hinner, rfl⟩
    rw [hx]
    dsimp only
    rw [hinner]
    rfl

/-! ## Values of the same shape -/

/-- What a value can become by an assignment somewhere inside it. -/
inductive Value.Becomes : Value → Value → Prop
  | same (v : Value) : Becomes v v
  | record {kind : RecordKind} {fields fields' : List (String × Value)}
    {given given' : List String} : Becomes (.record kind fields given) (.record kind fields' given')
  | list {xs : List Value} {k : Nat} {x y : Value} (hx : xs[k]? = some x) (h : Becomes x y) :
    Becomes (.list xs) (.list (xs.set k y))
  | tuple {xs : List Value} {k : Nat} {x y : Value} (hx : xs[k]? = some x) (h : Becomes x y) :
    Becomes (.tuple xs) (.tuple (xs.set k y))
  | dict {es : List (String × Value)} {name : String} {x y : Value}
    (hx : lookup? name es = some x) (h : Becomes x y) : Becomes (.dict es) (.dict (put name y es))

/-- The item that a list or a tuple has at an index, with its position. -/
theorem Value.item_eq_ok {xs : List Value} {i : Int} {x : Value}
    (h : (Value.list xs).item i = .ok x ∨ (Value.tuple xs).item i = .ok x) :
    ∃ k, position? xs.length i = some k ∧ xs[k]? = some x := by
  rcases h with h | h
  all_goals
    simp only [item, positions?, elements?] at h
    split at h
    · next y hy =>
      cases h
      exact Option.bind_eq_some_iff.mp hy
    · cases h

/-- What is put back in place of something that it has become makes the whole become another. -/
theorem Value.Becomes.replaced {v x y : Value} {step : Inward} (hx : v.inward step = .ok x)
    (h : x.Becomes y) : v.Becomes (v.replaced step y) := by
  cases step with
  | name n =>
    cases v with
    | dict es =>
      simp only [inward] at hx
      split at hx
      · next w hw =>
        cases hx
        exact .dict hw h
      · cases hx
    | record kind fields given =>
      simp only [Value.replaced]
      split
      · exact .record
      · exact .same _
    | _ => exact .same _
  | index i =>
    cases v with
    | list xs =>
      obtain ⟨k, hk, hitem⟩ := item_eq_ok (.inl hx)
      simp only [Value.replaced, hk]
      exact .list hitem h
    | tuple xs =>
      obtain ⟨k, hk, hitem⟩ := item_eq_ok (.inr hx)
      simp only [Value.replaced, hk]
      exact .tuple hitem h
    | _ => exact .same _

theorem Value.assignAt_becomes {v new : Value} {name : String} {path : List Inward}
    {a : Assignment} (h : v.assignAt name new path = .ok a) : v.Becomes a.record := by
  induction path generalizing v a with
  | nil =>
    obtain ⟨kind, fields, given, fields', given', rfl, hrecord⟩ := exists_record_of_assign h
    rw [hrecord]
    exact .record
  | cons step path ih =>
    obtain ⟨x, inner, hx, hinner, rfl⟩ := assignAt_cons_eq_ok.mp h
    exact (ih hinner).replaced hx

namespace Value.Becomes

variable {v w : Value}

theorem text?_eq (h : v.Becomes w) : w.text? = v.text? := by
  cases h <;> rfl

theorem eq_null (h : Value.null.Becomes w) : w = .null := by
  cases h
  rfl

theorem exists_record {kind : RecordKind} {fields : List (String × Value)} {given : List String}
    (h : (Value.record kind fields given).Becomes w) :
    ∃ fields' given', w = .record kind fields' given' := by
  cases h with
  | same => exact ⟨fields, given, rfl⟩
  | record => exact ⟨_, _, rfl⟩

/-- Nothing becomes empty, and nothing that is empty is filled. -/
theorem truthy_eq (h : v.Becomes w) : w.truthy = v.truthy := by
  cases h with
  | same | record => rfl
  | @list xs k _ y | @tuple xs k _ y =>
    cases xs <;> cases k <;> rfl
  | @dict es name _ y hx =>
    have hput : (put name y es).isEmpty = false := by
      cases es with
      | nil => rfl
      | cons e rest =>
        rw [put]
        split <;> rfl
    cases es with
    | nil => cases hx
    | cons e rest => rw [truthy, truthy, hput, List.isEmpty_cons]

theorem fits {t : FieldType} (ht : t.Fits v) (h : v.Becomes w) : t.Fits w := by
  -- by induction on the type, as a union says nothing of the shape of its values
  induction ht generalizing w with
  | any => exact .any w
  | present _ ih => exact .present (ih h)
  | union hm _ ih => exact .union hm (ih h)
  | record =>
    obtain ⟨fields, given, rfl⟩ := h.exists_record
    exact .record fields given
  | @fragments xs hitems ih =>
    cases h with
    | same => exact .fragments hitems
    | list hx h =>
      refine .fragments fun z hz => ?_
      rcases List.mem_or_eq_of_mem_set hz with hz | rfl
      · exact hitems z hz
      · exact ih _ (List.mem_of_getElem? hx) h
  | @list _ _ xs hlength hitems ih =>
    cases h with
    | same => exact .list hlength hitems
    | list hx h =>
      refine .list (by rwa [List.length_set]) fun z hz => ?_
      rcases List.mem_or_eq_of_mem_set hz with hz | rfl
      · exact hitems z hz
      · exact ih _ (List.mem_of_getElem? hx) h
  | @dict _ es hentries ih =>
    cases h with
    | same => exact .dict hentries
    | dict hx h =>
      refine .dict fun e he => ?_
      rcases mem_put he with he | rfl
      · exact hentries e he
      · exact ih _ (mem_of_lookup? hx) h
  | _ =>
    cases h
    constructor <;> assumption

/-- A rule that leaves a value as it is leaves it so when something inside has become another. -/
theorem apply {rule : FieldRule} (hrule : rule.apply v = .ok v) (h : v.Becomes w) :
    rule.apply w = .ok w := by
  have htruthy : w.truthy = v.truthy := h.truthy_eq
  cases h with
  | same => exact hrule
  | @list xs k x y hx h =>
    cases rule with
    | tables =>
      have hall : xs.isEmpty = false ∧ ∀ z ∈ xs, z.truthy = true := by
        simp only [FieldRule.apply] at hrule
        split at hrule
        · cases hrule
        · next hok => simpa [not_or] using hok
      have hset : ∀ z ∈ xs.set k y, z.truthy = true := fun z hz => by
        rcases List.mem_or_eq_of_mem_set hz with hz | rfl
        · exact hall.2 z hz
        · rw [h.truthy_eq]
          exact hall.2 x (List.mem_of_getElem? hx)
      have hnonempty : (xs.set k y).isEmpty = false := by
        simpa using hall.1
      simp only [FieldRule.apply, hnonempty, Bool.false_or]
      rw [if_neg]
      simpa using hset
    | fields | primaryKey =>
      simp only [FieldRule.apply] at hrule ⊢
      rw [htruthy]
      split at hrule
      · next hv => rw [if_pos hv]
      · cases hrule
    | _ => rfl
  | _ =>
    cases rule with
    | fields | primaryKey =>
      simp only [FieldRule.apply] at hrule ⊢
      rw [htruthy]
      split at hrule
      · next hv => rw [if_pos hv]
      · cases hrule
    | _ => rfl

theorem accepts {d : FieldDef} (hd : d.Accepts v) (h : v.Becomes w) : d.Accepts w := by
  obtain ⟨u, hu, hrule⟩ := hd
  rcases FieldRule.apply_eq_ok hrule with rfl | ⟨s, t, rfl, rfl⟩
  · exact ⟨w, fits hu h, apply hrule h⟩
  · cases h
    exact ⟨_, hu, hrule⟩

end Value.Becomes

/-! ## Soundness -/

theorem Value.lookup?_of_inward {es : List (String × Value)} {name : String} {x : Value}
    (h : (Value.dict es).inward (.name name) = .ok x) : lookup? name es = some x := by
  simp only [inward] at h
  split at h
  · next hw =>
    cases h
    exact hw
  · cases h

/-- A name among the fields of a record leads to what stands there. -/
theorem Value.inward_field {kind : RecordKind} {fields : List (String × Value)}
    {given : List String} {name : String} {w : Value} (hw : lookup? name fields = some w) :
    (Value.record kind fields given).inward (.name name) = .ok w := by
  simp only [inward, Value.attribute, hw]

/-- An assignment of a sound value anywhere inside a sound value leaves it sound. -/
theorem Value.assignAt_sound {v new : Value} {name : String} {path : List Inward} {a : Assignment}
    (hv : v.Sound) (hnew : new.Sound) (h : v.assignAt name new path = .ok a) : a.record.Sound := by
  induction path generalizing v a with
  | nil => exact assign_sound hv hnew h
  | cons step path ih =>
    obtain ⟨x, inner, hx, hinner, rfl⟩ := assignAt_cons_eq_ok.mp h
    dsimp only
    cases step with
    | name n =>
      cases v with
      | dict es =>
        have hmem := mem_of_lookup? (lookup?_of_inward hx)
        refine .dict fun e he => ?_
        rcases mem_put he with he | rfl
        · exact sound_dict.mp hv e he
        · exact ih (sound_dict.mp hv _ hmem) hinner
      | record kind fields given =>
        simp only [replaced]
        split
        · next hsome =>
          obtain ⟨w, hw⟩ := Option.isSome_iff_exists.mp hsome
          obtain rfl : w = x := Except.ok.inj ((inward_field hw).symm.trans hx)
          obtain ⟨hkeeps, hfields⟩ := hv.keeps
          have hinside : inner.record.Sound := ih (hfields _ (mem_of_lookup? hw)) hinner
          refine hv.put hinside (fun d hd hname => ?_) given
          have haccepts := hkeeps d hd
          rw [hname, fieldOf, hw] at haccepts
          exact (assignAt_becomes hinner).accepts haccepts
        -- what answers to a name without being a field is not put back
        · exact hv
      | _ => exact hv
    | index i =>
      cases v with
      | list xs =>
        obtain ⟨k, hk, hitem⟩ := item_eq_ok (.inl hx)
        have hall := sound_list.mp hv
        simp only [replaced, hk]
        refine .list fun y hy => ?_
        rcases List.mem_or_eq_of_mem_set hy with hy | rfl
        · exact hall y hy
        · exact ih (hall x (List.mem_of_getElem? hitem)) hinner
      | tuple xs =>
        obtain ⟨k, hk, hitem⟩ := item_eq_ok (.inr hx)
        have hall : ∀ y ∈ xs, y.Sound := hv.listItems rfl
        simp only [replaced, hk]
        refine .tuple fun y hy => ?_
        rcases List.mem_or_eq_of_mem_set hy with hy | rfl
        · exact hall y hy
        · exact ih (hall x (List.mem_of_getElem? hitem)) hinner
      | _ => exact hv

/-! ## Edits -/

/-- An assignment of a value to a field of the record that a path leads to. -/
structure Edit where
  path : List Inward
  field : String
  value : Value

/-- A value after an edit, refused or not. An edit that is no assignment changes nothing. -/
def Value.edited (v : Value) (e : Edit) : Value :=
  match v.assignAt e.field e.value e.path with
  | .ok a => a.record
  | .error _ => v

/-- A value after one edit and another. -/
def Value.editedBy (v : Value) (edits : List Edit) : Value := edits.foldl edited v

variable {v : Value} {e : Edit} {edits : List Edit}

theorem Value.edited_becomes (v : Value) (e : Edit) : v.Becomes (v.edited e) := by
  unfold edited
  split
  · next h => exact assignAt_becomes h
  · exact .same v

theorem Value.edited_sound (hv : v.Sound) (he : e.value.Sound) : (v.edited e).Sound := by
  unfold edited
  split
  · next h => exact assignAt_sound hv he h
  · exact hv

theorem Value.editedBy_append (v : Value) (done : List Edit) (e : Edit) :
    v.editedBy (done ++ [e]) = (v.editedBy done).edited e := by
  rw [editedBy, List.foldl_append, List.foldl_cons, List.foldl_nil, editedBy]

/-- What a value is after any edits has the types that it has. -/
theorem Value.editedBy_fits {t : FieldType} (ht : t.Fits v) : t.Fits (v.editedBy edits) := by
  induction edits generalizing v with
  | nil => exact ht
  | cons e edits ih => exact ih ((v.edited_becomes e).fits ht)

/-- What a sound value is after any edits with sound values is sound. -/
theorem Value.editedBy_sound (hv : v.Sound) (hedits : ∀ e ∈ edits, e.value.Sound) :
    (v.editedBy edits).Sound := by
  induction edits generalizing v with
  | nil => exact hv
  | cons e edits ih =>
    exact ih (edited_sound hv (hedits e List.mem_cons_self))
      fun e' he' => hedits e' (List.mem_cons_of_mem e he')

/-- If it is known which edits break a property that a value has, then the value has it all along
exactly if there is no such edit among those that are made. -/
theorem Value.along_iff {P : Value → Prop} {breaks : Edit → Value → Prop} (hv : P v)
    (hstep : ∀ done e, done ++ [e] <+: edits → P (v.editedBy done) →
      (P ((v.editedBy done).edited e) ↔ ¬ breaks e (v.editedBy done))) :
    (∀ done, done <+: edits → P (v.editedBy done)) ↔
      ∀ done e, done ++ [e] <+: edits → ¬ breaks e (v.editedBy done) := by
  constructor
  · intro hall done e hdone
    have hbefore : done <+: edits := (List.prefix_append done [e]).trans hdone
    have hafter := hall (done ++ [e]) hdone
    rw [editedBy_append] at hafter
    exact (hstep done e hdone (hall done hbefore)).mp hafter
  · intro hnone done hdone
    induction done using List.reverseRecOn with
    | nil => exact hv
    | append_singleton done e ih =>
      have hbefore : done <+: edits := (List.prefix_append done [e]).trans hdone
      rw [editedBy_append]
      exact (hstep done e hdone (ih hbefore)).mpr (hnone done e hdone)

/-! ### What an edit changes -/

theorem put_self {α : Type} {key : String} {a : α} {entries : List (String × α)}
    (h : lookup? key entries = some a) : put key a entries = entries := by
  induction entries with
  | nil => cases h
  | cons entry rest ih =>
    obtain ⟨k, b⟩ := entry
    simp only [lookup?] at h
    rw [put]
    split at h
    · next hk =>
      cases h
      rw [if_pos hk]
    · next hk => rw [if_neg hk, ih h]

section Inside

variable {kind : RecordKind} {fields : List (String × Value)} {given : List String}
  {xs : List Value} {step : Inward} {path : List Inward} {field : String} {value : Value}

/-- An edit further inside changes nothing if there is nothing a step away. -/
theorem Value.edited_of_error {f : Fault} (h : v.inward step = .error f) :
    v.edited ⟨step :: path, field, value⟩ = v := by
  simp only [edited, assignAt, h, bind, Except.bind]

/-- An edit further inside edits the field a step away. -/
theorem Value.edited_field {name : String} {w : Value} (hw : lookup? name fields = some w) :
    (Value.record kind fields given).edited ⟨.name name :: path, field, value⟩
      = .record kind (put name (w.edited ⟨path, field, value⟩) fields) given := by
  simp only [edited, assignAt, inward_field hw, bind, Except.bind]
  cases w.assignAt field value path with
  | error f => simp only [put_self hw]
  | ok inner => simp only [replaced, hw, Option.isSome_some, if_true, pure, Except.pure]

/-- What answers to a name without being a field is edited apart from the record. -/
theorem Value.edited_beside {name : String} (h : lookup? name fields = none) :
    (Value.record kind fields given).edited ⟨.name name :: path, field, value⟩
      = .record kind fields given := by
  unfold edited
  split
  · next a ha =>
    obtain ⟨x, inner, -, -, rfl⟩ := assignAt_cons_eq_ok.mp ha
    simp only [replaced, h, Option.isSome_none, Bool.false_eq_true, if_false]
  · rfl

/-- An edit further inside edits the item a step away. -/
theorem Value.edited_item {i : Int} {k : Nat} {x : Value} (hk : position? xs.length i = some k)
    (hx : xs[k]? = some x) : (Value.list xs).edited ⟨.index i :: path, field, value⟩
      = .list (xs.set k (x.edited ⟨path, field, value⟩)) := by
  have hitem : (Value.list xs).inward (.index i) = .ok x := by
    simp only [inward, item, positions?, elements?, hk, Option.bind_some, hx]
  simp only [edited, assignAt, hitem, bind, Except.bind]
  cases x.assignAt field value path with
  | error f =>
    obtain ⟨hlt, rfl⟩ := List.getElem?_eq_some_iff.mp hx
    simp only [List.set_getElem_self]
  | ok inner => simp only [replaced, hk, pure, Except.pure]

/-- An assignment to a field of a record leaves the other fields as they are. -/
theorem Value.get_edited_other {other : String} (h : field ≠ other) :
    ((Value.record kind fields given).edited ⟨[], field, value⟩).get other
      = (Value.record kind fields given).get other := by
  unfold edited
  split
  · next a ha =>
    rcases assign_eq_ok ha with ⟨hsame, -⟩ | ⟨_, -, -, w, -, hput, -⟩
    · rw [hsame]
    · rw [hput]
      exact (fieldOf_put field w fields other).trans (if_neg h)
  · rfl

/-- The fields of a record after an edit further inside. -/
theorem Value.get_edited (name other : String) :
    ((Value.record kind fields given).edited ⟨.name name :: path, field, value⟩).get other
      = if name = other then ((Value.record kind fields given).get other).edited ⟨path, field, value⟩
        else (Value.record kind fields given).get other := by
  change _ = if name = other then (fieldOf fields other).edited ⟨path, field, value⟩
    else fieldOf fields other
  cases hw : lookup? name fields with
  | none =>
    rw [edited_beside hw]
    split
    · next hname =>
      have hnull : fieldOf fields other = .null := by
        rw [fieldOf, ← hname, hw, Option.getD_none]
      change fieldOf fields other = _
      rw [hnull, (edited_becomes .null ⟨path, field, value⟩).eq_null]
    · rfl
  | some w =>
    rw [edited_field hw]
    change fieldOf (put name _ fields) other = _
    rw [fieldOf_put]
    split
    · next hname => rw [fieldOf, ← hname, hw, Option.getD_some]
    · rfl

end Inside

end SqlComposer
