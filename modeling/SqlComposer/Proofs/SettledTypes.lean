import SqlComposer.Proofs.Conformance

/-!
# Values that validation leaves alone

What comes out of the validation of a type is settled: validated once more, it stays as it is. Of a
choice among types this needs an argument, since the type that has made a value is not the only one
that could take it: a number goes with its own type exactly, and no type of numbers or texts takes a
list or a record.
-/

set_option autoImplicit false

namespace SqlComposer

/-- Validated for a type, a value stays as it is. -/
def FieldType.Settled (t : FieldType) (w : Value) : Prop :=
  ∀ room, 0 < room → t.validate room w = .ok w

/-- A type of texts, numbers or booleans. -/
def FieldType.isScalar : FieldType → Bool
  | .text _ | .integer _ _ | .number _ | .boolean => true
  | _ => false

/-- The types whose validated values are settled: names are in form, and a choice is among scalars
and records, or among scalars and one type of lists. -/
inductive FieldType.Stable : FieldType → Prop
  | any : Stable .any
  | scalar {t : FieldType} (h : t.isScalar = true) : Stable t
  | choice {tidying : Tidying} {names : List String}
      (h : ∀ name ∈ names, tidying.apply name = name) : Stable (.choice tidying names)
  | list {least : Nat} {item : FieldType} (h : item.Stable) : Stable (.list least item)
  | fragments : Stable .fragments
  | dict {item : FieldType} (h : item.Stable) : Stable (.dict item)
  | optional {item : FieldType} (h : item.Stable) : Stable (.optional item)
  | records {members : List (String × FieldType)}
      (h : ∀ m ∈ members, m.2.isScalar = true ∨ ∃ kind, m.2 = .record kind) :
      Stable (.union members)
  | lists {members : List (String × FieldType)} {least : Nat} {item : FieldType}
      (hitem : item.Stable)
      (h : ∀ m ∈ members, m.2.isScalar = true ∨ m.2 = .list least item) : Stable (.union members)
  | record (kind : RecordKind) : Stable (.record kind)

/-- Results are gathered as they are. -/
theorem gather_map_ok {α : Type} (results : List α) : gather (results.map .ok) = .ok results := by
  induction results with
  | nil => rfl
  | cons a as ih => simp only [List.map_cons, gather, ih]

namespace FieldType

variable {room : Nat} {v w w' : Value}

/-! ### Values that are settled -/

section Settled

variable {least most : Option Int} {item : FieldType} {w : Value}

/-- A text that is long enough stays as it is. -/
theorem settled_text {n : Nat} {s : String} (h : n ≤ s.length) :
    (FieldType.text n).Settled (.text s) := by
  intro room _
  rw [validate]
  simp only [readText, if_neg (Nat.not_lt.mpr h)]

/-- A double within its bound stays as it is. -/
theorem settled_number {bound : Option Int} {x : Float} (h : notBelow bound x = .ok x) :
    (FieldType.number bound).Settled (.float x) := by
  intro room _
  rw [validate]
  simp only [readNumber, asReadable, h, Except.map]

/-- A boolean stays as it is. -/
theorem settled_boolean (b : Bool) : FieldType.boolean.Settled (.bool b) := by
  intro room _
  rw [validate]
  rfl

/-- A whole number within its bounds stays as it is. -/
theorem settled_integer {n : Int} (h : withinBounds least most n = .ok n) :
    (FieldType.integer least most).Settled (.int n) := by
  intro room _
  rw [validate]
  simp only [readInteger, asReadable, h, Except.map]

/-- Null stays null where nothing need be given. -/
theorem settled_null (item : FieldType) : (FieldType.optional item).Settled .null := by
  intro room _
  rw [validate]
  rfl

/-- What stays as it is for a type does so where it may be left out. -/
theorem settled_present (h : item.Settled w) : (FieldType.optional item).Settled w := by
  intro room hroom
  rw [validate]
  split
  · next hnull =>
    cases w <;> first
      | rfl
      | cases hnull
  · exact h room hroom

/-- A name in form among those to choose from stays as it is. -/
theorem settled_choice {tidying : Tidying} {names : List String} {name : String}
    (hform : tidying.apply name = name) (hname : name ∈ names) :
    (FieldType.choice tidying names).Settled (.text name) := by
  intro room _
  rw [validate]
  simp only [Tidying.applyTo, hform, if_pos (List.contains_iff_mem.mpr hname)]

end Settled

/-! ### Scalars -/

/-- What is made for a type of scalars goes with it exactly and stays as it is. -/
theorem validate_scalar {t : FieldType} (ht : t.isScalar = true) (h : t.validate room v = .ok w) :
    t.closeness w = 2 ∧ t.Settled w := by
  cases t with
  | text least =>
    rw [validate] at h
    split at h
    · split at h
      · cases h
      · next hlength =>
        cases h
        exact ⟨rfl, settled_text (Nat.le_of_not_lt hlength)⟩
    · cases h
  | integer least most =>
    rw [validate] at h
    split at h
    · obtain ⟨n, hn, rfl⟩ := Except.map_eq_ok h
      obtain rfl := withinBounds_eq_ok hn
      exact ⟨rfl, settled_integer hn⟩
    · cases h
  | number least =>
    rw [validate] at h
    split at h
    · obtain ⟨x, hx, rfl⟩ := Except.map_eq_ok h
      obtain rfl := notBelow_eq_ok hx
      exact ⟨rfl, settled_number hx⟩
    · cases h
  | boolean =>
    rw [validate] at h
    obtain ⟨b, -, rfl⟩ := Except.map_eq_ok h
    exact ⟨rfl, settled_boolean b⟩
  | _ => cases ht

/-- A value that goes with a type exactly is refused or left as it is. -/
theorem eq_of_closeness {t : FieldType} (ht : t.closeness v = 2) (h : t.validate room v = .ok w) :
    w = v := by
  unfold closeness at ht
  split at ht
  · next least s =>
    rw [validate] at h
    simp only [readText] at h
    split at h
    · cases h
    · exact (Except.ok.inj h).symm
  · next least most n =>
    rw [validate] at h
    obtain ⟨m, hm, rfl⟩ := Except.map_eq_ok h
    rw [withinBounds_eq_ok hm]
  · next least x =>
    rw [validate] at h
    obtain ⟨y, hy, rfl⟩ := Except.map_eq_ok h
    rw [notBelow_eq_ok hy]
  · next b =>
    rw [validate] at h
    exact (Except.ok.inj h).symm
  · cases ht
  · cases ht

/-- No type of scalars takes what has items. -/
theorem scalar_refuses {t : FieldType} (ht : t.isScalar = true) {xs : List Value}
    (hv : v.listItems? = some xs) : t.validate room v ≠ .ok w := by
  intro h
  unfold Value.listItems? at hv
  split at hv <;> cases hv
  all_goals
    cases t with
    | text least =>
      rw [validate] at h
      cases h
    | integer least most =>
      rw [validate] at h
      cases h
    | number least =>
      rw [validate] at h
      cases h
    | boolean =>
      rw [validate] at h
      cases h
    | _ => cases ht

/-! ### Choices among types -/

section Choice

variable {outcomes : List (String × FieldType × Checked Value)}

/-- What is looked up among the outcomes by its closeness is a result. -/
theorem of_find?_closeness {n : Nat} {o : String × FieldType × Checked Value}
    (h : outcomes.find? (fun o => o.2.1.closeness v == n && o.2.2.isOk) = some o) :
    o ∈ outcomes ∧ o.2.1.closeness v = n ∧ ∃ w, o.2.2 = .ok w := by
  have hfits : (o.2.1.closeness v == n && o.2.2.isOk) = true :=
    List.find?_some (p := fun o : String × FieldType × Checked Value =>
      o.2.1.closeness v == n && o.2.2.isOk) h
  obtain ⟨hclose, hok⟩ := Bool.and_eq_true_iff.mp hfits
  refine ⟨List.mem_of_find?_eq_some h, beq_iff_eq.mp hclose, ?_⟩
  cases hr : o.2.2 with
  | ok w => exact ⟨w, rfl⟩
  | error issues =>
    rw [hr] at hok
    cases hok

/-- If there is a result, one is chosen. -/
theorem exists_chooseMember (h : ∃ o ∈ outcomes, o.2.2 = .ok w) :
    ∃ w', chooseMember v outcomes = .ok w' := by
  unfold chooseMember
  dsimp only
  split
  · next o hclosest =>
    rcases Option.or_eq_some_iff.mp hclosest with hfound | ⟨-, hfound⟩
    · exact (of_find?_closeness hfound).2.2
    · exact (of_find?_closeness hfound).2.2
  · exact ⟨_, rfl⟩
  · next hresults =>
    obtain ⟨o, ho, how⟩ := h
    have hmem : w ∈ outcomes.filterMap fun o => o.2.2.toOption :=
      List.mem_filterMap.mpr ⟨o, ho, by rw [how]; rfl⟩
    rw [hresults] at hmem
    cases hmem

/-- A result that all others equal is chosen. -/
theorem chooseMember_of_agree (hsome : ∃ o ∈ outcomes, o.2.2 = .ok w)
    (hagree : ∀ o ∈ outcomes, ∀ w', o.2.2 = .ok w' → w' = w) :
    chooseMember v outcomes = .ok w := by
  obtain ⟨w', hw'⟩ := exists_chooseMember (v := v) hsome
  obtain ⟨o, ho, how⟩ := mem_of_chooseMember hw'
  rw [hw', hagree o ho w' how]

/-- Among the results for types that the value goes with exactly, one that the others equal is
chosen. -/
theorem chooseMember_of_exact (hsome : ∃ o ∈ outcomes, o.2.1.closeness v = 2 ∧ o.2.2 = .ok w)
    (hagree : ∀ o ∈ outcomes, o.2.1.closeness v = 2 → ∀ w', o.2.2 = .ok w' → w' = w) :
    chooseMember v outcomes = .ok w := by
  obtain ⟨o, ho, hclose, how⟩ := hsome
  have hfits : (o.2.1.closeness v == 2 && o.2.2.isOk) = true := by
    rw [hclose, how]
    rfl
  obtain ⟨o', hfound⟩ := Option.isSome_iff_exists.mp
    (List.find?_isSome (p := fun o => o.2.1.closeness v == 2 && o.2.2.isOk).mpr ⟨o, ho, hfits⟩)
  obtain ⟨ho', hclose', w', hw'⟩ := of_find?_closeness hfound
  have hchosen : chooseMember v outcomes = o'.2.2 := by
    unfold chooseMember
    simp only [hfound]
    rfl
  rw [hchosen, hw', hagree o' ho' hclose' w' hw']

end Choice

/-! ### All types -/

/-- Results in their places are gathered as they are. -/
theorem gather_mapIdx_ok {α β : Type} {xs : List α} {f : α → Checked β} {results : List β}
    (h : xs.map f = results.map .ok) :
    gather (xs.mapIdx fun i x => (f x).under (.index i)) = .ok results := by
  have hresults : (xs.mapIdx fun i x => (f x).under (.index i)) = results.map .ok := by
    rw [← h]
    refine List.ext_getElem (by simp) fun i hi hi' => ?_
    have hlt : i < xs.length := by simpa using hi
    have hlt' : i < results.length := by
      have hlength := congrArg List.length h
      simp only [List.length_map] at hlength
      omega
    have hitem : f xs[i] = .ok results[i] := by
      have hat := congrArg (·[i]?) h
      simpa [hlt, hlt'] using hat
    simp [hitem, Checked.under]
  rw [hresults, gather_map_ok]

/-- A list of items that stay as they are stays as it is. -/
theorem validate_list_self {least : Nat} {item : FieldType} {ys : List Value}
    (hleast : least ≤ ys.length) (hitems : ∀ y ∈ ys, item.validate room y = .ok y) :
    (FieldType.list least item).validate room (.list ys) = .ok (.list ys) := by
  rw [validate.eq_def]
  dsimp only
  split
  · next xs hxs =>
    cases hxs
    have hgathered : gather ((ys.attach.map fun x => item.validate room x.1).mapIdx
        fun i r => Checked.under (.index i) r) = .ok ys := by
      refine gather_mapIdx_ok (f := id) ?_
      rw [List.map_id, List.attach_map_val]
      exact List.map_congr_left hitems
    rw [hgathered]
    exact if_neg (Nat.not_lt.mpr hleast)
  · next hnone => cases hnone

/-- A dictionary of entries that stay as they are stays as it is. -/
theorem validate_dict_self {item : FieldType} {es : List (String × Value)}
    (hitems : ∀ e ∈ es, item.validate room e.2 = .ok e.2) :
    (FieldType.dict item).validate room (.dict es) = .ok (.dict es) := by
  rw [validate.eq_def]
  dsimp only
  have hentries : (es.map fun e =>
      ((item.validate room e.2).under (.name e.1)).map fun w => (e.1, w)) = es.map .ok := by
    refine List.map_congr_left fun e he => ?_
    rw [hitems e he]
    rfl
  rw [hentries, gather_map_ok]
  rfl

/-- Fragments that are texts stay as they are. -/
theorem settled_texts {xs : List Value} (h : ∀ x ∈ xs, ∃ s, x = .text s) :
    FieldType.fragments.Settled (.list xs) := by
  intro room _
  rw [validate.eq_def]
  have hread : xs.map (fun x => (readText x).map Value.text) = xs.map .ok := by
    refine List.map_congr_left fun x hx => ?_
    obtain ⟨s, rfl⟩ := h x hx
    rfl
  simp only [Value.listItems?]
  rw [gather_mapIdx_ok hread]
  rfl

/-- A validated text, on its own or in a list, stays as it is. -/
theorem settled_fragments (h : FieldType.fragments.validate room v = .ok w) :
    FieldType.fragments.Settled w := by
  obtain ⟨-, hfits⟩ := validate_fragments h
  cases hfits with
  | @fragments xs hxs =>
    refine settled_texts fun x hx => ?_
    cases hxs x hx with
    | text => exact ⟨_, rfl⟩

/-- A value that is settled for one of several types is for the choice among them, if it goes with
that type exactly or no other type makes anything else of it. -/
theorem settled_union {members : List (String × FieldType)} {m : String × FieldType}
    (hm : m ∈ members) (hsettled : m.2.Settled w)
    (hagree : m.2.closeness w = 2 ∨
      ∀ m' ∈ members, ∀ room, 0 < room → ∀ w', m'.2.validate room w = .ok w' → w' = w) :
    (FieldType.union members).Settled w := by
  intro room hroom
  rw [validate.eq_def]
  dsimp only
  have hmember : (m.1, m.2, m.2.validate room w)
      ∈ members.map fun m => (m.1, m.2, m.2.validate room w) := List.mem_map_of_mem hm
  rcases hagree with hexact | hagree
  · refine chooseMember_of_exact ⟨_, hmember, hexact, hsettled room hroom⟩ ?_
    intro o ho hclose w' hw'
    obtain ⟨m', -, rfl⟩ := List.mem_map.mp ho
    exact eq_of_closeness hclose hw'
  · refine chooseMember_of_agree ⟨_, hmember, hsettled room hroom⟩ ?_
    intro o ho w' hw'
    obtain ⟨m', hm', rfl⟩ := List.mem_map.mp ho
    exact hagree m' hm' room hroom w' hw'

/-- A record validated for a kind of records is left as it is. -/
theorem eq_of_validate_record {kind : RecordKind} {fields : List (String × Value)}
    {given : List String} {k : RecordKind}
    (h : (FieldType.record kind).validate room (.record k fields given) = .ok w) :
    w = .record k fields given := by
  rcases validate_record_eq_ok h with ⟨_, _, hv, hw⟩ | ⟨_, _, _, hv, -⟩
  · exact hw
  · cases hv

/-- What is validated for a kind of records is a record of the kind. -/
theorem exists_record_of_validate {kind : RecordKind}
    (h : (FieldType.record kind).validate room v = .ok w) :
    ∃ fields given, w = .record kind fields given := by
  rcases validate_record_eq_ok h with ⟨fields, given, rfl, rfl⟩ | ⟨_, fields, given, -, rfl, -⟩
  · exact ⟨fields, given, rfl⟩
  · exact ⟨fields, given, rfl⟩

/-- A record is left as it is for its kind. -/
theorem settled_record (kind : RecordKind) (fields : List (String × Value)) (given : List String) :
    (FieldType.record kind).Settled (.record kind fields given) := by
  intro room hroom
  rw [validate.eq_def]
  have hdeep : ¬ (kind.nests && room == 0) = true := by simp [Nat.ne_of_gt hroom]
  simp only [if_neg hdeep, if_true]

/-- What is made for a stable type is settled. -/
theorem Stable.settled {t : FieldType} (ht : t.Stable) :
    ∀ {room : Nat} {v w : Value}, t.validate room v = .ok w → t.Settled w := by
  induction ht with
  | any =>
    intro room v w _ room' _
    rw [validate]
  | scalar h => exact fun hw => (validate_scalar h hw).2
  | @choice tidying names h =>
    intro room v w hw
    rw [validate] at hw
    split at hw
    · split at hw
      · next name _ hname =>
        cases hw
        have hmem : name ∈ names := List.contains_iff_mem.mp hname
        exact settled_choice (h name hmem) hmem
      · cases hw
    · cases hw
  | list _ ih =>
    intro room v w hw room' hroom
    obtain ⟨xs, ys, -, rfl, hleast, -, hys⟩ := validate_list_eq_ok hw
    refine validate_list_self hleast fun y hy => ?_
    obtain ⟨x, -, hx⟩ := hys y hy
    exact ih hx room' hroom
  | fragments => exact settled_fragments
  | @dict item _ ih =>
    intro room v w hw room' hroom
    rw [validate.eq_def] at hw
    dsimp only at hw
    split at hw
    · obtain ⟨fs, hfs, rfl⟩ := Except.map_eq_ok hw
      refine validate_dict_self fun f hf => ?_
      obtain ⟨e, -, hr⟩ := List.mem_map.mp (mem_of_gather hfs hf)
      obtain ⟨y, hy, rfl⟩ := Except.map_eq_ok hr
      exact ih (Checked.under_eq_ok hy) room' hroom
    · cases hw
  | optional _ ih =>
    intro room v w hw
    rw [validate] at hw
    split at hw
    · cases hw
      exact settled_null _
    · exact settled_present (ih hw)
  | @records members h =>
    intro room v w hw
    rw [validate] at hw
    obtain ⟨_, ho, hmade⟩ := mem_of_chooseMember hw
    obtain ⟨m, hm, rfl⟩ := List.mem_map.mp ho
    rcases h m hm with hscalar | ⟨kind, hkind⟩
    · obtain ⟨hexact, hsettled⟩ := validate_scalar hscalar hmade
      exact settled_union hm hsettled (.inl hexact)
    · rw [hkind] at hmade
      obtain ⟨fields, given, rfl⟩ := exists_record_of_validate hmade
      refine settled_union hm (hkind ▸ settled_record kind fields given) (.inr ?_)
      intro m' hm' room _ w' hw'
      rcases h m' hm' with hscalar | ⟨kind', hkind'⟩
      · exact absurd hw' (scalar_refuses hscalar rfl)
      · rw [hkind'] at hw'
        exact eq_of_validate_record hw'
  | @lists members least item hitem h ih =>
    intro room v w hw
    rw [validate] at hw
    obtain ⟨_, ho, hmade⟩ := mem_of_chooseMember hw
    obtain ⟨m, hm, rfl⟩ := List.mem_map.mp ho
    rcases h m hm with hscalar | hlist
    · obtain ⟨hexact, hsettled⟩ := validate_scalar hscalar hmade
      exact settled_union hm hsettled (.inl hexact)
    · rw [hlist] at hmade
      obtain ⟨xs, ys, -, rfl, hleast, -, hys⟩ := validate_list_eq_ok hmade
      have hself (room : Nat) (hroom : 0 < room) :
          (FieldType.list least item).validate room (.list ys) = .ok (.list ys) :=
        validate_list_self hleast fun y hy => by
          obtain ⟨x, -, hx⟩ := hys y hy
          exact ih hx room hroom
      refine settled_union hm (hlist ▸ hself) (.inr ?_)
      intro m' hm' room' hroom w' hw'
      rcases h m' hm' with hscalar | hlist'
      · exact absurd hw' (scalar_refuses hscalar rfl)
      · rw [hlist', hself room' hroom] at hw'
        exact (Except.ok.inj hw').symm
  | record kind =>
    intro room v w hw
    obtain ⟨fields, given, rfl⟩ := exists_record_of_validate hw
    exact settled_record kind fields given

end FieldType

end SqlComposer
