import SqlComposer.Proofs.Conformance
import SqlComposer.Table.OfRecord

/-!
# Reading what validation lets through

The reader of a record asks of each field what the schema has said about it, so it never finds a
sound record wanting. Here are the readers of fields: what a value that fits a type is, and that it
is read as what the type stands for. `RecordKind.Reads` says of a reader of whole records that it
reads all sound ones.
-/

set_option autoImplicit false

namespace SqlComposer

/-! ## Fields -/

namespace FieldType.Fits

/-- Only texts fit the type of texts. -/
theorem exists_text {least : Nat} {v : Value} (h : (FieldType.text least).Fits v) :
    ∃ s, v = .text s := by
  cases h with
  | text => exact ⟨_, rfl⟩

/-- Only whole numbers fit the type of whole numbers. -/
theorem exists_int {least most : Option Int} {v : Value}
    (h : (FieldType.integer least most).Fits v) : ∃ n, v = .int n := by
  cases h with
  | integer => exact ⟨_, rfl⟩

/-- What fits an optional type is null or fits the type. -/
theorem cases_optional {item : FieldType} {v : Value} (h : (FieldType.optional item).Fits v) :
    v = .null ∨ item.Fits v := by
  cases h with
  | null => exact .inl rfl
  | present h => exact .inr h

/-- What fits a union fits one of its members. -/
theorem cases_union {members : List (String × FieldType)} {v : Value}
    (h : (FieldType.union members).Fits v) : ∃ m ∈ members, m.2.Fits v := by
  cases h with
  | union hm h => exact ⟨_, hm, h⟩

/-- Only lists fit a type of lists, with items that fit the type of the items. -/
theorem exists_list {least : Nat} {item : FieldType} {v : Value}
    (h : (FieldType.list least item).Fits v) : ∃ xs, v = .list xs ∧ ∀ x ∈ xs, item.Fits x := by
  cases h with
  | list _ hitems => exact ⟨_, rfl, hitems⟩

/-- Only records of a kind fit its type. -/
theorem exists_record {kind : RecordKind} {v : Value} (h : (FieldType.record kind).Fits v) :
    ∃ fields given, v = .record kind fields given := by
  cases h with
  | record fields given => exact ⟨fields, given, rfl⟩

end FieldType.Fits

/-! ## Readers -/

/-- A reader that reads every item of a list reads the list, and what holds of each item it has read
holds of all. -/
theorem exists_mapM {α β : Type} {read? : α → Option β} {P : β → Prop} {xs : List α}
    (h : ∀ x ∈ xs, ∃ b, read? x = some b ∧ P b) :
    ∃ bs, xs.mapM read? = some bs ∧ ∀ b ∈ bs, P b := by
  induction xs with
  | nil => exact ⟨[], rfl, List.forall_mem_nil _⟩
  | cons x xs ih =>
    obtain ⟨b, hb, hPb⟩ := h x List.mem_cons_self
    obtain ⟨bs, hbs, hPbs⟩ := ih fun y hy => h y (List.mem_cons_of_mem x hy)
    refine ⟨b :: bs, by simp [List.mapM_cons, hb, hbs], fun c hc => ?_⟩
    rcases List.mem_cons.mp hc with rfl | hc
    · exact hPb
    · exact hPbs c hc

/-- Every sound record of a kind is read, and as something with a property. -/
def RecordKind.Reads {β : Type} (kind : RecordKind) (read? : Value → Option β)
    (P : β → Prop) : Prop :=
  ∀ fields given, (Value.record kind fields given).Sound →
    ∃ b, read? (.record kind fields given) = some b ∧ P b

section Readers

variable {v : Value}

/-- What fits the type of texts is read as a text. -/
theorem exists_text? {least : Nat} (h : (FieldType.text least).Fits v) :
    ∃ s, v.text? = some s := by
  obtain ⟨s, rfl⟩ := h.exists_text
  exact ⟨s, rfl⟩

/-- A text or null is read as such. -/
theorem exists_optionalText? {least : Nat} (h : (FieldType.optional (.text least)).Fits v) :
    ∃ o, optionalText? v = some o := by
  rcases h.cases_optional with rfl | h
  · exact ⟨none, rfl⟩
  · obtain ⟨s, rfl⟩ := h.exists_text
    exact ⟨some s, rfl⟩

/-- A list of texts is read as texts. -/
theorem exists_texts? {least most : Nat} (h : (FieldType.list least (.text most)).Fits v) :
    ∃ ss, texts? v = some ss := by
  obtain ⟨xs, rfl, hxs⟩ := h.exists_list
  obtain ⟨ss, hss, -⟩ := exists_mapM (P := fun _ => True) fun x hx => by
    obtain ⟨s, hs⟩ := exists_text? (hxs x hx)
    exact ⟨s, hs, trivial⟩
  exact ⟨ss, hss⟩

/-- A text or a list of texts is read as texts. -/
theorem exists_textOrTexts? (h : textOrTexts.Fits v) : ∃ ss, textOrTexts? v = some ss := by
  obtain ⟨m, hm, h⟩ := h.cases_union
  simp only [List.mem_cons, List.not_mem_nil, or_false] at hm
  rcases hm with rfl | rfl
  · obtain ⟨s, rfl⟩ := h.exists_text
    exact ⟨[s], rfl⟩
  · obtain ⟨ss, hss⟩ := exists_texts? h
    obtain ⟨xs, rfl, -⟩ := h.exists_list
    exact ⟨ss, hss⟩

variable {α : Type} {all : List α} {keyword : α → String} {tidying : Tidying}

/-- A name among those of all choices is read as a choice. -/
theorem exists_choice? (h : (FieldType.choice tidying (all.map keyword)).Fits v) :
    ∃ a, choice? all keyword v = some a := by
  cases h with
  | choice hname =>
    obtain ⟨a, ha, rfl⟩ := List.mem_map.mp hname
    have hfound : (all.find? fun b => keyword b == keyword a).isSome :=
      List.find?_isSome.mpr ⟨a, ha, beq_self_eq_true _⟩
    exact Option.isSome_iff_exists.mp hfound

/-- A choice or null is read as such. -/
theorem exists_optionalChoice?
    (h : (FieldType.optional (.choice tidying (all.map keyword))).Fits v) :
    ∃ o, optionalChoice? all keyword v = some o := by
  unfold optionalChoice?
  split
  · next htruthy =>
    rcases h.cases_optional with rfl | h
    · cases htruthy
    · obtain ⟨a, ha⟩ := exists_choice? h
      exact ⟨some a, by rw [ha, Option.map_some]⟩
  · exact ⟨none, rfl⟩

variable {β : Type} {read? : Value → Option β} {P : β → Prop} {kind : RecordKind}

/-- What reads the sound records of a kind reads the sound lists of them. -/
theorem RecordKind.Reads.exists_parts? {least : Nat} (hread : kind.Reads read? P)
    (hsound : v.Sound) (h : (FieldType.list least (.record kind)).Fits v) :
    ∃ bs, parts? read? v = some bs ∧ ∀ b ∈ bs, P b := by
  obtain ⟨xs, rfl, hxs⟩ := h.exists_list
  refine exists_mapM fun x hx => ?_
  obtain ⟨fields, given, rfl⟩ := (hxs x hx).exists_record
  exact hread fields given (Value.sound_list.mp hsound _ hx)

/-- What reads the sound records of a kind reads one that may be null. -/
theorem RecordKind.Reads.exists_optional? (hread : kind.Reads read? P) (hsound : v.Sound)
    (h : (FieldType.optional (.record kind)).Fits v) :
    ∃ o, optional? read? v = some o := by
  rcases h.cases_optional with rfl | h
  · exact ⟨none, rfl⟩
  · obtain ⟨fields, given, rfl⟩ := h.exists_record
    obtain ⟨b, hb, -⟩ := hread fields given hsound
    exact ⟨some b, by simp [optional?, hb]⟩

end Readers

/-- Every field of a record with sound fields is sound, also one that is not there. -/
theorem fieldOf_sound {fields : List (String × Value)} (h : ∀ e ∈ fields, e.2.Sound) (name : String) :
    (fieldOf fields name).Sound := by
  unfold fieldOf
  cases hfound : lookup? name fields with
  | none => exact Value.sound_null
  | some v => exact h _ (mem_of_lookup? hfound)

end SqlComposer
