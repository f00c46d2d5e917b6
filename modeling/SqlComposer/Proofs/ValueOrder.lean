import SqlComposer.Proofs.Interleaving
import SqlComposer.Proofs.Modes
import SqlComposer.Proofs.Placeholders

/-!
# The order of the values

What is bound to a statement comes from two sources, the caller and the query itself, and a value
in the wrong slot would go unnoticed. So the order of both is settled here. Everything that a row
statement speaks for is emitted (`Layout.Emitted`), so its slots take the values of the caller from
the first to the last, one after the other. The query's own values stand in the order in which its
tree is walked: `Query.ownInOrder`. What is bound is an interleaving of the two lists.

A count statement emits the body of the query only, so its own values are those of the lists of
the query itself.
-/

set_option autoImplicit false

namespace SqlComposer

open SqlComposer.Sql

/-! ## The two sources of a list of slots -/

/-- The value of the query itself that a slot has, if it has one. -/
def Slot.own? : Slot → Option Value
  | .own v => some v
  | .caller _ => none

/-- What is put into slots interleaves what they take of the caller and what they have
themselves. -/
theorem interleaved_fill (values : List Value) (slots : List Slot) :
    Interleaved ((slots.filterMap Slot.callerIndex?).map fun i => values[i.toNat]?.getD .null)
      (slots.filterMap Slot.own?) (slots.map (Slot.fill values)) := by
  induction slots with
  | nil => exact .nil
  | cons slot slots ih =>
    cases slot with
    | caller index => exact ih.left
    | own v => exact ih.right

namespace Layout

/-- The query's own values in a layout. -/
def ownValues (l : Layout) : List Value :=
  l.flatMap fun
    | .own values => values
    | _ => []

/-- The slots of a layout have its own values, from wherever the caller's values are counted. -/
theorem own_of_slots (first : Nat) (l : Layout) :
    (slots first l).filterMap Slot.own? = ownValues l := by
  induction l generalizing first with
  | nil => rfl
  | cons p l ih =>
    rw [slots_cons, List.filterMap_append, ih, ownValues, ownValues, List.flatMap_cons]
    congr 1
    cases p with
    | fixed text => rfl
    | caller text =>
      simp only [Piece.slots, BindPlan.callerSlots, List.filterMap_map]
      exact List.filterMap_eq_nil_iff.mpr fun _ _ => rfl
    | own values =>
      simp only [Piece.slots, List.filterMap_map]
      exact List.filterMap_some
    | omitted n => rfl

@[simp] theorem ownValues_append (l m : Layout) : ownValues (l ++ m) = ownValues l ++ ownValues m :=
  List.flatMap_append

@[simp] theorem ownValues_fixed (text : String) (l : Layout) :
    ownValues (.fixed text :: l) = ownValues l := rfl

@[simp] theorem ownValues_caller (text : String) (l : Layout) :
    ownValues (.caller text :: l) = ownValues l := rfl

@[simp] theorem ownValues_own (values : List Value) (l : Layout) :
    ownValues (.own values :: l) = values ++ ownValues l := rfl

@[simp] theorem ownValues_nil : ownValues [] = [] := rfl

/-- Separators add no values. -/
@[simp] theorem ownValues_separated (separator : String) (ls : List Layout) :
    ownValues (separated separator ls) = ls.flatMap ownValues := by
  rw [← own_of_slots 0, slots_separated, own_of_slots]
  induction ls with
  | nil => rfl
  | cons l ls ih => rw [List.flatten_cons, ownValues_append, List.flatMap_cons, ih]

/-- The slots of a layout take all values of the caller that it speaks for, one after the other:
nothing that it speaks for is left out. -/
def TakesAll (l : Layout) : Prop :=
  ∀ first : Nat, (slots first l).filterMap Slot.callerIndex?
    = (List.range' first (callers l)).map Int.ofNat

namespace TakesAll

theorem nil : TakesAll [] := fun _ => rfl

theorem append {l m : Layout} (hl : TakesAll l) (hm : TakesAll m) : TakesAll (l ++ m) := by
  intro first
  rw [slots_append, List.filterMap_append, hl, hm, callers_append, ← List.map_append,
    List.range'_append_1]

theorem fixed (text : String) {l : Layout} (hl : TakesAll l) : TakesAll (.fixed text :: l) := by
  intro first
  simpa [callers, Piece.slots, Piece.callers] using hl first

theorem own (values : List Value) {l : Layout} (hl : TakesAll l) :
    TakesAll (.own values :: l) := by
  intro first
  have hnone : (values.map Slot.own).filterMap Slot.callerIndex? = [] := by
    rw [List.filterMap_map]
    exact List.filterMap_eq_nil_iff.mpr fun _ _ => rfl
  simpa [callers, Piece.slots, Piece.callers, hnone] using hl first

theorem caller (text : String) {l : Layout} (hl : TakesAll l) : TakesAll (.caller text :: l) := by
  have htext : TakesAll [.caller text] := by
    intro first
    simp only [slots_cons, slots_nil, Piece.slots, BindPlan.callerSlots, callers, Piece.callers,
      List.append_nil, Nat.add_zero, List.filterMap_map, List.range'_eq_map_range, List.map_map]
    rw [← List.filterMap_eq_map]
    rfl
  exact htext.append hl

theorem flatten {ls : List Layout} (h : ∀ l ∈ ls, TakesAll l) : TakesAll ls.flatten := by
  induction ls with
  | nil => exact nil
  | cons l ls ih =>
    rw [List.flatten_cons]
    exact (h l List.mem_cons_self).append (ih fun m hm => h m (List.mem_cons_of_mem l hm))

theorem separated (separator : String) {ls : List Layout} (h : ∀ l ∈ ls, TakesAll l) :
    TakesAll (Layout.separated separator ls) := by
  intro first
  rw [slots_separated, callers_separated]
  exact flatten h first

end TakesAll

end Layout

namespace Query

/-! ## The values of a query in order -/

/-- The values of some lists, one list after the other. An empty list adds nothing. -/
def listedValues (lists : List (String × List Value)) : List Value := lists.flatMap (·.2)

mutual

/-- The values of a query and of the queries within it, depth first: those of its columns, its own
lists, those of its union. -/
def ownInOrder : Query → List Value
  | ⟨_, _, fields, _, _, whereIn, whereNotIn, _, _, _, _, _, _, _, union⟩ =>
    ownInColumns fields ++ (listedValues whereIn ++ (listedValues whereNotIn ++ ownInUnion union))

/-- The values of the subqueries among output columns. -/
def ownInColumns : List (String × FieldSpec Query) → List Value
  | [] => []
  | (_, .column _) :: rest => ownInColumns rest
  | (_, .raw _) :: rest => ownInColumns rest
  | (_, .subquery q) :: rest => ownInOrder q ++ ownInColumns rest

/-- The values of the branches of a union. -/
def ownInUnion : List Query → List Value
  | [] => []
  | q :: rest => ownInOrder q ++ ownInUnion rest

end

theorem ownInOrder_eq (q : Query) :
    q.ownInOrder = ownInColumns q.fields
      ++ (listedValues q.whereIn ++ (listedValues q.whereNotIn ++ ownInUnion q.union)) := by
  obtain ⟨tables, idField, fields, joins, conditions, whereIn, whereNotIn, having, groupBy,
    orderBy, direction, limit, offset, distinct, union⟩ := q
  rw [ownInOrder]

/-! ## The clauses of a query -/

/-- Lists without values can be left out. -/
theorem listedValues_active (lists : List (String × List Value)) :
    listedValues (activeLists lists) = listedValues lists := by
  unfold listedValues activeLists
  induction lists with
  | nil => rfl
  | cons e lists ih =>
    by_cases hempty : e.2.isEmpty
    · simp [ih, List.isEmpty_iff.mp hempty]
    · simp [hempty, ih]

theorem ownValues_lists (aliases : Aliases) (operator : String)
    (lists : List (String × List Value)) :
    ((activeLists lists).map (listLayout aliases operator)).flatMap Layout.ownValues
      = listedValues lists := by
  rw [← listedValues_active, List.flatMap_map]
  simp [listLayout, listedValues]

theorem ownValues_conditions (q : Query) :
    q.conditionLayouts.flatMap Layout.ownValues
      = listedValues q.whereIn ++ listedValues q.whereNotIn := by
  unfold conditionLayouts
  rw [List.flatMap_append, List.flatMap_append, ownValues_lists, ownValues_lists]
  simp [List.flatMap_map]

/-- From `FROM` to `HAVING`, only the lists of a query have values of its own. -/
theorem ownValues_body (q : Query) :
    q.bodyLayouts.flatMap Layout.ownValues
      = listedValues q.whereIn ++ listedValues q.whereNotIn := by
  have hwhere : q.whereLayouts.flatMap Layout.ownValues
      = listedValues q.whereIn ++ listedValues q.whereNotIn := by
    rw [← ownValues_conditions]
    unfold whereLayouts
    by_cases hnone : q.conditionLayouts.isEmpty
    · simp [List.isEmpty_iff.mp hnone]
    · simp [hnone]
  have hgroup : q.groupLayouts.flatMap Layout.ownValues = [] := by
    unfold groupLayouts
    by_cases hgroups : q.groupBy.isEmpty
    · simp [hgroups]
    · by_cases hhaving : q.having.isEmpty <;> simp [hgroups, hhaving]
  simp [bodyLayouts, List.flatMap_map, hwhere, hgroup]

theorem ownValues_tail (q : Query) : q.tailLayouts.flatMap Layout.ownValues = [] := by
  have hbound (keyword : String) (bound : Option RowBound) :
      (boundLayouts keyword bound).flatMap Layout.ownValues = [] := by
    cases bound <;> simp [boundLayouts]
  simp [tailLayouts, hbound]

theorem takesAll_list (aliases : Aliases) (operator : String) (e : String × List Value) :
    (listLayout aliases operator e).TakesAll :=
  .caller _ (.fixed _ (.own _ (.fixed _ .nil)))

theorem takesAll_conditions (q : Query) : ∀ l ∈ q.conditionLayouts, l.TakesAll := by
  intro l hl
  simp only [conditionLayouts, List.mem_append, List.mem_map] at hl
  rcases hl with ⟨fragment, -, rfl⟩ | ⟨e, -, rfl⟩ | ⟨e, -, rfl⟩
  · exact .caller _ .nil
  · exact takesAll_list q.aliases "IN" e
  · exact takesAll_list q.aliases "NOT IN" e

theorem takesAll_body (q : Query) : ∀ l ∈ q.bodyLayouts, l.TakesAll := by
  have hwhere : ∀ l ∈ q.whereLayouts, l.TakesAll := by
    unfold whereLayouts
    split
    · simp
    · simpa using .fixed _ (.separated _ q.takesAll_conditions)
  have hgroup : ∀ l ∈ q.groupLayouts, l.TakesAll := by
    unfold groupLayouts
    split
    · simp
    · split <;> simp [Layout.TakesAll.caller, Layout.TakesAll.nil]
  intro l hl
  simp only [bodyLayouts, List.mem_cons, List.mem_append, List.mem_map] at hl
  rcases hl with rfl | ⟨j, -, rfl⟩ | hl | hl
  · exact .fixed _ .nil
  · exact .caller _ .nil
  · exact hwhere l hl
  · exact hgroup l hl

theorem takesAll_tail (q : Query) : ∀ l ∈ q.tailLayouts, l.TakesAll := by
  have hbound (keyword : String) (bound : Option RowBound) :
      ∀ l ∈ boundLayouts keyword bound, l.TakesAll := by
    cases bound <;> simp [boundLayouts, Layout.TakesAll.fixed, Layout.TakesAll.nil]
  intro l hl
  simp only [tailLayouts, List.mem_cons, List.mem_append] at hl
  rcases hl with rfl | hl | hl
  · exact .caller _ .nil
  · exact hbound "LIMIT" q.limit l hl
  · exact hbound "OFFSET" q.offset l hl

/-! ## Whole queries -/

mutual

/-- A row statement has the values of its query in order, and emits all that it speaks for. -/
theorem values_of_row : (q : Query) →
    q.rowLayout.ownValues = q.ownInOrder ∧ q.rowLayout.TakesAll
  | ⟨tables, idField, fields, joins, conditions, whereIn, whereNotIn, having, groupBy, orderBy,
      direction, limit, offset, distinct, union⟩ => by
    let q : Query := ⟨tables, idField, fields, joins, conditions, whereIn, whereNotIn, having,
      groupBy, orderBy, direction, limit, offset, distinct, union⟩
    obtain ⟨hfields, hfieldsAll⟩ := values_of_columns fields
    obtain ⟨hunion, hunionAll⟩ := values_of_union union
    change q.rowLayout.ownValues = q.ownInOrder ∧ q.rowLayout.TakesAll
    rw [rowLayout_eq]
    refine ⟨?_, .separated " " ?_⟩
    · rw [ownInOrder_eq, Layout.ownValues_separated, List.flatMap_cons, List.flatMap_append,
        List.flatMap_append, ownValues_body, ownValues_tail, Layout.ownValues_fixed,
        Layout.ownValues_separated, hfields, hunion]
      simp [q]
    · intro l hl
      simp only [List.mem_cons, List.mem_append] at hl
      rcases hl with rfl | hl | hl | hl
      · exact .fixed _ (.separated ", " hfieldsAll)
      · exact q.takesAll_body l hl
      · exact q.takesAll_tail l hl
      · exact hunionAll l hl

/-- Output columns have the values of the subqueries among them. -/
theorem values_of_columns : (fields : List (String × FieldSpec Query)) →
    (fieldLayouts fields).flatMap Layout.ownValues = ownInColumns fields
      ∧ ∀ l ∈ fieldLayouts fields, l.TakesAll
  | [] => by simp [fieldLayouts, ownInColumns]
  | (label, .column text) :: rest => by
    obtain ⟨hrest, hall⟩ := values_of_columns rest
    rw [fieldLayouts, ownInColumns, List.forall_mem_cons]
    exact ⟨by simpa using hrest, .caller _ (.fixed _ .nil), hall⟩
  | (label, .raw text) :: rest => by
    obtain ⟨hrest, hall⟩ := values_of_columns rest
    rw [fieldLayouts, ownInColumns, List.forall_mem_cons]
    exact ⟨by simpa using hrest, .caller _ (.fixed _ .nil), hall⟩
  | (label, .subquery q) :: rest => by
    obtain ⟨hsub, hsubAll⟩ := values_of_row q
    obtain ⟨hrest, hall⟩ := values_of_columns rest
    rw [fieldLayouts, ownInColumns, List.forall_mem_cons]
    exact ⟨by simp [hsub, hrest], .fixed _ (hsubAll.append (.fixed _ .nil)), hall⟩

/-- Union branches have the values of their queries. -/
theorem values_of_union : (branches : List Query) →
    (branchLayouts branches).flatMap Layout.ownValues = ownInUnion branches
      ∧ ∀ l ∈ branchLayouts branches, l.TakesAll
  | [] => by simp [branchLayouts, ownInUnion]
  | q :: rest => by
    obtain ⟨hbranch, hbranchAll⟩ := values_of_row q
    obtain ⟨hrest, hall⟩ := values_of_union rest
    rw [branchLayouts, ownInUnion, List.forall_mem_cons]
    exact ⟨by simp [hbranch, hrest], .fixed _ hbranchAll, hall⟩

end

/-- The own values of a composed query are those of its layout. -/
theorem ownValues_composed (q : Query) (mode : Mode) :
    (q.composed mode).ownValues = (q.layout mode).ownValues := by
  rw [← Layout.own_of_slots 0]
  rfl

/-- How the values of the caller and those of a query go into its statements. -/
structure ValuesInOrder (q : Query) (row count : CompiledQuery) : Prop where
  /-- The slots of the row statement take each value of the caller once, from left to right. -/
  callers : ∃ n : Nat, row.callers = n
    ∧ row.slots.filterMap Slot.callerIndex? = (List.range n).map Int.ofNat
  /-- The row statement has the values of the query and of the queries within it, depth first. -/
  own : row.ownValues = q.ownInOrder
  /-- As many values as the query takes are bound, between its own and in their order. -/
  binds : ∀ values : List Value, (values.length : Int) = row.callers →
    ∃ bound, row.bind values = .ok bound ∧ bound.length = row.slots.length
      ∧ Interleaved values row.ownValues bound
  /-- The count statement has the values of the query itself and of no query within it. -/
  ownCount : count.ownValues = listedValues q.whereIn ++ listedValues q.whereNotIn

/-- No value is lost, duplicated or reordered between a query and what is bound to its
statements. -/
theorem values_in_order {q : Query} {row : CompiledQuery} (h : q.compile .row = .ok row) :
    ∃ count, q.compile .count = .ok count ∧ q.ValuesInOrder row count := by
  rw [compile_eq, outcome_eq_ok_iff] at h
  obtain ⟨hnone, rfl⟩ := h
  refine ⟨q.composed .count, by rw [compile_eq, hnone, outcome_nil], ?_⟩
  obtain ⟨hown, hall⟩ := q.values_of_row
  have hindices : (q.composed .row).slots.filterMap Slot.callerIndex?
      = (List.range (Layout.callers q.rowLayout)).map Int.ofNat := by
    rw [List.range_eq_range']
    exact hall 0
  refine ⟨⟨_, rfl, hindices⟩, (q.ownValues_composed .row).trans hown, ?_, ?_⟩
  · intro values hlength
    have hcount : values.length = Layout.callers q.rowLayout := Int.ofNat_inj.mp hlength
    have htaken : ((q.composed .row).slots.filterMap Slot.callerIndex?).map
        (fun i => values[i.toNat]?.getD .null) = values := by
      rw [hindices, ← hcount, List.map_map]
      apply List.ext_getElem
      · simp
      · intro i hi hi'
        simp [hi']
    have hinterleaved := interleaved_fill values (q.composed .row).slots
    rw [htaken] at hinterleaved
    exact ⟨_, CompiledQuery.bind_of_within hlength (composed_within hlength), List.length_map _,
      hinterleaved⟩
  · rw [ownValues_composed, ← Layout.own_of_slots 0]
    change (Layout.slots 0 q.countLayout).filterMap Slot.own? = _
    rw [slots_countLayout, Layout.own_of_slots, bodyLayout, Layout.ownValues_fixed,
      Layout.ownValues_separated, ownValues_body]

/-- The nested query has the values of its subquery, then its own, then those of the union, and its
count statement has its own only. -/
theorem nested_in_order :
    nested.compile .row = .ok (nested.composed .row)
      ∧ nested.ownInOrder = [.int 1, .int 2, .int 3, .int 4, .int 7]
      ∧ ∃ count, nested.compile .count = .ok count
        ∧ nested.ValuesInOrder (nested.composed .row) count := by
  have hcompile : nested.compile .row = .ok (nested.composed .row) := by
    rw [compile_eq, show nested.issues = [] from rfl, outcome_nil]
  exact ⟨hcompile, rfl, values_in_order hcompile⟩

end Query

end SqlComposer
