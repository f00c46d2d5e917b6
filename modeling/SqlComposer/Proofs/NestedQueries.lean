import SqlComposer.Proofs.Modes
import SqlComposer.Proofs.Placeholders

/-!
# Queries within queries

A subquery among the output columns and a branch of a union are composed in the middle of another
query, with a bind plan that has slots already and has spoken for values of the caller. What comes
out does not depend on that. The text is the one the query has alone, and so are the slots, except
that their indices count on from the values that are spoken for: `Slot.later`.

The layout of a query contains the layouts of all queries in it. So the slots that a statement has
for a query within it are a segment of its slots, and what is bound there is what the query alone
binds of a segment of the caller's values.
-/

set_option autoImplicit false

namespace SqlComposer

open SqlComposer.Sql

/-! ## Slots that count on -/

/-- The slot when `n` values of the caller are spoken for before those of its query. -/
def Slot.later (n : Nat) : Slot → Slot
  | .caller index => .caller (index + n)
  | .own v => .own v

theorem Piece.slots_later (first n : Nat) (p : Piece) :
    p.slots (first + n) = (p.slots first).map (Slot.later n) := by
  cases p with
  | fixed t => rfl
  | caller t =>
    simp only [Piece.slots, BindPlan.callerSlots, List.map_map]
    apply List.map_congr_left
    intro i _
    change Slot.caller ((first + n + i : Nat) : Int) = Slot.caller ((first + i : Nat) + n)
    congr 1
    omega
  | own values =>
    simp only [Piece.slots, List.map_map]
    rfl
  | omitted k => rfl

/-- The slots of a layout differ by where they count from, and in nothing else. -/
theorem Layout.slots_later (first n : Nat) (l : Layout) :
    Layout.slots (first + n) l = (Layout.slots first l).map (Slot.later n) := by
  induction l generalizing first with
  | nil => rfl
  | cons p l ih =>
    rw [Layout.slots_cons, Layout.slots_cons, List.map_append, Piece.slots_later,
      Nat.add_right_comm, ih]

/-- A slot that counts on from `n` takes what the slot itself takes from the values after the
first `n`. -/
theorem Slot.fill_later {values : List Value} {n k : Nat} {slot : Slot} (hslot : slot.Within k) :
    (slot.later n).fill values = slot.fill ((values.drop n).take k) := by
  cases slot with
  | own v => rfl
  | caller index =>
    obtain ⟨hlow, hhigh⟩ := hslot
    have hindex : (index + n).toNat = n + index.toNat := by omega
    have hk : index.toNat < k := by omega
    simp [Slot.later, Slot.fill, hindex, hk]

/-! ## Layouts within layouts -/

namespace Layout

/-- A layout contains another as it is. -/
def Contains (l part : Layout) : Prop := ∃ before after, l = before ++ (part ++ after)

theorem Contains.of_append {l m part : Layout} (h : m.Contains part) (after : Layout) :
    (l ++ (m ++ after)).Contains part := by
  obtain ⟨front, back, rfl⟩ := h
  exact ⟨l ++ front, back ++ after, by simp⟩

theorem Contains.trans {l m part : Layout} (hl : l.Contains m) (hm : m.Contains part) :
    l.Contains part := by
  obtain ⟨before, after, rfl⟩ := hl
  exact hm.of_append after

/-- Separated layouts contain each of them. -/
theorem contains_of_mem {separator : String} {ls : List Layout} {l : Layout} (h : l ∈ ls) :
    (Layout.separated separator ls).Contains l := by
  obtain ⟨before, after, rfl⟩ := List.append_of_mem h
  have hbehind : (Layout.separated separator (l :: after)).Contains l := by
    cases after with
    | nil => exact ⟨[], [], by simp [Layout.separated]⟩
    | cons m after =>
      refine ⟨[], .fixed separator :: Layout.separated separator (m :: after), ?_⟩
      rw [← List.singleton_append, Layout.separated_append (by simp) (by simp)]
      simp [Layout.separated]
  cases before with
  | nil => exact hbehind
  | cons k before =>
    rw [Layout.separated_append (by simp) (by simp)]
    obtain ⟨front, back, hsplit⟩ := hbehind
    exact ⟨Layout.separated separator (k :: before) ++ .fixed separator :: front, back, by
      rw [hsplit]; simp⟩

end Layout

namespace Query

/-- A query is a subquery or a union branch of another one, or of a query within it. -/
inductive NestedIn : Query → Query → Prop
  | column {q parent : Query} {label : String} (h : (label, .subquery q) ∈ parent.fields) :
      NestedIn q parent
  | branch {q parent : Query} (h : q ∈ parent.union) : NestedIn q parent
  | deeper {q r parent : Query} (hq : NestedIn q r) (hr : NestedIn r parent) : NestedIn q parent

/-- The issues and the layout of a subquery are among those of the output columns. -/
theorem mem_columns {fields : List (String × FieldSpec Query)} {label : String} {q : Query}
    (h : (label, .subquery q) ∈ fields) :
    (fieldIssues fields = [] → q.issues = [])
      ∧ (.fixed "(" :: (q.rowLayout ++ [.fixed (") AS " ++ quoteName label)]))
        ∈ fieldLayouts fields := by
  induction fields with
  | nil => cases h
  | cons e fields ih =>
    rcases List.mem_cons.mp h with rfl | hrest
    · rw [fieldIssues, fieldLayouts]
      exact ⟨fun hnone => (List.append_eq_nil_iff.mp hnone).1, List.mem_cons_self⟩
    · obtain ⟨hissues, hlayout⟩ := ih hrest
      obtain ⟨other, spec⟩ := e
      cases spec with
      | column text =>
        rw [fieldIssues, fieldLayouts]
        exact ⟨hissues, List.mem_cons_of_mem _ hlayout⟩
      | raw text =>
        rw [fieldIssues, fieldLayouts]
        exact ⟨fun hnone => hissues (List.append_eq_nil_iff.mp hnone).2,
          List.mem_cons_of_mem _ hlayout⟩
      | subquery sub =>
        rw [fieldIssues, fieldLayouts]
        exact ⟨fun hnone => hissues (List.append_eq_nil_iff.mp hnone).2,
          List.mem_cons_of_mem _ hlayout⟩

/-- The issues and the layout of a branch are among those of the union. -/
theorem mem_branches {branches : List Query} {q : Query} (h : q ∈ branches) :
    (branchIssues branches = [] → q.issues = [])
      ∧ (.fixed "UNION " :: q.rowLayout) ∈ branchLayouts branches := by
  induction branches with
  | nil => cases h
  | cons r branches ih =>
    rw [branchIssues, branchLayouts]
    rcases List.mem_cons.mp h with rfl | hrest
    · exact ⟨fun hnone => (List.append_eq_nil_iff.mp hnone).1, List.mem_cons_self⟩
    · obtain ⟨hissues, hlayout⟩ := ih hrest
      exact ⟨fun hnone => hissues (List.append_eq_nil_iff.mp hnone).2,
        List.mem_cons_of_mem _ hlayout⟩

/-- A query that is not rejected has no rejected query within it, and contains their layouts. -/
theorem NestedIn.contained {q parent : Query} (h : q.NestedIn parent) :
    (parent.issues = [] → q.issues = []) ∧ parent.rowLayout.Contains q.rowLayout := by
  induction h with
  | @column q parent label h =>
    obtain ⟨hissues, hlayout⟩ := mem_columns h
    refine ⟨?_, ?_⟩
    · rw [issues_eq]
      exact fun hnone => hissues (List.append_eq_nil_iff.mp hnone).1
    · have hcolumn : (Layout.separated ", " (fieldLayouts parent.fields)).Contains q.rowLayout :=
        (Layout.contains_of_mem hlayout).trans ⟨[.fixed "("], [_], rfl⟩
      rw [rowLayout_parts, columnsLayout]
      exact hcolumn.of_append (l := [.fixed (selectText parent.distinct)])
        (parent.bodyLayout ++ parent.endLayout)
  | @branch q parent h =>
    obtain ⟨hissues, hlayout⟩ := mem_branches h
    refine ⟨?_, ?_⟩
    · rw [issues_eq]
      intro hnone
      exact hissues (List.append_eq_nil_iff.mp (List.append_eq_nil_iff.mp
        (List.append_eq_nil_iff.mp hnone).2).2).2
    · have hend : (Layout.separated " " (parent.tailLayouts ++ branchLayouts parent.union)).Contains
          q.rowLayout :=
        (Layout.contains_of_mem (List.mem_append_right _ hlayout)).trans
          ⟨[.fixed "UNION "], [], by simp⟩
      have hsplit : parent.rowLayout = (parent.columnsLayout ++ (parent.bodyLayout ++ [.fixed " "]))
          ++ (Layout.separated " " (parent.tailLayouts ++ branchLayouts parent.union) ++ []) := by
        rw [rowLayout_parts, endLayout]
        simp
      rw [hsplit]
      exact hend.of_append []
  | deeper _ _ ihq ihr =>
    exact ⟨fun hnone => ihq.1 (ihr.1 hnone), ihr.2.trans ihq.2⟩

end Query

/-! ## Queries composed within others -/

/-- A composed query stands in another between two texts and between two lists of slots, after
`n` values of the caller are spoken for. -/
structure CompiledQuery.StandsIn (part whole : CompiledQuery) (before after : String)
    (front back : List Slot) (n : Nat) : Prop where
  text : whole.sql = before ++ part.sql ++ after
  slots : whole.slots = front ++ (part.slots.map (Slot.later n) ++ back)
  /-- What is bound to the slots of the part is what the part binds of the values from the `n`-th
  on, as many as it takes. -/
  binds : ∀ values : List Value, (values.length : Int) = whole.callers →
    ∃ vs ms ws, whole.bind values = .ok (vs ++ (ms ++ ws))
      ∧ part.bind ((values.drop n).take part.callers.toNat) = .ok ms
      ∧ vs.length = front.length ∧ ms.length = part.slots.length

namespace Query

/-- A query composed after others either is rejected like alone or extends the plan by what it has
alone. -/
theorem rowText_eq (q : Query) (plan : BindPlan) :
    (rowText q).run plan = outcome q.issues ((q.composed .row).sql,
      ⟨plan.slots ++ (q.composed .row).slots.map (Slot.later plan.callers),
        plan.callers + Layout.callers q.rowLayout⟩) := by
  have hextend : plan.extend q.rowLayout
      = ⟨plan.slots ++ (q.composed .row).slots.map (Slot.later plan.callers),
        plan.callers + Layout.callers q.rowLayout⟩ := by
    have hslots := Layout.slots_later 0 plan.callers q.rowLayout
    rw [Nat.zero_add] at hslots
    rw [BindPlan.extend, hslots]
    rfl
  rw [← hextend]
  exact q.rowText_composes plan

/-- A part of the layout of a query stands in the composed query as it does alone. -/
theorem standsIn_of_layout {q parent : Query} {before after : Layout}
    (hlayout : parent.rowLayout = before ++ (q.rowLayout ++ after)) :
    (q.composed .row).StandsIn (parent.composed .row) (Layout.text before) (Layout.text after)
      (Layout.slots 0 before)
      (Layout.slots (Layout.callers before + Layout.callers q.rowLayout) after)
      (Layout.callers before) := by
  have htext : (parent.composed .row).sql
      = Layout.text before ++ (q.composed .row).sql ++ Layout.text after := by
    change Layout.text parent.rowLayout = _ ++ Layout.text q.rowLayout ++ _
    rw [hlayout, Layout.text_append, Layout.text_append, String.append_assoc]
  have hslots : (parent.composed .row).slots = Layout.slots 0 before
      ++ ((q.composed .row).slots.map (Slot.later (Layout.callers before))
        ++ Layout.slots (Layout.callers before + Layout.callers q.rowLayout) after) := by
    change Layout.slots 0 parent.rowLayout
      = _ ++ ((Layout.slots 0 q.rowLayout).map (Slot.later (Layout.callers before)) ++ _)
    rw [hlayout, ← Layout.slots_later, Layout.slots_append, Layout.slots_append, Nat.zero_add]
  refine ⟨htext, hslots, ?_⟩
  intro values hlength
  have hcallers : values.length
      = Layout.callers before + (Layout.callers q.rowLayout + Layout.callers after) := by
    have hwhole : values.length = Layout.callers parent.rowLayout := Int.ofNat_inj.mp hlength
    rw [hwhole, hlayout, Layout.callers_append, Layout.callers_append]
  have hslice : ((values.drop (Layout.callers before)).take (q.composed .row).callers.toNat).length
      = Layout.callers q.rowLayout := by
    have hpart : (q.composed .row).callers.toNat = Layout.callers q.rowLayout := Int.toNat_natCast _
    rw [hpart, List.length_take, List.length_drop]
    omega
  have hpart := CompiledQuery.bind_of_within (c := q.composed .row) (congrArg Int.ofNat hslice)
    (composed_within (congrArg Int.ofNat hslice))
  have hwhole := CompiledQuery.bind_of_within hlength (composed_within hlength)
  have hfill : (q.composed .row).slots.map
        (fun slot => (slot.later (Layout.callers before)).fill values)
      = (q.composed .row).slots.map (Slot.fill
        ((values.drop (Layout.callers before)).take (q.composed .row).callers.toNat)) := by
    apply List.map_congr_left
    intro slot hslot
    exact Slot.fill_later (Layout.within_of_slots hslot)
  rw [hslots, List.map_append, List.map_append, List.map_map, Function.comp_def, hfill] at hwhole
  exact ⟨_, _, _, hwhole, hpart, List.length_map _, List.length_map _⟩

/-- A query is composed after others as it is alone, its slots counting on from theirs. So each
query within another stands in its statement with its own text, and it is bound to its own part of
the values. If the free text of the outer query is closed, the placeholders before the inner query
are those of the slots before it. -/
theorem composes_as_alone (q : Query) :
    (∀ plan : BindPlan,
      (∃ r, q.compile .row = .error r ∧ (rowText q).run plan = .error r)
        ∨ ∃ alone later, q.compile .row = .ok alone
          ∧ (rowText q).run plan = .ok (alone.sql, later)
          ∧ later.slots = plan.slots ++ alone.slots.map (Slot.later plan.callers)
          ∧ (later.callers : Int) = plan.callers + alone.callers)
      ∧ ∀ parent whole, q.NestedIn parent → parent.compile .row = .ok whole →
        ∃ alone before after front back n, q.compile .row = .ok alone
          ∧ alone.StandsIn whole before after front back n
          ∧ ((∀ t ∈ parent.texts, QuoteClosed t) → countPlaceholders before = front.length) := by
  refine ⟨?_, ?_⟩
  · intro plan
    rw [compile_eq, rowText_eq]
    cases q.issues with
    | nil => exact .inr ⟨_, _, rfl, rfl, rfl, rfl⟩
    | cons r rest => exact .inl ⟨r, rfl, rfl⟩
  · intro parent whole hnested hwhole
    rw [compile_eq, outcome_eq_ok_iff] at hwhole
    obtain ⟨hnone, rfl⟩ := hwhole
    obtain ⟨hissues, before, after, hlayout⟩ := hnested.contained
    refine ⟨q.composed .row, _, _, _, _, _, ?_, standsIn_of_layout hlayout, ?_⟩
    · rw [compile_eq, hissues hnone, outcome_nil]
    · intro htexts
      have hsound := (parent.rowLayout_sound htexts).pieces
      refine (Layout.text_of_sound (fun p hp => hsound p ?_) 0).2
      rw [hlayout]
      exact List.mem_append_left _ hp

/-- The dearest items of an order, as a query of their own. -/
def dearestItems : Query :=
  { ofTable "items" [("m", .raw "MAX(price) + ?")] with
    conditions := ["kind = 'a?'"], whereIn := [("state", [.int 1, .int 2])] }

/-- The subquery of the nested query is composed after a plan with a slot of its own and one value
spoken for, and it stands in the statement of the nested query. -/
theorem dearestItems_stand :
    dearestItems.NestedIn nested
      ∧ nested.compile .row = .ok (nested.composed .row)
      ∧ ((rowText dearestItems).run ⟨[.own .null], 1⟩).toOption.map (fun r => r.2.callers) = some 2
      ∧ ∃ alone before after front back n, dearestItems.compile .row = .ok alone
        ∧ alone.StandsIn (nested.composed .row) before after front back n
        ∧ ((∀ t ∈ nested.texts, QuoteClosed t) → countPlaceholders before = front.length) := by
  have hnested : dearestItems.NestedIn nested := .column (List.mem_cons_of_mem _ List.mem_cons_self)
  have hcompile : nested.compile .row = .ok (nested.composed .row) := by
    rw [compile_eq, show nested.issues = [] from rfl, outcome_nil]
  refine ⟨hnested, hcompile, ?_, (composes_as_alone dearestItems).2 nested _ hnested hcompile⟩
  rw [rowText_eq, show dearestItems.issues = [] from rfl]
  rfl

end Query

end SqlComposer
