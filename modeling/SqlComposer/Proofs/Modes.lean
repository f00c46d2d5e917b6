import SqlComposer.Proofs.Binding

/-!
# The two modes of a query

Rows and their number are asked for with two statements that the caller binds with the same
values, so both have to filter on the same ones. The row statement is its output columns, its
body and its end; the count statement is a count with the very same body. As the count mode
speaks for the caller's values of the columns that it leaves out, the slots of the body are the
same in both, and what the count binds is the middle of what the rows bind.
-/

set_option autoImplicit false

namespace SqlComposer

open SqlComposer.Sql

namespace Query

/-- The output columns of a row statement. -/
def columnsLayout (q : Query) : Layout :=
  .fixed (selectText q.distinct) :: Layout.separated ", " (fieldLayouts q.fields)

/-- The body of a statement, from `FROM` to `HAVING`. -/
def bodyLayout (q : Query) : Layout := .fixed " " :: Layout.separated " " q.bodyLayouts

/-- The end of a row statement: order, limits and union. -/
def endLayout (q : Query) : Layout :=
  .fixed " " :: Layout.separated " " (q.tailLayouts ++ branchLayouts q.union)

/-- A row statement is its columns, its body and its end. -/
theorem rowLayout_parts (q : Query) :
    q.rowLayout = q.columnsLayout ++ (q.bodyLayout ++ q.endLayout) := by
  have hbody : q.bodyLayouts ≠ [] := by simp [bodyLayouts]
  have hend : q.tailLayouts ++ branchLayouts q.union ≠ [] := by simp [tailLayouts]
  rw [rowLayout_eq, ← List.singleton_append, Layout.separated_append (by simp) (by simp [hbody]),
    Layout.separated_append hbody hend]
  simp [columnsLayout, bodyLayout, endLayout, Layout.separated]

/-- A count statement is a count of the very same body. -/
theorem countLayout_parts (q : Query) :
    q.countLayout = Layout.leftOut (fieldLayouts q.fields)
      ++ (.fixed (countHead q.distinct q.idField) :: (q.bodyLayout
        ++ (Layout.leftOut (q.tailLayouts ++ branchLayouts q.union) ++ [.fixed " LIMIT 1"]))) := by
  have hbody : q.bodyLayouts ≠ [] := by simp [bodyLayouts]
  unfold countLayout
  rw [← List.singleton_append (x := [Piece.fixed (countHead q.distinct q.idField)]),
    Layout.separated_append (by simp) hbody]
  simp [bodyLayout, Layout.separated]

/-- Both modes speak for the same values of the caller. -/
theorem callers_countLayout (q : Query) :
    Layout.callers q.countLayout = Layout.callers q.rowLayout := by
  rw [rowLayout_parts, countLayout_parts]
  simp [columnsLayout, endLayout, Layout.callers_separated, Layout.leftOut, Layout.callers,
    Piece.callers]

/-- The slots of a count statement are those of its body in the row statement. -/
theorem slots_countLayout (q : Query) :
    Layout.slots 0 q.countLayout = Layout.slots (Layout.callers q.columnsLayout) q.bodyLayout := by
  rw [countLayout_parts]
  simp [columnsLayout, Layout.callers_separated, Layout.leftOut, Layout.callers, Piece.callers,
    Piece.slots]

/-- The clauses of a body follow each other, each after a blank. -/
theorem text_bodyLayout (q : Query) :
    Layout.text q.bodyLayout = " " ++ " ".intercalate q.clauses := by
  rw [bodyLayout, Layout.text_cons, Layout.text_separated]
  rfl

/-- The columns of a row statement follow its head. -/
theorem text_columnsLayout (q : Query) :
    Layout.text q.columnsLayout = rowHead q.distinct ((fieldLayouts q.fields).map Layout.text) :=
  text_rowHead q.distinct (fieldLayouts q.fields)

/-- A row statement and a count statement of one query. -/
structure SameBody (q : Query) (row count : CompiledQuery) : Prop where
  /-- Both take the same number of values from the caller. -/
  callers : count.callers = row.callers
  /-- The row statement is its columns, the clauses of the query and its end. -/
  rowText : row.sql
    = rowHead q.distinct ((fieldLayouts q.fields).map Layout.text)
      ++ (" " ++ " ".intercalate q.clauses ++ Layout.text q.endLayout)
  /-- The count statement is a count with the same clauses. -/
  countText : count.sql
    = countHead q.distinct q.idField ++ (" " ++ " ".intercalate q.clauses ++ " LIMIT 1")
  /-- The slots of the count statement are those between columns and end in the row statement. -/
  slots : row.slots = Layout.slots 0 q.columnsLayout ++ (count.slots
    ++ Layout.slots (Layout.callers (q.columnsLayout ++ q.bodyLayout)) q.endLayout)
  /-- The count binds the middle of what the rows bind. -/
  binds : ∀ values : List Value, (values.length : Int) = row.callers →
    ∃ columns middle rest, row.bind values = .ok (columns ++ (middle ++ rest))
      ∧ count.bind values = .ok middle
      ∧ columns.length = (Layout.slots 0 q.columnsLayout).length
      ∧ middle.length = count.slots.length
  /-- Both refuse any other number of values. -/
  refuses : ∀ values : List Value, (values.length : Int) ≠ row.callers →
    ∃ e e', row.bind values = .error (.error e) ∧ e.code = .placeholderMismatch
      ∧ count.bind values = .error (.error e') ∧ e'.code = .placeholderMismatch

/-- What is composed for the rows and for their number has the same body. -/
theorem composed_sameBody (q : Query) : q.SameBody (q.composed .row) (q.composed .count) := by
  have hcallers : (q.composed .count).callers = (q.composed .row).callers :=
    congrArg Int.ofNat q.callers_countLayout
  have hslots : (q.composed .row).slots = Layout.slots 0 q.columnsLayout
      ++ ((q.composed .count).slots
        ++ Layout.slots (Layout.callers (q.columnsLayout ++ q.bodyLayout)) q.endLayout) := by
    have hcount : (q.composed .count).slots = _ := q.slots_countLayout
    rw [hcount]
    change Layout.slots 0 q.rowLayout = _
    rw [rowLayout_parts]
    simp
  refine ⟨hcallers, ?_, ?_, hslots, ?_, ?_⟩
  · change Layout.text q.rowLayout = _
    rw [rowLayout_parts, Layout.text_append, Layout.text_append, text_columnsLayout,
      text_bodyLayout]
  · change Layout.text q.countLayout = _
    rw [countLayout_parts, ← text_bodyLayout]
    simp [Layout.leftOut, Piece.text]
  · intro values hlength
    have hrow := CompiledQuery.bind_of_within hlength (composed_within hlength)
    have hlength' : (values.length : Int) = (q.composed .count).callers := by
      rw [hcallers, hlength]
    have hcount := CompiledQuery.bind_of_within hlength' (composed_within hlength')
    rw [hslots, List.map_append, List.map_append] at hrow
    exact ⟨_, _, _, hrow, hcount, List.length_map _, List.length_map _⟩
  · intro values hlength
    obtain ⟨e, hrow, he⟩ := CompiledQuery.bind_of_ne hlength
    obtain ⟨e', hcount, he'⟩ := CompiledQuery.bind_of_ne (hcallers ▸ hlength)
    exact ⟨e, e', hrow, he, hcount, he'⟩

/-- A query is rejected alike in both modes, or composed in both with the same body. -/
theorem row_and_count_agree (q : Query) :
    (∃ r, q.compile .row = .error r ∧ q.compile .count = .error r)
      ∨ ∃ row count, q.compile .row = .ok row ∧ q.compile .count = .ok count
        ∧ q.SameBody row count := by
  rw [compile_eq, compile_eq]
  cases q.issues with
  | nil => exact Or.inr ⟨_, _, rfl, rfl, q.composed_sameBody⟩
  | cons r rest => exact Or.inl ⟨r, rfl, rfl⟩

end Query

end SqlComposer
