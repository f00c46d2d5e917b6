import SqlComposer.Proofs.Layout

/-!
# What composing a query does

Every composition either fails with the first of its issues, whatever the plan, or it extends
the plan by a layout. `Composes` says this of one action and is closed under sequencing, so each
clause gets one statement of its own and `compile_eq` is put together from them: a query is
rejected for the first of `Query.issues`, and if there are none, its statement, its slots and its
number of caller values are those of `Query.layout`.

The issues of a query do not depend on the mode.
-/

set_option autoImplicit false

namespace SqlComposer

open SqlComposer.Sql SqlComposer.Number

/-! ## Outcomes -/

/-- The first issue, or else a result. -/
def outcome {α : Type} (issues : List Rejection) (a : α) : Except Rejection α :=
  match issues with
  | [] => .ok a
  | r :: _ => .error r

@[simp] theorem outcome_nil {α : Type} (a : α) : outcome [] a = .ok a := rfl

/-- The issues of a step come before those of what follows it. -/
theorem outcome_bind {α β : Type} {issues issues' : List Rejection} {a : α} {b : β}
    {f : α → Except Rejection β} (hf : f a = outcome issues' b) :
    (outcome issues a >>= f) = outcome (issues ++ issues') b := by
  cases issues with
  | nil => exact hf
  | cons r rest => rfl

/-- Turning a result into another leaves the issues as they are. -/
theorem outcome_map {α β : Type} (issues : List Rejection) (a : α) (g : α → β) :
    (outcome issues a >>= fun x => Except.ok (g x)) = outcome issues (g a) := by
  cases issues <;> rfl

theorem outcome_eq_ok_iff {α : Type} {issues : List Rejection} {a b : α} :
    outcome issues a = .ok b ↔ issues = [] ∧ a = b := by
  cases issues <;> simp [outcome]

theorem outcome_eq_error_iff {α : Type} {issues : List Rejection} {a : α} {r : Rejection} :
    outcome issues a = .error r ↔ issues.head? = some r := by
  cases issues <;> simp [outcome]

/-- Steps over a list have the issues of their items in order. -/
theorem mapM_eq_outcome {α β : Type} (xs : List α) {f : α → Except Rejection β}
    {issues : α → List Rejection} {g : α → β} (hf : ∀ x, f x = outcome (issues x) (g x)) :
    xs.mapM f = outcome (xs.flatMap issues) (xs.map g) := by
  induction xs with
  | nil => rfl
  | cons x xs ih =>
    rw [List.mapM_cons, hf x, ih, List.flatMap_cons, List.map_cons]
    exact outcome_bind (outcome_map (xs.flatMap issues) (xs.map g) (g x :: ·))

/-- A composition fails with the first of its issues or else gives `a` and extends the plan by a
layout, whatever the plan is. -/
def Composes {α : Type} (act : Compose α) (issues : List Rejection) (a : α) (l : Layout) : Prop :=
  ∀ plan, act plan = outcome issues (a, plan.extend l)

namespace Composes

variable {α β : Type}

theorem pure (a : α) : Composes (Pure.pure a) [] a [] := by
  intro plan
  rw [BindPlan.extend_nil]
  rfl

/-- A composition after another has the issues and the layout of both in order. -/
theorem bind {act : Compose α} {f : α → Compose β} {issues issues' : List Rejection} {a : α}
    {b : β} {l m : Layout} (h : Composes act issues a l) (h' : Composes (f a) issues' b m) :
    Composes (act >>= f) (issues ++ issues') b (l ++ m) := by
  intro plan
  have hbind : (act >>= f) plan = act plan >>= fun p => f p.1 p.2 := rfl
  rw [hbind, h plan]
  apply outcome_bind
  rw [h' (plan.extend l), BindPlan.extend_append]

/-- A composition whose result is only turned into another. -/
theorem map {act : Compose α} {issues : List Rejection} {a : α} {l : Layout}
    (h : Composes act issues a l) (g : α → β) :
    Composes (act >>= fun x => Pure.pure (g x)) issues (g a) l := by
  simpa using h.bind (f := fun x => Pure.pure (g x)) (pure (g a))

/-- Layouts that extend every plan alike are as good as each other. -/
theorem congr {act : Compose α} {issues issues' : List Rejection} {a a' : α} {l l' : Layout}
    (h : Composes act issues a l) (hissues : issues = issues') (ha : a = a')
    (hl : ∀ plan : BindPlan, plan.extend l = plan.extend l') : Composes act issues' a' l' := by
  subst hissues ha
  intro plan
  rw [h plan, hl plan]

theorem text (s : String) : Composes (Compose.text s) [] s [.caller s] := by
  intro plan
  simp [Compose.text]

theorem values (vs : List Value) : Composes (Compose.values vs) [] () [.own vs] := by
  intro plan
  simp [Compose.values]

/-- A step without a plan leaves the plan as it is. -/
theorem lift {e : Except Rejection α} {issues : List Rejection} {a : α}
    (h : e = outcome issues a) : Composes (StateT.lift e) issues a [] := by
  intro plan
  have hlift : (StateT.lift e : Compose α) plan = e >>= fun x => .ok (x, plan) := rfl
  rw [hlift, h, BindPlan.extend_nil]
  exact outcome_map issues a (·, plan)

/-- What is composed for its checks only keeps its issues and its caller values. -/
theorem unemitted {act : Compose α} {issues : List Rejection} {a : α} {ls : List Layout}
    (h : Composes act issues a ls.flatten) :
    Composes (Compose.unemitted act) issues a (Layout.leftOut ls) := by
  intro plan
  unfold Compose.unemitted
  rw [h plan]
  cases issues with
  | nil =>
    simp [BindPlan.extend, BindPlan.keepSlots, Layout.leftOut, Layout.callers, Piece.callers,
      Piece.slots]
  | cons r rest => rfl

/-- Compositions over a list have the issues and the layouts of their items in order. -/
theorem mapM (xs : List α) {f : α → Compose β} {issues : α → List Rejection} {g : α → β}
    {l : α → Layout} (hf : ∀ x, Composes (f x) (issues x) (g x) (l x)) :
    Composes (xs.mapM f) (xs.flatMap issues) (xs.map g) (xs.map l).flatten := by
  induction xs with
  | nil => exact pure []
  | cons x xs ih =>
    rw [List.mapM_cons, List.flatMap_cons, List.map_cons, List.map_cons, List.flatten_cons]
    exact (hf x).bind (ih.map _)

end Composes

/-! ## What is looked at, and the issues found -/

/-- The issue that a text has in a place, if it holds a sign of the denylist. -/
def danger? (e : FragmentKind × String) : Option Rejection :=
  (dangerIn? e.2).map fun sign => .dangerous e.1 e.2 sign

/-- Accepting a fragment gives it unchanged or has its one issue. -/
theorem checkFragment_eq (kind : FragmentKind) (fragment : String) :
    checkFragment kind fragment = outcome (danger? (kind, fragment)).toList fragment := by
  unfold checkFragment danger?
  cases dangerIn? fragment <;> rfl

theorem Composes.checked (kind : FragmentKind) (fragment : String) :
    Composes (Compose.checked kind fragment) (danger? (kind, fragment)).toList fragment [] :=
  Composes.lift (checkFragment_eq kind fragment)

namespace Query

/-- The texts of joins that are looked at. -/
def joinScreened (q : Query) : List (FragmentKind × String) :=
  q.joins.map fun j => (.joinOn, j.on)

/-- The texts of conditions that are looked at: the fragments and the columns of lists, each with
its alias resolved. -/
def conditionScreened (q : Query) : List (FragmentKind × String) :=
  q.conditions.map (fun fragment => (.whereClause, q.aliases.resolveCondition fragment))
    ++ ((activeLists q.whereIn).map (fun e => (.whereClause, q.aliases.resolve e.1))
      ++ (activeLists q.whereNotIn).map (fun e => (.whereClause, q.aliases.resolve e.1)))

/-- The conditions on groups, which are looked at even if nothing is grouped. -/
def havingScreened (q : Query) : List (FragmentKind × String) :=
  q.having.map fun fragment => (.havingClause, fragment)

/-- The texts from `FROM` to `HAVING` that are looked at. -/
def bodyScreened (q : Query) : List (FragmentKind × String) :=
  q.joinScreened ++ (q.conditionScreened ++ q.havingScreened)

/-- The issue of a direction that is none, if there are entries to sort by. -/
def orderIssues (q : Query) : List Rejection :=
  if q.orderBy.isEmpty then []
  else match q.direction with
    | .unknown text => [.unknownDirection text]
    | _ => []

/-- The issue of a bound that cannot be written. -/
def boundIssues : Option RowBound → List Rejection
  | some (.whole n) => if fewDigits n then [] else [.unwritable]
  | some (.real x) => if Number.isFinite x then [] else [.endlessBound x.isNaN]
  | none => []

/-- The issues of the order and the limits. -/
def tailIssues (q : Query) : List Rejection :=
  q.orderIssues ++ (boundIssues q.limit ++ boundIssues q.offset)

mutual

/-- The issues of a query and all queries in it, in the order in which they are found. -/
def issues : Query → List Rejection
  | ⟨tables, idField, fields, joins, conditions, whereIn, whereNotIn, having, groupBy, orderBy,
      direction, limit, offset, distinct, union⟩ =>
    let q : Query := ⟨tables, idField, fields, joins, conditions, whereIn, whereNotIn, having,
      groupBy, orderBy, direction, limit, offset, distinct, union⟩
    fieldIssues fields ++ (q.bodyScreened.filterMap danger?
      ++ (q.tailIssues ++ branchIssues union))

/-- The issues of output columns. -/
def fieldIssues : List (String × FieldSpec Query) → List Rejection
  | [] => []
  | (_, .column _) :: rest => fieldIssues rest
  | (_, .raw text) :: rest => (danger? (.rawField, text)).toList ++ fieldIssues rest
  | (_, .subquery q) :: rest => issues q ++ fieldIssues rest

/-- The issues of union branches. -/
def branchIssues : List Query → List Rejection
  | [] => []
  | q :: rest => issues q ++ branchIssues rest

end

/-! ## What each clause does -/

/-- Looking at texts one by one finds the issues of all of them. -/
theorem flatMap_danger {α : Type} (xs : List α) (f : α → FragmentKind × String) :
    xs.flatMap (fun x => (danger? (f x)).toList) = (xs.map f).filterMap danger? := by
  induction xs with
  | nil => rfl
  | cons x xs ih =>
    rw [List.flatMap_cons, List.map_cons, List.filterMap_cons, ih]
    cases danger? (f x) <;> rfl

theorem joinClause_eq (j : Join) :
    joinClause j = outcome (danger? (.joinOn, j.on)).toList (joinText j) := by
  unfold joinClause
  rw [checkFragment_eq]
  exact outcome_map _ _ _

theorem conditionText_composes (aliases : Aliases) (fragment : String) :
    Composes (conditionText aliases fragment)
      (danger? (.whereClause, aliases.resolveCondition fragment)).toList
      (Layout.text [.caller (aliases.resolveCondition fragment)])
      [.caller (aliases.resolveCondition fragment)] := by
  unfold conditionText
  apply ((Composes.checked _ _).bind (Composes.text _)).congr
  · simp
  · simp [Piece.text]
  · simp

/-- A condition on a column with a list of values is composed of its column, which is looked at
and may have placeholders of its own, and the placeholders of the list. -/
theorem listText_composes (aliases : Aliases) (operator : String) (e : String × List Value) :
    Composes (listColumn aliases e.1 >>= fun col => listCondition col operator e.2)
      (danger? (.whereClause, aliases.resolve e.1)).toList
      (Layout.text (listLayout aliases operator e)) (listLayout aliases operator e) := by
  have hcolumn : Composes (listColumn aliases e.1)
      ((danger? (.whereClause, aliases.resolve e.1)).toList ++ [])
      (column (aliases.resolve e.1)) ([] ++ [.caller (column (aliases.resolve e.1))]) :=
    (Composes.checked _ _).bind (Composes.text _)
  have hlist := (Composes.values e.2).map fun _ =>
    column (aliases.resolve e.1) ++ " " ++ operator ++ " (" ++ placeholders e.2.length ++ ")"
  apply (hcolumn.bind hlist).congr
  · simp
  · simp [listLayout, Piece.text, String.append_assoc]
  · simp [listLayout]

theorem listTexts_composes (aliases : Aliases) (operator : String)
    (lists : List (String × List Value)) :
    Composes (listTexts aliases operator lists)
      (((activeLists lists).map fun e =>
        (FragmentKind.whereClause, aliases.resolve e.1)).filterMap danger?)
      (((activeLists lists).map (listLayout aliases operator)).map Layout.text)
      ((activeLists lists).map (listLayout aliases operator)).flatten := by
  induction lists with
  | nil => exact Composes.pure []
  | cons e lists ih =>
    obtain ⟨key, values⟩ := e
    unfold listTexts
    by_cases hempty : values.isEmpty
    · have hactive : activeLists ((key, values) :: lists) = activeLists lists := by
        simp [activeLists, hempty]
      rw [hactive, if_pos hempty]
      exact ih
    · have hactive : activeLists ((key, values) :: lists)
          = (key, values) :: activeLists lists := by
        simp [activeLists, hempty]
      rw [hactive, if_neg hempty, ← flatMap_danger, List.flatMap_cons, flatMap_danger]
      have hone := listText_composes aliases operator (key, values)
      simpa only [List.map_cons, List.flatten_cons, bind_assoc] using
        hone.bind (ih.map (Layout.text (listLayout aliases operator (key, values)) :: ·))

/-- The clause of conditions is there exactly if there are conditions. -/
theorem conjunction_eq (q : Query) :
    conjunction (q.conditionLayouts.map Layout.text) = q.whereLayouts.map Layout.text := by
  unfold conjunction whereLayouts
  rw [List.isEmpty_map]
  split
  · rfl
  · simp [Layout.text_separated, Piece.text]

theorem whereClause_composes (q : Query) :
    Composes q.whereClause (q.conditionScreened.filterMap danger?)
      (q.whereLayouts.map Layout.text) q.whereLayouts.flatten := by
  have hfragments := Composes.mapM q.conditions (conditionText_composes q.aliases)
  have hin := listTexts_composes q.aliases "IN" q.whereIn
  have hnotIn := listTexts_composes q.aliases "NOT IN" q.whereNotIn
  unfold whereClause
  apply (hfragments.bind (hin.bind (hnotIn.map _))).congr
  · simp [conditionScreened, flatMap_danger]
  · rw [← conjunction_eq]
    simp [conditionLayouts, Function.comp_def]
  · intro plan
    have hflatten : plan.extend q.whereLayouts.flatten = plan.extend q.conditionLayouts.flatten := by
      unfold whereLayouts
      split
      · next hnone => rw [List.isEmpty_iff.mp hnone, List.flatten_nil]
      · simp
    rw [hflatten]
    simp [conditionLayouts]

/-- The clauses on groups emit what has been looked at before. -/
theorem grouping_composes (q : Query) :
    Composes (grouping (q.groupBy.map column) q.having) [] (q.groupLayouts.map Layout.text)
      q.groupLayouts.flatten := by
  unfold grouping groupLayouts
  rw [List.isEmpty_map]
  by_cases hgroup : q.groupBy.isEmpty
  · rw [if_pos hgroup, if_pos hgroup]
    exact Composes.pure []
  · rw [if_neg hgroup, if_neg hgroup]
    by_cases hhaving : q.having.isEmpty
    · simp only [if_pos hhaving]
      apply ((Composes.text _).map fun group => [group]).congr rfl
      · simp [Piece.text]
      · simp
    · simp only [if_neg hhaving]
      apply ((Composes.text _).bind ((Composes.text _).map fun having => [_, having])).congr rfl
      · simp [Piece.text]
      · simp

theorem groupClauses_composes (q : Query) :
    Composes q.groupClauses (q.havingScreened.filterMap danger?) (q.groupLayouts.map Layout.text)
      q.groupLayouts.flatten := by
  have hchecked := Composes.mapM q.having fun fragment =>
    Composes.checked .havingClause fragment
  rw [List.map_id'] at hchecked
  unfold groupClauses
  apply (hchecked.bind q.grouping_composes).congr
  · simp [havingScreened, flatMap_danger]
  · rfl
  · intro plan
    rw [List.map_const', List.flatten_replicate_nil, List.nil_append]

theorem body_composes (q : Query) :
    Composes q.body (q.bodyScreened.filterMap danger?) (q.bodyLayouts.map Layout.text)
      q.bodyLayouts.flatten := by
  have hchecked := Composes.lift (mapM_eq_outcome q.joins joinClause_eq)
  have hjoins := Composes.mapM (q.joins.map joinText) Composes.text
  unfold body
  apply (hchecked.bind (hjoins.bind
    (q.whereClause_composes.bind (q.groupClauses_composes.map _)))).congr
  · simp [bodyScreened, joinScreened, flatMap_danger]
  · simp [bodyLayouts, Piece.text]
  · simp [bodyLayouts, Function.comp_def]

theorem orderClause_eq (q : Query) : q.orderClause = outcome q.orderIssues q.orderText := by
  unfold orderClause orderIssues orderText sharedDirection
  by_cases hempty : q.orderBy.isEmpty
  · simp only [if_pos hempty, outcome_nil]
  · simp only [if_neg hempty]
    cases q.direction <;> rfl

theorem boundClause_eq (keyword : String) (bound : Option RowBound) :
    boundClause keyword bound
      = outcome (boundIssues bound) ((boundLayouts keyword bound).map Layout.text) := by
  have htext (b : RowBound) : (boundLayouts keyword (some b)).map Layout.text
      = [keyword ++ " " ++ toString (boundSize b)] := by
    simp [boundLayouts, Piece.text]
  cases bound with
  | none => rfl
  | some b =>
    rw [htext]
    cases b with
    | whole n =>
      simp only [boundClause, boundIssues, RowBound.magnitude]
      by_cases hfew : fewDigits n
      · rw [if_pos hfew, if_pos hfew]
        rfl
      · rw [if_neg hfew, if_neg hfew]
        rfl
    | real x =>
      simp only [boundClause, boundIssues, RowBound.magnitude]
      by_cases hfinite : Number.isFinite x
      · rw [if_pos hfinite, if_pos hfinite]
        rfl
      · rw [if_neg hfinite, if_neg hfinite]
        rfl

theorem extend_boundLayouts (plan : BindPlan) (keyword : String) (bound : Option RowBound) :
    plan.extend (boundLayouts keyword bound).flatten = plan := by
  cases bound <;> simp [boundLayouts]

theorem tail_composes (q : Query) :
    Composes q.tail q.tailIssues (q.tailLayouts.map Layout.text) q.tailLayouts.flatten := by
  have horder := Composes.lift q.orderClause_eq
  have hlimit := Composes.lift (boundClause_eq "LIMIT" q.limit)
  have hoffset := Composes.lift (boundClause_eq "OFFSET" q.offset)
  unfold tail
  apply (horder.bind ((Composes.text q.orderText).bind (hlimit.bind (hoffset.map _)))).congr
  · simp [tailIssues]
  · simp [tailLayouts, Piece.text]
  · intro plan
    simp [tailLayouts, extend_boundLayouts]

/-! ## Whole queries -/

/-- The columns of a row statement are its head. -/
theorem text_rowHead (distinct : Bool) (columns : List Layout) :
    Layout.text (.fixed (selectText distinct) :: Layout.separated ", " columns)
      = rowHead distinct (columns.map Layout.text) := by
  unfold rowHead selectText
  rw [Layout.text_cons, Layout.text_separated]
  rfl

mutual

/-- A query in row mode composes its layout, with the issues of all queries in it. -/
theorem rowText_composes : (q : Query) →
    Composes (rowText q) (issues q) (Layout.text (rowLayout q)) (rowLayout q)
  | ⟨tables, idField, fields, joins, conditions, whereIn, whereNotIn, having, groupBy, orderBy,
      direction, limit, offset, distinct, union⟩ => by
    let q : Query := ⟨tables, idField, fields, joins, conditions, whereIn, whereNotIn, having,
      groupBy, orderBy, direction, limit, offset, distinct, union⟩
    have hfields := fieldTexts_composes fields
    have hbranches := branchTexts_composes union
    unfold rowText issues rowLayout
    apply (hfields.bind (q.body_composes.bind (q.tail_composes.bind (hbranches.map _)))).congr
    · rfl
    · simp [Layout.text_separated, ← text_rowHead, q]
    · intro plan
      simp [q]

/-- Output columns compose their layouts. -/
theorem fieldTexts_composes : (fields : List (String × FieldSpec Query)) →
    Composes (fieldTexts fields) (fieldIssues fields) ((fieldLayouts fields).map Layout.text)
      (fieldLayouts fields).flatten
  | [] => Composes.pure []
  | (label, .column text) :: rest => by
    have hrest := fieldTexts_composes rest
    unfold fieldTexts fieldIssues fieldLayouts
    apply ((Composes.text _).bind (hrest.map _)).congr
    · rfl
    · simp [Piece.text, String.append_assoc]
    · simp
  | (label, .raw text) :: rest => by
    have hrest := fieldTexts_composes rest
    unfold fieldTexts fieldIssues fieldLayouts
    apply ((Composes.checked _ _).bind ((Composes.text _).bind (hrest.map _))).congr
    · rfl
    · simp [Piece.text, String.append_assoc]
    · simp
  | (label, .subquery q) :: rest => by
    have hsub := rowText_composes q
    have hrest := fieldTexts_composes rest
    unfold fieldTexts fieldIssues fieldLayouts
    apply (hsub.bind (hrest.map _)).congr
    · rfl
    · simp [Piece.text, String.append_assoc]
    · simp

/-- Union branches compose their layouts. -/
theorem branchTexts_composes : (branches : List Query) →
    Composes (branchTexts branches) (branchIssues branches)
      ((branchLayouts branches).map Layout.text) (branchLayouts branches).flatten
  | [] => Composes.pure []
  | q :: rest => by
    have hbranch := rowText_composes q
    have hrest := branchTexts_composes rest
    unfold branchTexts branchIssues branchLayouts
    apply (hbranch.bind (hrest.map _)).congr
    · rfl
    · simp [Piece.text]
    · simp

end

/-- The issues of a query by its fields. -/
theorem issues_eq (q : Query) :
    q.issues = fieldIssues q.fields ++ (q.bodyScreened.filterMap danger?
      ++ (q.tailIssues ++ branchIssues q.union)) := by
  obtain ⟨tables, idField, fields, joins, conditions, whereIn, whereNotIn, having, groupBy,
    orderBy, direction, limit, offset, distinct, union⟩ := q
  rw [issues]

/-- The layout of a query in row mode by its fields. -/
theorem rowLayout_eq (q : Query) :
    q.rowLayout = Layout.separated " "
      ((.fixed (selectText q.distinct) :: Layout.separated ", " (fieldLayouts q.fields))
        :: (q.bodyLayouts ++ (q.tailLayouts ++ branchLayouts q.union))) := by
  obtain ⟨tables, idField, fields, joins, conditions, whereIn, whereNotIn, having, groupBy,
    orderBy, direction, limit, offset, distinct, union⟩ := q
  rw [rowLayout]

/-- The text of a query in count mode has no trace of what is left out. -/
theorem text_countLayout (q : Query) :
    Layout.text q.countLayout
      = " ".intercalate (countHead q.distinct q.idField
          :: (q.bodyLayouts.map Layout.text ++ ["LIMIT 1"])) := by
  have hlast := String.intercalate_append_of_ne_nil
    (l := countHead q.distinct q.idField :: q.bodyLayouts.map Layout.text) (m := ["LIMIT 1"])
    (s := " ") (by simp) (by simp)
  rw [← List.cons_append, hlast]
  simp [countLayout, Layout.leftOut, Layout.text_separated, Piece.text, String.append_assoc]

/-- A query in count mode composes its layout, with the issues of the row mode. -/
theorem countText_composes (q : Query) :
    Composes q.countText q.issues (Layout.text q.countLayout) q.countLayout := by
  have hfields := (fieldTexts_composes q.fields).unemitted
  have htail := q.tail_composes.unemitted
  have hbranches := (branchTexts_composes q.union).unemitted
  unfold countText
  apply (hfields.bind (q.body_composes.bind (htail.bind (hbranches.map _)))).congr
  · rw [issues_eq]
  · rw [text_countLayout]
  · intro plan
    simp [countLayout, BindPlan.extend_leftOut_append]

theorem text_composes (q : Query) (mode : Mode) :
    Composes (q.text mode) q.issues (Layout.text (q.layout mode)) (q.layout mode) := by
  cases mode with
  | row => exact q.rowText_composes
  | count => exact q.countText_composes

/-- What is composed if there are no issues. -/
def composed (q : Query) (mode : Mode) : CompiledQuery :=
  ⟨Layout.text (q.layout mode), Layout.slots 0 (q.layout mode), Layout.callers (q.layout mode)⟩

/-- A query is rejected for its first issue, and without issues it is composed of its layout. -/
theorem compile_eq (q : Query) (mode : Mode) :
    q.compile mode = outcome q.issues (q.composed mode) := by
  have htext : (q.text mode).run .empty
      = outcome q.issues (Layout.text (q.layout mode), BindPlan.empty.extend (q.layout mode)) :=
    q.text_composes mode .empty
  unfold compile
  rw [htext]
  cases q.issues with
  | nil => simp [composed, BindPlan.extend, BindPlan.empty, bind, Except.bind, Pure.pure,
      Except.pure]
  | cons r rest => rfl

/-- A query of one table without clauses. -/
def ofTable (table : String) (fields : List (String × FieldSpec Query)) : Query where
  tables := [table]
  idField := "id"
  fields := fields
  joins := []
  conditions := []
  whereIn := []
  whereNotIn := []
  having := []
  groupBy := []
  orderBy := []
  direction := .absent
  limit := none
  offset := none
  distinct := false
  union := []

end Query

end SqlComposer
