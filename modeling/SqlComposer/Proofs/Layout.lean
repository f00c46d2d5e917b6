import SqlComposer.Query.Compile

/-!
# The layout of a composed query

Composing a query threads a bind plan through every clause. `Query.layout` says without any plan
what comes out: a query in a mode is laid out as a list of pieces, and each piece is fixed text,
text of the caller with the caller's placeholders, or the placeholders of one list of the
query's own values. The text of a layout is the text of its pieces in a row, and its slots are
read off the same pieces, so statement and slots cannot drift apart.
-/

set_option autoImplicit false

namespace SqlComposer

open SqlComposer.Sql SqlComposer.Number

/-! ## Pieces and layouts -/

/-- A part of a composed statement, by who gives the values of its placeholders. -/
inductive Piece where
  /-- Text without placeholders: keywords, quoted names, punctuation, numbers. -/
  | fixed (text : String)
  /-- Text whose placeholders take values of the caller. -/
  | caller (text : String)
  /-- One placeholder for each of the query's own values. -/
  | own (values : List Value)
  /-- Nothing: text that is left out, but whose placeholders keep their values of the caller. -/
  | omitted (callers : Nat)

/-- The text of a piece. -/
def Piece.text : Piece → String
  | .fixed text => text
  | .caller text => text
  | .own values => placeholders values.length
  | .omitted _ => ""

/-- The number of the caller's values that a piece speaks for. -/
def Piece.callers : Piece → Nat
  | .fixed _ => 0
  | .caller text => countPlaceholders text
  | .own _ => 0
  | .omitted n => n

/-- The slots of a piece before which `first` values of the caller are spoken for. -/
def Piece.slots (first : Nat) : Piece → List Slot
  | .fixed _ => []
  | .caller text => BindPlan.callerSlots first (countPlaceholders text)
  | .own values => values.map .own
  | .omitted _ => []

/-- The pieces of a statement from left to right. -/
abbrev Layout := List Piece

namespace Layout

/-- The text of a layout. -/
def text : Layout → String
  | [] => ""
  | p :: l => p.text ++ text l

/-- The number of the caller's values that a layout speaks for. -/
def callers : Layout → Nat
  | [] => 0
  | p :: l => p.callers + callers l

/-- The slots of a layout before which `first` values of the caller are spoken for. -/
def slots (first : Nat) : Layout → List Slot
  | [] => []
  | p :: l => p.slots first ++ slots (first + p.callers) l

/-- Layouts in a row with fixed text between them. -/
def separated (separator : String) (ls : List Layout) : Layout :=
  [Piece.fixed separator].intercalate ls

/-- What is left of layouts that are not emitted. -/
def leftOut (ls : List Layout) : Layout := [.omitted (callers ls.flatten)]

@[simp] theorem text_nil : text [] = "" := rfl

@[simp] theorem text_cons (p : Piece) (l : Layout) : text (p :: l) = p.text ++ text l := rfl

@[simp] theorem text_append (l m : Layout) : text (l ++ m) = text l ++ text m := by
  induction l with
  | nil => simp
  | cons p l ih => simp [ih, String.append_assoc]

@[simp] theorem callers_append (l m : Layout) : callers (l ++ m) = callers l + callers m := by
  induction l with
  | nil => simp [callers]
  | cons p l ih => simp [callers, ih, Nat.add_assoc]

@[simp] theorem slots_nil (first : Nat) : slots first [] = [] := rfl

@[simp] theorem slots_cons (first : Nat) (p : Piece) (l : Layout) :
    slots first (p :: l) = p.slots first ++ slots (first + p.callers) l := rfl

/-- The slots of the second of two layouts start where the caller's values of the first end. -/
@[simp] theorem slots_append (first : Nat) (l m : Layout) :
    slots first (l ++ m) = slots first l ++ slots (first + callers l) m := by
  induction l generalizing first with
  | nil => simp [callers]
  | cons p l ih => simp [callers, ih, Nat.add_assoc]

/-- The text of separated layouts is their texts with the separator between them. -/
theorem text_separated (separator : String) (ls : List Layout) :
    text (separated separator ls) = separator.intercalate (ls.map text) := by
  unfold separated
  induction ls with
  | nil => simp
  | cons l ls ih =>
    cases ls with
    | nil => simp
    | cons m ls =>
      rw [List.intercalate_cons_cons, List.map_cons, List.map_cons, String.intercalate_cons_cons,
        ← List.map_cons, ← ih]
      simp [Piece.text, String.append_assoc]

/-- Layouts separated in two parts, neither of them empty. -/
theorem separated_append {ls ms : List Layout} (hl : ls ≠ []) (hm : ms ≠ []) (separator : String) :
    separated separator (ls ++ ms)
      = separated separator ls ++ .fixed separator :: separated separator ms := by
  unfold separated
  induction ls with
  | nil => exact absurd rfl hl
  | cons l ls ih =>
    cases ls with
    | nil => simp [List.intercalate_cons_of_ne_nil hm]
    | cons k ls =>
      rw [List.cons_append, List.cons_append, List.intercalate_cons_cons, ← List.cons_append,
        ih (by simp), List.intercalate_cons_cons]
      simp

/-- Separators speak for no values. -/
theorem callers_separated (separator : String) (ls : List Layout) :
    callers (separated separator ls) = callers ls.flatten := by
  unfold separated
  induction ls with
  | nil => simp
  | cons l ls ih =>
    cases ls with
    | nil => simp
    | cons m ls =>
      rw [List.intercalate_cons_cons, callers_append, callers_append, ih]
      simp [callers, Piece.callers]

/-- Separators have no slots. -/
theorem slots_separated (first : Nat) (separator : String) (ls : List Layout) :
    slots first (separated separator ls) = slots first ls.flatten := by
  unfold separated
  induction ls generalizing first with
  | nil => simp
  | cons l ls ih =>
    cases ls with
    | nil => simp
    | cons m ls =>
      rw [List.intercalate_cons_cons, slots_append, slots_append, ih]
      simp [callers, Piece.callers, Piece.slots]

end Layout

/-- A bind plan after the placeholders of a layout. -/
def BindPlan.extend (plan : BindPlan) (l : Layout) : BindPlan :=
  ⟨plan.slots ++ Layout.slots plan.callers l, plan.callers + Layout.callers l⟩

namespace BindPlan

@[simp] theorem extend_nil (plan : BindPlan) : plan.extend [] = plan := by
  simp [extend, Layout.callers]

@[simp] theorem extend_append (plan : BindPlan) (l m : Layout) :
    plan.extend (l ++ m) = (plan.extend l).extend m := by
  simp [extend, Nat.add_assoc]

@[simp] theorem extend_separated (plan : BindPlan) (separator : String) (ls : List Layout) :
    plan.extend (Layout.separated separator ls) = plan.extend ls.flatten := by
  simp [extend, Layout.slots_separated, Layout.callers_separated]

@[simp] theorem extend_fixed (plan : BindPlan) (text : String) (l : Layout) :
    plan.extend (.fixed text :: l) = plan.extend l := by
  simp [extend, Piece.slots, Piece.callers, Layout.callers]

@[simp] theorem extend_caller (plan : BindPlan) (text : String) (l : Layout) :
    plan.extend (.caller text :: l) = (plan.addText text).extend l := by
  simp [extend, addText, addCallers, Piece.slots, Piece.callers, Layout.callers, Nat.add_assoc]

@[simp] theorem extend_own (plan : BindPlan) (values : List Value) (l : Layout) :
    plan.extend (.own values :: l) = (plan.addValues values).extend l := by
  simp [extend, addValues, Piece.slots, Piece.callers, Layout.callers]

/-- Leaving out layouts at once or one after the other is the same to the caller. -/
theorem extend_leftOut_append (plan : BindPlan) (ls ms : List Layout) :
    plan.extend (Layout.leftOut (ls ++ ms))
      = (plan.extend (Layout.leftOut ls)).extend (Layout.leftOut ms) := by
  simp [extend, Layout.leftOut, Layout.callers, Piece.callers, Piece.slots, Nat.add_assoc]

end BindPlan

namespace Query

/-! ## The layout of each clause -/

/-- A join as text, whatever it is joined on. -/
def joinText (j : Join) : String :=
  j.kind.keyword ++ " JOIN " ++ quoteName j.table ++ " ON " ++ j.on

/-- The lists of values that are conditions: an empty list is none. -/
def activeLists (lists : List (String × List Value)) : List (String × List Value) :=
  lists.filter fun e => !e.2.isEmpty

/-- A condition on a column with a list of values. -/
def listLayout (aliases : Aliases) (operator : String) (e : String × List Value) : Layout :=
  [.caller (column (aliases.resolve e.1)), .fixed (" " ++ operator ++ " ("), .own e.2, .fixed ")"]

/-- All conditions of a query: its fragments, then its lists. -/
def conditionLayouts (q : Query) : List Layout :=
  q.conditions.map (fun fragment => [Piece.caller (q.aliases.resolveCondition fragment)])
    ++ ((activeLists q.whereIn).map (listLayout q.aliases "IN")
      ++ (activeLists q.whereNotIn).map (listLayout q.aliases "NOT IN"))

/-- The clause of conditions that all have to hold, if there are any. -/
def whereLayouts (q : Query) : List Layout :=
  if q.conditionLayouts.isEmpty then []
  else [.fixed "WHERE " :: Layout.separated " AND " q.conditionLayouts]

/-- The clauses on groups, if anything is grouped. -/
def groupLayouts (q : Query) : List Layout :=
  if q.groupBy.isEmpty then []
  else [.caller ("GROUP BY " ++ ", ".intercalate (q.groupBy.map column))]
    :: (if q.having.isEmpty then []
      else [[.caller ("HAVING " ++ " AND ".intercalate q.having)]])

/-- The clauses from `FROM` to `HAVING`. -/
def bodyLayouts (q : Query) : List Layout :=
  [.fixed q.fromClause] :: (q.joins.map (fun j => [Piece.caller (joinText j)])
    ++ (q.whereLayouts ++ q.groupLayouts))

/-- The clauses from `FROM` to `HAVING` as text. -/
def clauses (q : Query) : List String := q.bodyLayouts.map Layout.text

/-- The direction that entries without one of their own are sorted in. -/
def sharedDirection (q : Query) : Option SortDirection :=
  match q.direction with
  | .given d => some d
  | _ => none

/-- The `ORDER BY` clause. -/
def orderText (q : Query) : String :=
  ordering (if q.orderBy.isEmpty then [usualTerm q.idField]
    else q.orderBy.map (orderTerm q.aliases q.sharedDirection))

/-- The whole part of the magnitude of a bound. -/
def boundSize : RowBound → Nat
  | .whole n => n.natAbs
  | .real x => floorAbs x

/-- A bound with its keyword, if it is set. -/
def boundLayouts (keyword : String) : Option RowBound → List Layout
  | none => []
  | some b => [[.fixed (keyword ++ " " ++ toString (boundSize b))]]

/-- The order and the limits. -/
def tailLayouts (q : Query) : List Layout :=
  [.caller q.orderText] :: (boundLayouts "LIMIT" q.limit ++ boundLayouts "OFFSET" q.offset)

/-- The beginning of a row statement, up to its columns. -/
def selectText (distinct : Bool) : String := if distinct then "SELECT DISTINCT " else "SELECT "

mutual

/-- A query in row mode. -/
def rowLayout : Query → Layout
  | ⟨tables, idField, fields, joins, conditions, whereIn, whereNotIn, having, groupBy, orderBy,
      direction, limit, offset, distinct, union⟩ =>
    let q : Query := ⟨tables, idField, fields, joins, conditions, whereIn, whereNotIn, having,
      groupBy, orderBy, direction, limit, offset, distinct, union⟩
    Layout.separated " "
      ((.fixed (selectText distinct) :: Layout.separated ", " (fieldLayouts fields))
        :: (q.bodyLayouts ++ (q.tailLayouts ++ branchLayouts union)))

/-- The output columns. -/
def fieldLayouts : List (String × FieldSpec Query) → List Layout
  | [] => []
  | (label, .column text) :: rest =>
    [.caller (column text), .fixed (" AS " ++ quoteName label)] :: fieldLayouts rest
  | (label, .raw text) :: rest =>
    [.caller text, .fixed (" AS " ++ quoteName label)] :: fieldLayouts rest
  | (label, .subquery q) :: rest =>
    (.fixed "(" :: (rowLayout q ++ [.fixed (") AS " ++ quoteName label)])) :: fieldLayouts rest

/-- The branches of a union. -/
def branchLayouts : List Query → List Layout
  | [] => []
  | q :: rest => (.fixed "UNION " :: rowLayout q) :: branchLayouts rest

end

/-- A query in count mode. Output columns, order and union are left out. -/
def countLayout (q : Query) : Layout :=
  Layout.leftOut (fieldLayouts q.fields)
    ++ (Layout.separated " " ([.fixed (countHead q.distinct q.idField)] :: q.bodyLayouts)
      ++ (Layout.leftOut (q.tailLayouts ++ branchLayouts q.union) ++ [.fixed " LIMIT 1"]))

/-- A query in either mode. -/
def layout (q : Query) : Mode → Layout
  | .row => rowLayout q
  | .count => q.countLayout

end Query

end SqlComposer
