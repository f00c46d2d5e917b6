import SqlComposer.Proofs.Binding
import SqlComposer.Proofs.Resolution

/-!
# Every placeholder has its slot

Slots are counted text by text while a query is composed, and the statement is scanned as a whole
when it is bound. Both agree if the free text of a query is closed: then every piece of the
layout is closed (`Layout.Sound`), so the placeholders of the statement are those of its pieces,
and the slots are as many and stand in the same order.

The invariant is proved once for every clause and by induction over the tree of queries for the
output columns and the union.
-/

set_option autoImplicit false

namespace SqlComposer

open SqlComposer.Sql

/-! ## Sound layouts -/

/-- A piece that does not change the quote state, and whose fixed text has no placeholders. -/
def Piece.Sound : Piece → Prop
  | .fixed text => Inert text
  | .caller text => QuoteClosed text
  | .own _ => True
  | .omitted _ => True

namespace Layout

/-- Own values stand in lists only, `IN (...)` or `NOT IN (...)` after a column. -/
def OnlyInLists (l : Layout) : Prop :=
  ∀ before values after, l = before ++ .own values :: after →
    ∃ head column operator tail, operator ∈ ["IN", "NOT IN"]
      ∧ before = head ++ [.caller column, .fixed (" " ++ operator ++ " (")]
      ∧ after = .fixed ")" :: tail

/-- The `k`-th placeholder of a layout is the `j`-th of one of its pieces. Among own values its
slot has the `j`-th of them, and in text of the caller it has a value of the caller. -/
def Fills (l : Layout) (k : Nat) (slot : Slot) : Prop :=
  ∃ before p after j, l = before ++ p :: after
    ∧ k = countPlaceholders (text before) + j
    ∧ j < countPlaceholders p.text
    ∧ ((∃ values v, p = .own values ∧ values[j]? = some v ∧ slot = .own v)
      ∨ ∃ t i, p = .caller t ∧ slot = .caller i)

/-- A layout whose pieces can be scanned one by one, with own values in lists only. -/
structure Sound (l : Layout) : Prop where
  pieces : ∀ p ∈ l, p.Sound
  lists : OnlyInLists l

/-- A piece of a layout made of two stands in the first or in the second. -/
theorem append_eq_middle {l m before after : Layout} {p : Piece}
    (h : l ++ m = before ++ p :: after) :
    (∃ rest, l = before ++ p :: rest ∧ after = rest ++ m)
      ∨ ∃ front, m = front ++ p :: after ∧ before = l ++ front := by
  rcases List.append_eq_append_iff.mp h with ⟨front, hbefore, hm⟩ | ⟨rest, hl, hafter⟩
  · exact Or.inr ⟨front, hm, hbefore⟩
  · cases rest with
    | nil =>
      rw [List.append_nil] at hl
      rw [List.nil_append] at hafter
      exact Or.inr ⟨[], hafter.symm, by rw [List.append_nil, hl]⟩
    | cons r rest =>
      obtain ⟨rfl, rfl⟩ := List.cons.inj hafter
      exact Or.inl ⟨rest, hl, rfl⟩

theorem OnlyInLists.append {l m : Layout} (hl : OnlyInLists l) (hm : OnlyInLists m) :
    OnlyInLists (l ++ m) := by
  intro before values after h
  rcases append_eq_middle h with ⟨rest, hleft, rfl⟩ | ⟨front, hright, rfl⟩
  · obtain ⟨head, col, operator, tail, hoperator, hbefore, hrest⟩ := hl before values rest hleft
    exact ⟨head, col, operator, tail ++ m, hoperator, hbefore, by rw [hrest, List.cons_append]⟩
  · obtain ⟨head, col, operator, tail, hoperator, hbefore, hafter⟩ := hm front values after hright
    exact ⟨l ++ head, col, operator, tail, hoperator, by rw [hbefore, List.append_assoc], hafter⟩

/-- A layout without own values. -/
theorem onlyInLists_of_forall {l : Layout} (h : ∀ values, .own values ∉ l) : OnlyInLists l := by
  intro before values after hl
  exact absurd (by rw [hl]; simp) (h values)

namespace Sound

theorem nil : Sound [] := ⟨by simp, onlyInLists_of_forall (by simp)⟩

theorem fixed {t : String} (ht : Inert t) : Sound [.fixed t] :=
  ⟨by simpa [Piece.Sound] using ht, onlyInLists_of_forall (by simp)⟩

theorem caller {t : String} (ht : QuoteClosed t) : Sound [.caller t] :=
  ⟨by simpa [Piece.Sound] using ht, onlyInLists_of_forall (by simp)⟩

theorem omitted (n : Nat) : Sound [.omitted n] :=
  ⟨by simp [Piece.Sound], onlyInLists_of_forall (by simp)⟩

theorem append {l m : Layout} (hl : Sound l) (hm : Sound m) : Sound (l ++ m) := by
  refine ⟨?_, hl.lists.append hm.lists⟩
  intro p hp
  rcases List.mem_append.mp hp with hp | hp
  · exact hl.pieces p hp
  · exact hm.pieces p hp

theorem separated {separator : String} (hseparator : Inert separator) {ls : List Layout}
    (hls : ∀ l ∈ ls, Sound l) : Sound (Layout.separated separator ls) := by
  unfold Layout.separated
  induction ls with
  | nil => exact nil
  | cons l ls ih =>
    have hl : Sound l := hls l List.mem_cons_self
    have hrest : Sound ([Piece.fixed separator].intercalate ls) :=
      ih fun m hm => hls m (List.mem_cons_of_mem l hm)
    cases ls with
    | nil =>
      rw [List.intercalate_singleton]
      exact hl
    | cons m ms =>
      rw [List.intercalate_cons_cons]
      exact (hl.append (fixed hseparator)).append hrest

end Sound

/-- A sound piece is closed and has as many placeholders as slots. -/
theorem text_of_piece_sound {p : Piece} (hp : p.Sound) (first : Nat) :
    QuoteClosed p.text ∧ countPlaceholders p.text = (p.slots first).length := by
  cases p with
  | fixed t => exact ⟨hp.1, hp.2⟩
  | caller t => exact ⟨hp, by simp [Piece.text, Piece.slots, BindPlan.callerSlots]⟩
  | own values =>
    obtain ⟨hclosed, hcount⟩ := placeholders_spec values.length
    exact ⟨hclosed, by simp [Piece.text, Piece.slots, hcount]⟩
  | omitted n => exact ⟨rfl, rfl⟩

/-- A sound layout is closed and has as many placeholders as slots. -/
theorem text_of_sound {l : Layout} (hl : ∀ p ∈ l, p.Sound) (first : Nat) :
    QuoteClosed (text l) ∧ countPlaceholders (text l) = (slots first l).length := by
  induction l generalizing first with
  | nil => exact ⟨rfl, rfl⟩
  | cons p l ih =>
    obtain ⟨hclosed, hcount⟩ := text_of_piece_sound (hl p List.mem_cons_self) first
    obtain ⟨hclosed', hcount'⟩ :=
      ih (fun r hr => hl r (List.mem_cons_of_mem p hr)) (first + p.callers)
    refine ⟨hclosed.append hclosed', ?_⟩
    rw [text_cons, slots_cons, countPlaceholders_append hclosed, List.length_append, hcount,
      hcount']

/-- Each slot of a piece is one that the piece calls for. -/
theorem slot_of_piece {p : Piece} (first j : Nat) {slot : Slot}
    (h : (p.slots first)[j]? = some slot) :
    (∃ values v, p = .own values ∧ values[j]? = some v ∧ slot = .own v)
      ∨ ∃ t i, p = .caller t ∧ slot = .caller i := by
  cases p with
  | fixed t => cases h
  | caller t =>
    obtain ⟨i, hi⟩ : ∃ i : Nat, slot = .caller i := by
      simp only [Piece.slots, BindPlan.callerSlots, List.getElem?_map] at h
      obtain ⟨i, -, hi⟩ := Option.map_eq_some_iff.mp h
      exact ⟨_, hi.symm⟩
    exact Or.inr ⟨t, i, rfl, hi⟩
  | own values =>
    simp only [Piece.slots, List.getElem?_map] at h
    obtain ⟨v, hv, hslot⟩ := Option.map_eq_some_iff.mp h
    exact Or.inl ⟨values, v, rfl, hv, hslot.symm⟩
  | omitted n => cases h

/-- The slots of a sound layout fill its placeholders in order. -/
theorem fills_of_sound {l : Layout} (hl : ∀ p ∈ l, p.Sound) (first k : Nat) {slot : Slot}
    (h : (slots first l)[k]? = some slot) : Fills l k slot := by
  induction l generalizing first k with
  | nil => cases h
  | cons p l ih =>
    obtain ⟨hclosed, hcount⟩ := text_of_piece_sound (hl p List.mem_cons_self) first
    rw [slots_cons] at h
    by_cases hk : k < (p.slots first).length
    · rw [List.getElem?_append_left hk] at h
      exact ⟨[], p, l, k, rfl, (Nat.zero_add k).symm, hcount ▸ hk, slot_of_piece first k h⟩
    · rw [List.getElem?_append_right (Nat.le_of_not_lt hk)] at h
      obtain ⟨before, r, after, j, hsplit, hindex, hj, hslot⟩ :=
        ih (fun r hr => hl r (List.mem_cons_of_mem p hr)) _ _ h
      refine ⟨p :: before, r, after, j, by rw [hsplit, List.cons_append], ?_, hj, hslot⟩
      rw [text_cons, countPlaceholders_append hclosed, hcount]
      omega

end Layout

/-- A composed query whose slots fill the placeholders of its statement one by one, in textual
order. -/
structure CompiledQuery.Filled (c : CompiledQuery) (l : Layout) : Prop where
  /-- The statement is the text of the layout. -/
  text : c.sql = Layout.text l
  /-- Own values stand in lists only. -/
  lists : l.OnlyInLists
  /-- There is one slot for each placeholder outside quotes. -/
  length : c.slots.length = countPlaceholders c.sql
  /-- The `j`-th placeholder of a list has the `j`-th value of the list, and every other
  placeholder has a value of the caller. -/
  fills : ∀ k slot, c.slots[k]? = some slot → l.Fills k slot
  /-- The caller's values are taken in order. -/
  increasing : (c.slots.filterMap Slot.callerIndex?).Pairwise (· < ·)
  /-- Any values, as many as the query takes, are bound: the placeholders are named in order, and
  each name has the value of its slot. -/
  binds : ∀ values : List Value, (values.length : Int) = c.callers →
    ∃ bound named, c.bind values = .ok bound ∧ bindPositional c.sql bound = .ok named
      ∧ named.statement = String.ofList (namedFrom .outside 0 c.sql.toList)
      ∧ named.params.length = c.slots.length
      ∧ ∀ k slot, c.slots[k]? = some slot → ∃ v,
        CompiledQuery.slotValue values slot = .ok v ∧ named.params[k]? = some (paramName k, v)

/-! ## The layout of a query with closed texts -/

/-- The name or expression that an order entry is written as. -/
def OrderEntry.written : OrderEntry → String
  | .text entry => entry
  | .item name _ => name

namespace Query

/-- The free text in a query's own clauses: joins, conditions, and the expressions among the
names of columns. -/
def ownTexts (q : Query) : List String :=
  q.joins.map (·.on) ++ (q.conditions ++ (q.having
    ++ (q.whereIn.map (·.1) ++ (q.whereNotIn.map (·.1)
      ++ (q.groupBy ++ q.orderBy.map OrderEntry.written))).filter isExpression))

mutual

/-- The free text in a query and all queries in it. -/
def texts : Query → List String
  | ⟨tables, idField, fields, joins, conditions, whereIn, whereNotIn, having, groupBy, orderBy,
      direction, limit, offset, distinct, union⟩ =>
    fieldTextsOf fields ++ (ownTexts ⟨tables, idField, fields, joins, conditions, whereIn,
      whereNotIn, having, groupBy, orderBy, direction, limit, offset, distinct, union⟩
      ++ branchTextsOf union)

/-- The free text in output columns. -/
def fieldTextsOf : List (String × FieldSpec Query) → List String
  | [] => []
  | (_, .column text) :: rest => [text].filter isExpression ++ fieldTextsOf rest
  | (_, .raw text) :: rest => text :: fieldTextsOf rest
  | (_, .subquery q) :: rest => texts q ++ fieldTextsOf rest

/-- The free text in union branches. -/
def branchTextsOf : List Query → List String
  | [] => []
  | q :: rest => texts q ++ branchTextsOf rest

end

/-- The free text in a query by its fields. -/
theorem texts_eq (q : Query) :
    q.texts = fieldTextsOf q.fields ++ (q.ownTexts ++ branchTextsOf q.union) := by
  obtain ⟨tables, idField, fields, joins, conditions, whereIn, whereNotIn, having, groupBy,
    orderBy, direction, limit, offset, distinct, union⟩ := q
  rw [texts]

/-- A text is closed if it is once it is an expression: other texts have no quotes. -/
theorem quoteClosed_of_expression {t : String} (h : isExpression t = true → QuoteClosed t) :
    QuoteClosed t := by
  cases hexpression : isExpression t with
  | true => exact h hexpression
  | false => exact quoteClosed_of_not_expression hexpression

theorem mem_fieldTextsOf {fields : List (String × FieldSpec Query)} {label t : String}
    (hmem : (label, .column t) ∈ fields) (ht : isExpression t = true) :
    t ∈ fieldTextsOf fields := by
  induction fields with
  | nil => cases hmem
  | cons e fields ih =>
    rcases List.mem_cons.mp hmem with rfl | hrest
    · simp [fieldTextsOf, ht]
    · obtain ⟨other, spec⟩ := e
      cases spec <;> simp [fieldTextsOf, ih hrest]

/-- The texts behind the aliases of a query are closed if the free text in it is. -/
theorem aliases_closed {q : Query} (h : ∀ t ∈ fieldTextsOf q.fields, QuoteClosed t) :
    q.aliases.Closed := by
  intro e he
  unfold aliases at he
  obtain ⟨⟨label, spec⟩, hmem, hspec⟩ := List.mem_filterMap.mp he
  cases spec with
  | column t =>
    obtain rfl : (label, t) = e := by simpa using hspec
    exact quoteClosed_of_expression fun ht => h t (mem_fieldTextsOf hmem ht)
  | raw t => simp at hspec
  | subquery sub => simp at hspec

/-! ## Each clause is sound -/

theorem listLayout_sound {aliases : Aliases} (haliases : aliases.Closed) {operator : String}
    (hoperator : operator ∈ ["IN", "NOT IN"]) {e : String × List Value} (he : QuoteClosed e.1) :
    (listLayout aliases operator e).Sound := by
  have hcolumn : QuoteClosed (column (aliases.resolve e.1)) :=
    quoteClosed_column (haliases.resolve he)
  have hopen : Inert (" " ++ operator ++ " (") := by
    rcases List.mem_cons.mp hoperator with rfl | hmem
    · decide
    · rw [List.mem_singleton.mp hmem]
      decide
  refine ⟨?_, ?_⟩
  · simp only [listLayout, List.forall_mem_cons, Piece.Sound]
    exact ⟨hcolumn, hopen, trivial, by decide, by simp⟩
  · intro before values after h
    -- the values can only be the third of the four pieces
    rcases before with _ | ⟨a, _ | ⟨b, _ | ⟨c, before⟩⟩⟩
    · simp [listLayout] at h
    · simp [listLayout] at h
    · obtain ⟨rfl, rfl, rfl, rfl⟩ : .caller (column (aliases.resolve e.1)) = a
          ∧ .fixed (" " ++ operator ++ " (") = b ∧ e.2 = values ∧ [.fixed ")"] = after := by
        simpa [listLayout] using h
      exact ⟨[], _, operator, [], hoperator, rfl, rfl⟩
    · cases before <;> simp [listLayout] at h

section Clauses

variable {q : Query} (htexts : ∀ t ∈ q.ownTexts, QuoteClosed t) (haliases : q.aliases.Closed)

include htexts

/-- A name among those of a query is closed, whether it is an expression or not. -/
theorem quoteClosed_name {t : String}
    (ht : t ∈ q.whereIn.map (·.1) ++ (q.whereNotIn.map (·.1)
      ++ (q.groupBy ++ q.orderBy.map OrderEntry.written))) : QuoteClosed t := by
  apply quoteClosed_of_expression
  intro hexpression
  apply htexts
  unfold ownTexts
  simp only [List.mem_append]
  exact Or.inr (Or.inr (Or.inr (List.mem_filter.mpr ⟨ht, hexpression⟩)))

theorem joinText_closed {j : Join} (hj : j ∈ q.joins) : QuoteClosed (joinText j) := by
  have hon : QuoteClosed j.on := by
    apply htexts
    unfold ownTexts
    exact List.mem_append_left _ (List.mem_map.mpr ⟨j, hj, rfl⟩)
  have hkeyword : QuoteClosed j.kind.keyword := by cases j.kind <;> decide
  unfold joinText
  exact (((hkeyword.append (by decide)).append (inert_quoteName j.table).1).append
    (by decide)).append hon

theorem groupLayouts_sound {l : Layout} (hl : l ∈ q.groupLayouts) : l.Sound := by
  have hcolumns : QuoteClosed (", ".intercalate (q.groupBy.map column)) := by
    apply QuoteClosed.intercalate (by decide)
    intro t ht
    obtain ⟨name, hname, rfl⟩ := List.mem_map.mp ht
    exact quoteClosed_column (quoteClosed_name htexts (by simp [hname]))
  have hhaving : QuoteClosed (" AND ".intercalate q.having) := by
    apply QuoteClosed.intercalate (by decide)
    intro t ht
    apply htexts
    unfold ownTexts
    simp [ht]
  unfold groupLayouts at hl
  split at hl
  · cases hl
  · rcases List.mem_cons.mp hl with rfl | hl
    · exact Layout.Sound.caller (QuoteClosed.append (by decide) hcolumns)
    · split at hl
      · cases hl
      · rw [List.mem_singleton.mp hl]
        exact Layout.Sound.caller (QuoteClosed.append (by decide) hhaving)

include haliases

theorem conditionLayouts_sound {l : Layout} (hl : l ∈ q.conditionLayouts) : l.Sound := by
  unfold conditionLayouts at hl
  rcases List.mem_append.mp hl with hl | hl
  · obtain ⟨fragment, hfragment, rfl⟩ := List.mem_map.mp hl
    have hclosed : QuoteClosed fragment := by
      apply htexts
      unfold ownTexts
      simp [hfragment]
    exact Layout.Sound.caller (haliases.resolveCondition hclosed)
  · rcases List.mem_append.mp hl with hl | hl
    · obtain ⟨e, he, rfl⟩ := List.mem_map.mp hl
      have hmem : e ∈ q.whereIn := (List.mem_filter.mp he).1
      exact listLayout_sound haliases (by simp)
        (quoteClosed_name htexts (List.mem_append_left _ (List.mem_map_of_mem hmem)))
    · obtain ⟨e, he, rfl⟩ := List.mem_map.mp hl
      have hmem : e ∈ q.whereNotIn := (List.mem_filter.mp he).1
      exact listLayout_sound haliases (by simp)
        (quoteClosed_name htexts (List.mem_append_right _
          (List.mem_append_left _ (List.mem_map_of_mem hmem))))

theorem bodyLayouts_sound {l : Layout} (hl : l ∈ q.bodyLayouts) : l.Sound := by
  unfold bodyLayouts at hl
  rcases List.mem_cons.mp hl with rfl | hl
  · exact Layout.Sound.fixed (Inert.append (by decide) (inert_nameList q.tables))
  · rcases List.mem_append.mp hl with hl | hl
    · obtain ⟨j, hj, rfl⟩ := List.mem_map.mp hl
      exact Layout.Sound.caller (joinText_closed htexts hj)
    · rcases List.mem_append.mp hl with hl | hl
      · unfold whereLayouts at hl
        split at hl
        · cases hl
        · rw [List.mem_singleton.mp hl]
          exact (Layout.Sound.fixed (by decide)).append (Layout.Sound.separated (by decide)
            fun m hm => conditionLayouts_sound htexts haliases hm)
      · exact groupLayouts_sound htexts hl

theorem orderText_closed : QuoteClosed q.orderText := by
  unfold orderText ordering
  apply QuoteClosed.append (by decide)
  apply QuoteClosed.intercalate (by decide)
  intro t ht
  split at ht
  · rw [List.mem_singleton.mp ht]
    exact (inert_quoteName q.idField).1.append (by decide)
  · obtain ⟨entry, hentry, rfl⟩ := List.mem_map.mp ht
    have hwritten : QuoteClosed entry.written := by
      apply quoteClosed_name htexts
      simp only [List.mem_append]
      exact Or.inr (Or.inr (Or.inr (List.mem_map_of_mem hentry)))
    have hkeyword (d : SortDirection) : QuoteClosed d.keyword := by cases d <;> decide
    cases entry with
    | text text =>
      exact ((quoteClosed_column (haliases.resolveOrder hwritten)).append (by decide)).append
        (hkeyword _)
    | item name direction =>
      exact ((quoteClosed_column (haliases.resolve hwritten)).append (by decide)).append
        (hkeyword _)

theorem tailLayouts_sound {l : Layout} (hl : l ∈ q.tailLayouts) : l.Sound := by
  have hbound (keyword : String) (hkeyword : Inert keyword) (bound : Option RowBound) {m : Layout}
      (hm : m ∈ boundLayouts keyword bound) : m.Sound := by
    cases bound with
    | none => cases hm
    | some b =>
      rw [List.mem_singleton.mp hm]
      exact Layout.Sound.fixed ((hkeyword.append (by decide)).append (inert_toString _))
  unfold tailLayouts at hl
  rcases List.mem_cons.mp hl with rfl | hl
  · exact Layout.Sound.caller (orderText_closed htexts haliases)
  · rcases List.mem_append.mp hl with hl | hl
    · exact hbound "LIMIT" (by decide) q.limit hl
    · exact hbound "OFFSET" (by decide) q.offset hl

end Clauses

/-! ## Whole queries -/

mutual

/-- A query with closed texts has a sound layout. -/
theorem rowLayout_sound : (q : Query) → (∀ t ∈ q.texts, QuoteClosed t) → q.rowLayout.Sound
  | ⟨tables, idField, fields, joins, conditions, whereIn, whereNotIn, having, groupBy, orderBy,
      direction, limit, offset, distinct, union⟩, htexts => by
    let q : Query := ⟨tables, idField, fields, joins, conditions, whereIn, whereNotIn, having,
      groupBy, orderBy, direction, limit, offset, distinct, union⟩
    change ∀ t ∈ q.texts, QuoteClosed t at htexts
    rw [texts_eq] at htexts
    simp only [List.mem_append] at htexts
    have hfields : ∀ t ∈ fieldTextsOf q.fields, QuoteClosed t := fun t ht => htexts t (Or.inl ht)
    have hown : ∀ t ∈ q.ownTexts, QuoteClosed t := fun t ht => htexts t (Or.inr (Or.inl ht))
    have hunion : ∀ t ∈ branchTextsOf q.union, QuoteClosed t :=
      fun t ht => htexts t (Or.inr (Or.inr ht))
    have haliases : q.aliases.Closed := aliases_closed hfields
    have hselect : Inert (selectText q.distinct) := by cases q.distinct <;> decide
    have hhead : Layout.Sound (.fixed (selectText q.distinct)
        :: Layout.separated ", " (fieldLayouts q.fields)) :=
      (Layout.Sound.fixed hselect).append
        (Layout.Sound.separated (by decide) (fieldLayouts_sound fields hfields))
    change q.rowLayout.Sound
    rw [rowLayout_eq]
    apply Layout.Sound.separated (by decide)
    intro l hl
    simp only [List.mem_cons, List.mem_append] at hl
    rcases hl with rfl | hl | hl | hl
    · exact hhead
    · exact bodyLayouts_sound hown haliases hl
    · exact tailLayouts_sound hown haliases hl
    · exact branchLayouts_sound union hunion l hl

/-- Output columns with closed texts have sound layouts. -/
theorem fieldLayouts_sound : (fields : List (String × FieldSpec Query)) →
    (∀ t ∈ fieldTextsOf fields, QuoteClosed t) → ∀ l ∈ fieldLayouts fields, l.Sound
  | [], _ => by simp [fieldLayouts]
  | (label, .column text) :: rest, htexts => by
    simp only [fieldTextsOf, List.mem_append] at htexts
    have hrest := fieldLayouts_sound rest fun t ht => htexts t (Or.inr ht)
    have htext : QuoteClosed text :=
      quoteClosed_of_expression fun h => htexts text (Or.inl (by simp [h]))
    rw [fieldLayouts, List.forall_mem_cons]
    exact ⟨(Layout.Sound.caller (quoteClosed_column htext)).append
      (Layout.Sound.fixed (Inert.append (by decide) (inert_quoteName label))), hrest⟩
  | (label, .raw text) :: rest, htexts => by
    rw [fieldTextsOf, List.forall_mem_cons] at htexts
    have hrest := fieldLayouts_sound rest htexts.2
    rw [fieldLayouts, List.forall_mem_cons]
    exact ⟨(Layout.Sound.caller htexts.1).append
      (Layout.Sound.fixed (Inert.append (by decide) (inert_quoteName label))), hrest⟩
  | (label, .subquery q) :: rest, htexts => by
    simp only [fieldTextsOf, List.mem_append] at htexts
    have hrest := fieldLayouts_sound rest fun t ht => htexts t (Or.inr ht)
    have hsub := rowLayout_sound q fun t ht => htexts t (Or.inl ht)
    rw [fieldLayouts, List.forall_mem_cons]
    exact ⟨(Layout.Sound.fixed (by decide)).append (hsub.append
      (Layout.Sound.fixed (Inert.append (by decide) (inert_quoteName label)))), hrest⟩

/-- Union branches with closed texts have sound layouts. -/
theorem branchLayouts_sound : (branches : List Query) →
    (∀ t ∈ branchTextsOf branches, QuoteClosed t) → ∀ l ∈ branchLayouts branches, l.Sound
  | [], _ => by simp [branchLayouts]
  | q :: rest, htexts => by
    simp only [branchTextsOf, List.mem_append] at htexts
    have hbranch := rowLayout_sound q fun t ht => htexts t (Or.inl ht)
    have hrest := branchLayouts_sound rest fun t ht => htexts t (Or.inr ht)
    rw [branchLayouts, List.forall_mem_cons]
    exact ⟨(Layout.Sound.fixed (by decide)).append hbranch, hrest⟩

end

/-- A query with closed texts has a sound layout in both modes. -/
theorem layout_sound {q : Query} (htexts : ∀ t ∈ q.texts, QuoteClosed t) (mode : Mode) :
    (q.layout mode).Sound := by
  cases mode with
  | row => exact q.rowLayout_sound htexts
  | count =>
    rw [texts_eq] at htexts
    simp only [List.mem_append] at htexts
    have haliases : q.aliases.Closed := aliases_closed fun t ht => htexts t (Or.inl ht)
    have hhead : Inert (countHead q.distinct q.idField) := by
      unfold countHead
      have hdistinct : Inert (if q.distinct then "DISTINCT " else "") := by
        cases q.distinct <;> decide
      exact (((Inert.append (by decide) hdistinct).append (inert_quoteName q.idField)).append
        (by decide))
    have hbody : (Layout.separated " "
        ([.fixed (countHead q.distinct q.idField)] :: q.bodyLayouts)).Sound := by
      apply Layout.Sound.separated (by decide)
      rw [List.forall_mem_cons]
      exact ⟨Layout.Sound.fixed hhead,
        fun l hl => bodyLayouts_sound (fun t ht => htexts t (Or.inr (Or.inl ht))) haliases hl⟩
    exact (Layout.Sound.omitted _).append
      (hbody.append ((Layout.Sound.omitted _).append (Layout.Sound.fixed (by decide))))

/-- In a query whose free text is closed, the slots fill the placeholders of the statement. -/
theorem slots_fill_placeholders {q : Query} {mode : Mode} {c : CompiledQuery}
    (htexts : ∀ t ∈ q.texts, QuoteClosed t) (hc : q.compile mode = .ok c) :
    c.Filled (q.layout mode) := by
  rw [compile_eq, outcome_eq_ok_iff] at hc
  obtain ⟨-, rfl⟩ := hc
  have hsound := layout_sound htexts mode
  have hcount : countPlaceholders (q.composed mode).sql = (q.composed mode).slots.length :=
    (Layout.text_of_sound hsound.pieces 0).2
  refine ⟨rfl, hsound.lists, hcount.symm, ?_, (Layout.callers_of_slots 0 _).1, ?_⟩
  · intro k slot hslot
    exact Layout.fills_of_sound hsound.pieces 0 k hslot
  · intro values hlength
    have hwithin : ∀ slot ∈ (q.composed mode).slots, slot.Within values.length :=
      composed_within hlength
    have hbound := CompiledQuery.bind_of_within hlength hwithin
    have hfilled : ((q.composed mode).slots.map (Slot.fill values)).length
        = countPlaceholders (q.composed mode).sql := by
      rw [List.length_map, hcount]
    refine ⟨_, _, hbound, bindPositional_of_length hfilled, rfl, ?_, ?_⟩
    · rw [length_namedValues, List.length_map]
    · intro k slot hslot
      refine ⟨slot.fill values, CompiledQuery.slotValue_of_within
        (hwithin slot (List.mem_of_getElem? hslot)), ?_⟩
      rw [getElem?_namedValues, List.getElem?_map, hslot, Nat.zero_add]
      rfl

/-- A query with a list of values in a subquery, one of its own and one in a union branch, with
question marks and backticks in names and in quotes. -/
def nested : Query :=
  { ofTable "orders"
      [("who?", .column "CONCAT(name, '?')"),
        ("most`", .subquery
          { ofTable "items" [("m", .raw "MAX(price) + ?")] with
            conditions := ["kind = 'a?'"], whereIn := [("state", [.int 1, .int 2])] })] with
    conditions := ["`who?` LIKE ?"]
    whereNotIn := [("IF(a = ?, b, c)", [.int 3, .int 4]), ("d", [])]
    having := ["COUNT(*) > ?"]
    groupBy := ["name"]
    limit := some (.whole 5)
    union := [{ ofTable "old" [("n", .column "name")] with whereIn := [("id", [.int 7])] }] }

/-- The nested query is composed and its five own values and four values of the caller fill its
nine placeholders. -/
theorem nested_filled :
    (∀ t ∈ nested.texts, QuoteClosed t)
      ∧ nested.compile .row = .ok (nested.composed .row)
      ∧ (nested.composed .row).slots.length = 9
      ∧ (nested.composed .row).Filled (nested.layout .row) := by
  have htexts : ∀ t ∈ nested.texts, QuoteClosed t := by decide
  have hissues : nested.issues = [] := by rfl
  have hcompile : nested.compile .row = .ok (nested.composed .row) := by
    rw [compile_eq, hissues, outcome_nil]
  exact ⟨htexts, hcompile, by rfl, slots_fill_placeholders htexts hcompile⟩

end Query

end SqlComposer
