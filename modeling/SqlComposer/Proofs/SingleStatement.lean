import SqlComposer.Proofs.Filters
import SqlComposer.Proofs.Marks
import SqlComposer.Proofs.Placeholders

/-!
# A composed statement is one statement

What is composed has no separator and no comment outside quotes, so it is sent as the one
statement that it was meant to be. Names are quoted, and free text is searched for the marks
before it is emitted, so a mark could only come about at a seam (`Clean.join`) or because an open
quote in one text turns another one inside out. The latter is up to the caller: free text has to
be closed (`Query.Tame`), and so do the columns of lists of values (`Query.KeysClosed`), which are
emitted as they are if they look composed.

The columns are easily forgotten: `turnedInsideOut` is a query in which all else is as it should
be.
-/

set_option autoImplicit false

namespace SqlComposer

open SqlComposer.Sql SqlComposer.Text

/-! ## Names that stay names -/

theorem isExpression_eq_false_iff {text : String} :
    isExpression text = false ↔ ∀ c ∈ text.toList, isExpressionMark c = false := by
  simp [isExpression, List.any_eq_false]

/-- A part of a plain name is plain. -/
theorem isExpression_of_sublist {cs : List Char} {text : String} (h : isExpression text = false)
    (hcs : cs.Sublist text.toList) : isExpression (String.ofList cs) = false := by
  rw [isExpression_eq_false_iff] at h ⊢
  rw [String.toList_ofList]
  exact fun c hc => h c (hcs.subset hc)

theorem dropEnd_sublist (p : Char → Bool) (cs : List Char) : (dropEnd p cs).Sublist cs := by
  have h := (List.dropWhile_sublist (l := cs.reverse) p).reverse
  rwa [List.reverse_reverse] at h

theorem trimBy_sublist (p : Char → Bool) (cs : List Char) : (trimBy p cs).Sublist cs :=
  (dropEnd_sublist p _).trans (List.dropWhile_sublist p)

namespace Aliases

/-- Aliases for plain names only. -/
def Plain (aliases : Aliases) : Prop := ∀ e ∈ aliases, isExpression e.2 = false

instance (aliases : Aliases) : Decidable aliases.Plain :=
  inferInstanceAs (Decidable (∀ e ∈ aliases, isExpression e.2 = false))

namespace Plain

variable {aliases : Aliases}

theorem closed (h : aliases.Plain) : aliases.Closed :=
  fun e he => quoteClosed_of_not_expression (h e he)

/-- A plain name resolves to a plain name. -/
theorem resolve (h : aliases.Plain) {name : String} (hname : isExpression name = false) :
    isExpression (aliases.resolve name) = false := by
  rcases aliases.resolve_cases name with ⟨k, hmem⟩ | hself
  · exact h _ hmem
  · rw [hself]
    exact hname

/-- What an order entry sorts by is a part of it or the text behind an alias. -/
theorem resolveOrder (h : aliases.Plain) {term : String} (hterm : isExpression term = false) :
    isExpression (aliases.resolveOrder term).1 = false := by
  by_cases hsuffix : ∃ before word, DirectionSuffix term before word
  · obtain ⟨before, word, hsuffix⟩ := hsuffix
    obtain ⟨direction, hresolve, -⟩ := aliases.resolveOrder_of_suffix hsuffix
    obtain ⟨rest, rfl, -⟩ := hsuffix.exists_rest
    have hbefore : before.toList.Sublist (before ++ rest).toList := by
      rw [String.toList_append]
      exact List.sublist_append_left _ _
    rw [hresolve]
    apply h.resolve
    exact isExpression_of_sublist hterm ((trimBy_sublist isBlank before.toList).trans hbefore)
  · rw [aliases.resolveOrder_of_no_suffix fun before word h => hsuffix ⟨before, word, h⟩]
    apply h.resolve
    exact isExpression_of_sublist hterm (trimBy_sublist isBlank term.toList)

end Plain

end Aliases

namespace Query

/-! ## What is asked of the texts of a query -/

mutual

/-- A query and all queries in it. -/
def nodes : Query → List Query
  | ⟨tables, idField, fields, joins, conditions, whereIn, whereNotIn, having, groupBy, orderBy,
      direction, limit, offset, distinct, union⟩ =>
    ⟨tables, idField, fields, joins, conditions, whereIn, whereNotIn, having, groupBy, orderBy,
      direction, limit, offset, distinct, union⟩ :: (fieldNodes fields ++ branchNodes union)

/-- The queries among output columns. -/
def fieldNodes : List (String × FieldSpec Query) → List Query
  | [] => []
  | (_, .column _) :: rest => fieldNodes rest
  | (_, .raw _) :: rest => fieldNodes rest
  | (_, .subquery q) :: rest => nodes q ++ fieldNodes rest

/-- The queries in union branches. -/
def branchNodes : List Query → List Query
  | [] => []
  | q :: rest => nodes q ++ branchNodes rest

end

/-- The queries in a query by its fields. -/
theorem nodes_eq (q : Query) : q.nodes = q :: (fieldNodes q.fields ++ branchNodes q.union) := by
  obtain ⟨tables, idField, fields, joins, conditions, whereIn, whereNotIn, having, groupBy,
    orderBy, direction, limit, offset, distinct, union⟩ := q
  rw [nodes]

/-- The columns that a query selects, groups by and sorts by. -/
def columnNames (q : Query) : List String :=
  q.aliases.map (·.2) ++ (q.groupBy ++ q.orderBy.map OrderEntry.written)

/-- The raw output columns of a query. -/
def rawTexts (q : Query) : List String :=
  q.fields.filterMap fun
    | (_, .raw text) => some text
    | _ => none

/-- The free text of a query's own: raw columns, joins, conditions, and conditions on groups. -/
def fragments (q : Query) : List String :=
  q.rawTexts ++ (q.joins.map (·.on) ++ (q.conditions ++ q.having))

/-- The columns of a query's lists of values, their aliases resolved. An empty list has none. -/
def listKeys (q : Query) : List String :=
  (activeLists q.whereIn ++ activeLists q.whereNotIn).map fun e => q.aliases.resolve e.1

/-- A query whose columns are plain names and whose free text is closed. -/
structure Tame (q : Query) : Prop where
  names : ∀ name ∈ q.columnNames, isExpression name = false
  fragments : ∀ text ∈ q.fragments, QuoteClosed text

instance (q : Query) : Decidable q.Tame :=
  decidable_of_iff ((∀ name ∈ q.columnNames, isExpression name = false)
    ∧ ∀ text ∈ q.fragments, QuoteClosed text) ⟨fun h => ⟨h.1, h.2⟩, fun h => ⟨h.1, h.2⟩⟩

/-- The columns of a query's lists of values are closed. -/
def KeysClosed (q : Query) : Prop := ∀ key ∈ q.listKeys, QuoteClosed key

instance (q : Query) : Decidable q.KeysClosed :=
  inferInstanceAs (Decidable (∀ key ∈ q.listKeys, QuoteClosed key))

theorem Tame.column {q : Query} (h : q.Tame) {label text : String}
    (hmem : (label, .column text) ∈ q.fields) : isExpression text = false := by
  apply h.names
  have halias : (label, text) ∈ q.aliases := List.mem_filterMap.mpr ⟨_, hmem, rfl⟩
  exact List.mem_append_left _ (List.mem_map_of_mem halias)

theorem Tame.raw {q : Query} (h : q.Tame) {label text : String}
    (hmem : (label, .raw text) ∈ q.fields) : QuoteClosed text := by
  apply h.fragments
  have hraw : text ∈ q.rawTexts := List.mem_filterMap.mpr ⟨_, hmem, rfl⟩
  exact List.mem_append_left _ hraw

theorem Tame.aliases {q : Query} (h : q.Tame) : q.aliases.Plain :=
  fun _ he => h.names _ (List.mem_append_left _ (List.mem_map_of_mem he))

/-! ## Each clause is clean -/

/-- What has been searched without an issue has no sign of the denylist. -/
theorem dangerIn?_of_no_issue {screened : List (FragmentKind × String)}
    (h : screened.filterMap danger? = []) {kind : FragmentKind} {text : String}
    (htext : (kind, text) ∈ screened) : dangerIn? text = none := by
  have hnone : danger? (kind, text) = none := List.filterMap_eq_nil_iff.mp h _ htext
  exact Option.map_eq_none_iff.mp hnone

theorem text_piece (p : Piece) : Layout.text [p] = p.text := by
  rw [Layout.text_cons, Layout.text_nil, String.append_empty]

/-- A column of a list is quoted if it is a name, and closed and searched if it is not. -/
theorem clean_listKey {key : String} (hclosed : QuoteClosed key)
    (hsafe : dangerIn? key = none) : Clean (Sql.column key) := by
  cases hexpression : isExpression key with
  | false => exact clean_column hexpression
  | true =>
    rw [Sql.column, hexpression]
    exact clean_of_safe hclosed hsafe

theorem clean_listLayout {aliases : Aliases} {operator : String}
    (hoperator : operator ∈ ["IN", "NOT IN"]) {e : String × List Value}
    (hclosed : QuoteClosed (aliases.resolve e.1)) (hsafe : dangerIn? (aliases.resolve e.1) = none) :
    Clean (Layout.text (listLayout aliases operator e)) := by
  have hopen : Joint (" " ++ operator ++ " (") := by
    rcases List.mem_cons.mp hoperator with rfl | hmem
    · decide
    · rw [List.mem_singleton.mp hmem]
      decide
  have hlist : Clean (Sql.column (aliases.resolve e.1) ++ (" " ++ operator ++ " (")
      ++ placeholders e.2.length) :=
    (clean_listKey hclosed hsafe).join hopen (clean_placeholders e.2.length)
  have hclose : Clean (Sql.column (aliases.resolve e.1) ++ (" " ++ operator ++ " (")
      ++ placeholders e.2.length ++ ")") := Joint.after hlist (by decide)
  simpa [listLayout, Piece.text, String.append_assoc] using hclose

section Clauses

variable {q : Query} (h : q.Tame)

include h

theorem clean_orderText : Clean q.orderText := by
  unfold orderText ordering
  apply Joint.before (by decide)
  apply Clean.intercalate (by decide)
  intro t ht
  split at ht
  · rw [List.mem_singleton.mp ht]
    exact Joint.after (clean_quoteName q.idField) (by decide)
  · obtain ⟨entry, hentry, rfl⟩ := List.mem_map.mp ht
    have hwritten : isExpression entry.written = false := by
      apply h.names
      simp only [columnNames, List.mem_append]
      exact Or.inr (Or.inr (List.mem_map_of_mem hentry))
    have hkeyword (d : SortDirection) : Clean d.keyword := by cases d <;> decide
    cases entry with
    | text text =>
      exact (clean_column (h.aliases.resolveOrder hwritten)).join (by decide) (hkeyword _)
    | item name direction =>
      exact (clean_column (h.aliases.resolve hwritten)).join (by decide) (hkeyword _)

theorem clean_tailLayouts : ∀ l ∈ q.tailLayouts, Clean (Layout.text l) := by
  have hbound (keyword : String) (hkeyword : Clean keyword) (bound : Option RowBound) :
      ∀ l ∈ boundLayouts keyword bound, Clean (Layout.text l) := by
    intro l hl
    cases bound with
    | none => cases hl
    | some b =>
      rw [List.mem_singleton.mp hl, text_piece]
      exact hkeyword.join (by decide) (clean_toString (boundSize b))
  intro l hl
  unfold tailLayouts at hl
  rcases List.mem_cons.mp hl with rfl | hl
  · rw [text_piece]
    exact clean_orderText h
  · rcases List.mem_append.mp hl with hl | hl
    · exact hbound "LIMIT" (by decide) q.limit l hl
    · exact hbound "OFFSET" (by decide) q.offset l hl

variable (hscreened : q.bodyScreened.filterMap danger? = [])

include hscreened

theorem clean_joinText {j : Join} (hj : j ∈ q.joins) : Clean (joinText j) := by
  have hclosed : QuoteClosed j.on := by
    apply h.fragments
    simp only [fragments, List.mem_append]
    exact Or.inr (Or.inl (List.mem_map_of_mem hj))
  have hsafe : dangerIn? j.on = none := by
    have hmem : (FragmentKind.joinOn, j.on) ∈ q.bodyScreened :=
      List.mem_append_left _ (List.mem_map_of_mem (f := fun j : Join => (_, j.on)) hj)
    exact dangerIn?_of_no_issue hscreened hmem
  have hkeyword : Clean j.kind.keyword := by cases j.kind <;> decide
  unfold joinText
  exact (hkeyword.join (by decide) (clean_quoteName j.table)).join (by decide)
    (clean_of_safe hclosed hsafe)

theorem clean_having {text : String} (htext : text ∈ q.having) : Clean text := by
  have hclosed : QuoteClosed text := by
    apply h.fragments
    simp [fragments, htext]
  have hmem : (FragmentKind.havingClause, text) ∈ q.bodyScreened := by
    simp [bodyScreened, havingScreened, htext]
  exact clean_of_safe hclosed (dangerIn?_of_no_issue hscreened hmem)

theorem clean_groupLayouts : ∀ l ∈ q.groupLayouts, Clean (Layout.text l) := by
  have hcolumns : Clean (", ".intercalate (q.groupBy.map Sql.column)) := by
    apply Clean.intercalate (by decide)
    intro t ht
    obtain ⟨name, hname, rfl⟩ := List.mem_map.mp ht
    apply clean_column
    apply h.names
    simp [columnNames, hname]
  have hhaving : Clean (" AND ".intercalate q.having) :=
    Clean.intercalate (by decide) fun t ht => clean_having h hscreened ht
  intro l hl
  unfold groupLayouts at hl
  split at hl
  · cases hl
  · rcases List.mem_cons.mp hl with rfl | hl
    · rw [text_piece]
      exact Joint.before (by decide) hcolumns
    · split at hl
      · cases hl
      · rw [List.mem_singleton.mp hl, text_piece]
        exact Joint.before (by decide) hhaving

variable (hkeys : q.KeysClosed)

include hkeys

omit h in
theorem clean_activeList {operator : String} (hoperator : operator ∈ ["IN", "NOT IN"])
    {e : String × List Value} (he : e ∈ activeLists q.whereIn ++ activeLists q.whereNotIn) :
    Clean (Layout.text (listLayout q.aliases operator e)) := by
  have hkey : q.aliases.resolve e.1 ∈ q.listKeys := List.mem_map.mpr ⟨e, he, rfl⟩
  have hmem : (FragmentKind.whereClause, q.aliases.resolve e.1) ∈ q.bodyScreened := by
    simp only [bodyScreened, conditionScreened, ← List.map_append, List.mem_append, List.mem_map]
    exact Or.inr (Or.inl (Or.inr ⟨e, List.mem_append.mp he, rfl⟩))
  exact clean_listLayout hoperator (hkeys _ hkey) (dangerIn?_of_no_issue hscreened hmem)

theorem clean_conditionLayouts : ∀ l ∈ q.conditionLayouts, Clean (Layout.text l) := by
  intro l hl
  unfold conditionLayouts at hl
  simp only [List.mem_append] at hl
  rcases hl with hl | hl | hl
  · obtain ⟨fragment, hfragment, rfl⟩ := List.mem_map.mp hl
    have hclosed : QuoteClosed fragment := by
      apply h.fragments
      simp [fragments, hfragment]
    have hmem : (FragmentKind.whereClause, q.aliases.resolveCondition fragment)
        ∈ q.bodyScreened := by
      simp only [bodyScreened, conditionScreened, List.mem_append, List.mem_map]
      exact Or.inr (Or.inl (Or.inl ⟨fragment, hfragment, rfl⟩))
    have hresolved : QuoteClosed (q.aliases.resolveCondition fragment) :=
      h.aliases.closed.resolveCondition hclosed
    rw [text_piece]
    exact clean_of_safe hresolved (dangerIn?_of_no_issue hscreened hmem)
  · obtain ⟨e, he, rfl⟩ := List.mem_map.mp hl
    exact clean_activeList hscreened hkeys (by simp) (List.mem_append_left _ he)
  · obtain ⟨e, he, rfl⟩ := List.mem_map.mp hl
    exact clean_activeList hscreened hkeys (by simp) (List.mem_append_right _ he)

theorem clean_bodyLayouts : ∀ l ∈ q.bodyLayouts, Clean (Layout.text l) := by
  intro l hl
  unfold bodyLayouts at hl
  rcases List.mem_cons.mp hl with rfl | hl
  · rw [text_piece]
    exact Joint.before (by decide) (clean_nameList q.tables)
  · simp only [List.mem_append] at hl
    rcases hl with hl | hl | hl
    · obtain ⟨j, hj, rfl⟩ := List.mem_map.mp hl
      rw [text_piece]
      exact clean_joinText h hscreened hj
    · unfold whereLayouts at hl
      split at hl
      · cases hl
      · rw [List.mem_singleton.mp hl, Layout.text_cons, Layout.text_separated]
        apply Joint.before (by decide)
        apply Clean.intercalate (by decide)
        intro t ht
        obtain ⟨m, hm, rfl⟩ := List.mem_map.mp ht
        exact clean_conditionLayouts h hscreened hkeys m hm
    · exact clean_groupLayouts h hscreened l hl

end Clauses

/-! ## Whole statements -/

/-- Every query in a query is tame and has closed columns for its lists. -/
def AllTame (queries : List Query) : Prop := ∀ n ∈ queries, n.Tame ∧ n.KeysClosed

theorem AllTame.left {queries others : List Query} (h : AllTame (queries ++ others)) :
    AllTame queries := fun n hn => h n (List.mem_append_left others hn)

theorem AllTame.right {queries others : List Query} (h : AllTame (queries ++ others)) :
    AllTame others := fun n hn => h n (List.mem_append_right queries hn)

mutual

/-- A tame query without issues is clean in row mode. -/
theorem clean_rowLayout : (q : Query) → AllTame q.nodes → q.issues = [] →
    Clean (Layout.text q.rowLayout)
  | ⟨tables, idField, fields, joins, conditions, whereIn, whereNotIn, having, groupBy, orderBy,
      direction, limit, offset, distinct, union⟩, htame, hissues => by
    let q : Query := ⟨tables, idField, fields, joins, conditions, whereIn, whereNotIn, having,
      groupBy, orderBy, direction, limit, offset, distinct, union⟩
    change AllTame q.nodes at htame
    change q.issues = [] at hissues
    rw [nodes_eq] at htame
    rw [issues_eq] at hissues
    simp only [List.append_eq_nil_iff] at hissues
    obtain ⟨hfieldIssues, hscreened, -, hbranchIssues⟩ := hissues
    obtain ⟨hq, hkeys⟩ : q.Tame ∧ q.KeysClosed := htame q List.mem_cons_self
    -- subqueries and branches are reached by the recursion of the layout itself
    have hinner : AllTame (fieldNodes fields ++ branchNodes union) :=
      fun n hn => htame n (List.mem_cons_of_mem q hn)
    have hfields := clean_fieldLayouts fields (fun _ _ => hq.column) (fun _ _ => hq.raw)
      hinner.left hfieldIssues
    have hbranches := clean_branchLayouts union hinner.right hbranchIssues
    have hselect : Joint (selectText q.distinct) := by cases q.distinct <;> decide
    have hhead : Clean (Layout.text (.fixed (selectText q.distinct)
        :: Layout.separated ", " (fieldLayouts q.fields))) := by
      rw [Layout.text_cons, Layout.text_separated]
      apply Joint.before hselect
      apply Clean.intercalate (by decide)
      intro t ht
      obtain ⟨l, hl, rfl⟩ := List.mem_map.mp ht
      exact hfields l hl
    change Clean (Layout.text q.rowLayout)
    rw [rowLayout_eq, Layout.text_separated]
    apply Clean.intercalate (by decide)
    intro t ht
    obtain ⟨l, hl, rfl⟩ := List.mem_map.mp ht
    simp only [List.mem_cons, List.mem_append] at hl
    rcases hl with rfl | hl | hl | hl
    · exact hhead
    · exact clean_bodyLayouts hq hscreened hkeys l hl
    · exact clean_tailLayouts hq l hl
    · exact hbranches l hl

theorem clean_fieldLayouts : (fields : List (String × FieldSpec Query)) →
    (∀ label text, (label, .column text) ∈ fields → isExpression text = false) →
    (∀ label text, (label, .raw text) ∈ fields → QuoteClosed text) →
    AllTame (fieldNodes fields) → fieldIssues fields = [] →
    ∀ l ∈ fieldLayouts fields, Clean (Layout.text l)
  | [], _, _, _, _ => by simp [fieldLayouts]
  | (label, .column text) :: rest, hnames, hraw, htame, hissues => by
    rw [fieldNodes] at htame
    rw [fieldIssues] at hissues
    have hrest := clean_fieldLayouts rest (fun l t ht => hnames l t (List.mem_cons_of_mem _ ht))
      (fun l t ht => hraw l t (List.mem_cons_of_mem _ ht)) htame hissues
    have htext : isExpression text = false := hnames label text List.mem_cons_self
    have hcolumn : Clean (Sql.column text ++ " AS " ++ quoteName label) :=
      (clean_column htext).join (by decide) (clean_quoteName label)
    rw [fieldLayouts, List.forall_mem_cons]
    refine ⟨?_, hrest⟩
    simpa [Piece.text, String.append_assoc] using hcolumn
  | (label, .raw text) :: rest, hnames, hraw, htame, hissues => by
    rw [fieldNodes] at htame
    rw [fieldIssues, List.append_eq_nil_iff] at hissues
    have hrest := clean_fieldLayouts rest (fun l t ht => hnames l t (List.mem_cons_of_mem _ ht))
      (fun l t ht => hraw l t (List.mem_cons_of_mem _ ht)) htame hissues.2
    have hsafe : dangerIn? text = none := by
      simpa [danger?] using hissues.1
    have hcolumn : Clean (text ++ " AS " ++ quoteName label) :=
      (clean_of_safe (hraw label text List.mem_cons_self) hsafe).join (by decide)
        (clean_quoteName label)
    rw [fieldLayouts, List.forall_mem_cons]
    refine ⟨?_, hrest⟩
    simpa [Piece.text, String.append_assoc] using hcolumn
  | (label, .subquery q) :: rest, hnames, hraw, htame, hissues => by
    rw [fieldNodes] at htame
    rw [fieldIssues, List.append_eq_nil_iff] at hissues
    have hrest := clean_fieldLayouts rest (fun l t ht => hnames l t (List.mem_cons_of_mem _ ht))
      (fun l t ht => hraw l t (List.mem_cons_of_mem _ ht)) htame.right hissues.2
    have hsub := clean_rowLayout q htame.left hissues.1
    have hopen : Clean ("(" ++ Layout.text q.rowLayout) := Joint.before (by decide) hsub
    have hcolumn : Clean ("(" ++ Layout.text q.rowLayout ++ ") AS " ++ quoteName label) :=
      hopen.join (by decide) (clean_quoteName label)
    rw [fieldLayouts, List.forall_mem_cons]
    refine ⟨?_, hrest⟩
    simpa [Piece.text, String.append_assoc] using hcolumn

theorem clean_branchLayouts : (branches : List Query) → AllTame (branchNodes branches) →
    branchIssues branches = [] → ∀ l ∈ branchLayouts branches, Clean (Layout.text l)
  | [], _, _ => by simp [branchLayouts]
  | q :: rest, htame, hissues => by
    rw [branchNodes] at htame
    rw [branchIssues, List.append_eq_nil_iff] at hissues
    have hrest := clean_branchLayouts rest htame.right hissues.2
    have hbranch := clean_rowLayout q htame.left hissues.1
    rw [branchLayouts, List.forall_mem_cons]
    exact ⟨Joint.before (by decide) hbranch, hrest⟩

end

/-- A tame query without issues is clean in count mode. -/
theorem clean_countLayout {q : Query} (htame : AllTame q.nodes) (hissues : q.issues = []) :
    Clean (Layout.text q.countLayout) := by
  rw [nodes_eq] at htame
  rw [issues_eq] at hissues
  simp only [List.append_eq_nil_iff] at hissues
  obtain ⟨hq, hkeys⟩ : q.Tame ∧ q.KeysClosed := htame q List.mem_cons_self
  have hselect : Joint ("SELECT COUNT(" ++ if q.distinct then "DISTINCT " else "") := by
    cases q.distinct <;> decide
  have hhead : Clean (countHead q.distinct q.idField) :=
    Joint.after (Joint.before hselect (clean_quoteName q.idField)) (by decide)
  rw [text_countLayout]
  apply Clean.intercalate (by decide)
  intro t ht
  simp only [List.mem_cons, List.mem_append, List.mem_map, List.mem_nil_iff, or_false] at ht
  rcases ht with rfl | ⟨l, hl, rfl⟩ | rfl
  · exact hhead
  · exact clean_bodyLayouts hq hissues.2.1 hkeys l hl
  · decide

theorem clean_compile {q : Query} {mode : Mode} {c : CompiledQuery} (htame : AllTame q.nodes)
    (hc : q.compile mode = .ok c) : Clean c.sql := by
  rw [compile_eq, outcome_eq_ok_iff] at hc
  obtain ⟨hissues, rfl⟩ := hc
  cases mode with
  | row => exact clean_rowLayout q htame hissues
  | count => exact clean_countLayout htame hissues

end Query

/-! ## Statements that change rows -/

namespace Sql

theorem clean_rowPlaceholders (width : Nat) : Clean (rowPlaceholders width) :=
  Joint.after (Joint.before (by decide) (clean_placeholders width)) (by decide)

/-- An `INSERT` of clean rows is clean. -/
theorem clean_insertion (table : String) (keys : List String) {rows : String}
    (hrows : Clean rows) : Clean (insertHead table keys ++ rows) := by
  have htable : Clean ("INSERT INTO " ++ quoteName table) :=
    Joint.before (by decide) (clean_quoteName table)
  have hnames : Clean ("INSERT INTO " ++ quoteName table ++ " (" ++ nameList keys) :=
    htable.join (by decide) (clean_nameList keys)
  exact hnames.join (by decide) hrows

/-- Names with values are clean, whatever stands between them. -/
theorem clean_assignments {separator : String} (hseparator : Joint separator)
    (data : List (String × Value)) :
    Clean (separator.intercalate (data.map fun e => quoteName e.1 ++ " = ?")) := by
  apply Clean.intercalate hseparator
  intro t ht
  obtain ⟨e, -, rfl⟩ := List.mem_map.mp ht
  exact Joint.after (clean_quoteName e.1) (by decide)

theorem clean_insert {table : String} {data : List (String × Value)} {s : Statement}
    (hs : insert table data = .ok s) : Clean s.sql := by
  unfold insert at hs
  split at hs
  · exact nomatch hs
  · cases hs
    exact clean_insertion table _ (clean_rowPlaceholders data.length)

theorem clean_batchInsert {table : String} {rows : List (List (String × Value))} {s : Statement}
    (hs : batchInsert table rows = .ok s) : Clean s.sql := by
  cases rows with
  | nil => exact nomatch hs
  | cons first rest =>
    simp only [batchInsert] at hs
    split at hs
    · exact nomatch hs
    · cases hvalues : rowValues (first.map (·.1)) 0 (first :: rest) with
      | error r =>
        rw [hvalues] at hs
        exact nomatch hs
      | ok values =>
        rw [hvalues] at hs
        cases hs
        apply clean_insertion
        apply Clean.intercalate (by decide)
        intro t ht
        obtain ⟨-, -, rfl⟩ := List.mem_map.mp ht
        exact clean_rowPlaceholders _

theorem clean_delete {table : String} {key : List (String × Value)} {s : Statement}
    (hs : delete table key = .ok s) : Clean s.sql := by
  unfold delete at hs
  split at hs
  · exact nomatch hs
  · cases hs
    have htable : Clean ("DELETE FROM " ++ quoteName table) :=
      Joint.before (by decide) (clean_quoteName table)
    exact htable.join (by decide) (clean_assignments (by decide) key)

/-- The conditions of an update that is built have been searched. -/
theorem update_searched {table : String} {data : List (String × Value)} {fragments : List String}
    {values : List Value} {s : Statement} (hs : update table data fragments values = .ok s) :
    ∀ fragment ∈ fragments, dangerIn? fragment = none := by
  have hchecked : ∃ conditions, fragments.mapM (checkFragment .whereClause) = .ok conditions := by
    unfold update at hs
    split at hs
    · exact nomatch hs
    · split at hs
      · exact nomatch hs
      · cases hmap : fragments.mapM (checkFragment .whereClause) with
        | error r =>
          rw [hmap] at hs
          exact nomatch hs
        | ok conditions => exact ⟨conditions, rfl⟩
  obtain ⟨conditions, hconditions⟩ := hchecked
  rw [mapM_eq_outcome fragments (checkFragment_eq .whereClause), outcome_eq_ok_iff] at hconditions
  intro fragment hfragment
  have hnone := List.flatMap_eq_nil_iff.mp hconditions.1 fragment hfragment
  simpa [danger?] using hnone

theorem clean_update {table : String} {data : List (String × Value)} {fragments : List String}
    {values : List Value} {s : Statement} (hclosed : ∀ fragment ∈ fragments, QuoteClosed fragment)
    (hs : update table data fragments values = .ok s) : Clean s.sql := by
  obtain ⟨-, hsql⟩ := update_sql hs
  have hconditions : Clean (" AND ".intercalate fragments) :=
    Clean.intercalate (by decide) fun fragment hfragment =>
      clean_of_safe (hclosed fragment hfragment) (update_searched hs fragment hfragment)
  have htable : Clean ("UPDATE " ++ quoteName table) :=
    Joint.before (by decide) (clean_quoteName table)
  rw [hsql]
  exact (htable.join (by decide) (clean_assignments (by decide) data)).join (by decide) hconditions

end Sql

/-- Nothing that is composed of plain names and closed text has a separator or a comment outside
quotes, or ends inside them: no query in either mode, whatever its tables, aliases and
identifying column are called, and no statement that changes rows. -/
theorem composed_statements_clean :
    (∀ (q : Query) (mode : Mode) (c : CompiledQuery), (∀ n ∈ q.nodes, n.Tame ∧ n.KeysClosed) →
      q.compile mode = .ok c → Clean c.sql)
    ∧ (∀ table data s, insert table data = .ok s → Clean s.sql)
    ∧ (∀ table rows s, batchInsert table rows = .ok s → Clean s.sql)
    ∧ (∀ table key s, delete table key = .ok s → Clean s.sql)
    ∧ ∀ table data fragments values s, (∀ fragment ∈ fragments, QuoteClosed fragment) →
      update table data fragments values = .ok s → Clean s.sql := by
  refine ⟨?_, ?_, ?_, ?_, ?_⟩
  · intro q mode c htame hc
    exact Query.clean_compile htame hc
  · intro table data s hs
    exact clean_insert hs
  · intro table rows s hs
    exact clean_batchInsert hs
  · intro table key s hs
    exact clean_delete hs
  · intro table data fragments values s hclosed hs
    exact clean_update hclosed hs

/-- A query with marks and quotes in its names, and with quotes in its text and in the column of a
list. -/
def decorated : Query :=
  { Query.ofTable "users; --"
      [("id`; DROP", .column "*.id"), ("n#", .raw "CONCAT(name, '?')"),
        ("last", .subquery (Query.ofTable "log/*" [("*/", .column "*")]))] with
    idField := "'; DROP TABLE users; --"
    conditions := ["name <> 'a\"b'"]
    whereIn := [("IF(a, ' ', b)", [.int 1]), ("'", [])]
    orderBy := [.text "last/* DESC"] }

/-- The decorated query is composed into clean statements, and so is an update of a table with
such a name. -/
theorem decorated_clean :
    (∃ c, decorated.compile .row = .ok c ∧ Clean c.sql)
      ∧ (∃ c, decorated.compile .count = .ok c ∧ Clean c.sql)
      ∧ ∃ s, update "a; --" [("b#", .int 1)] ["c = '\x60'"] [] = .ok s ∧ Clean s.sql := by
  have htame : ∀ n ∈ decorated.nodes, n.Tame ∧ n.KeysClosed := by decide
  have hissues : decorated.issues = [] := by rfl
  have hcompile (mode : Mode) : decorated.compile mode = .ok (decorated.composed mode) := by
    rw [Query.compile_eq, hissues, outcome_nil]
  obtain ⟨hquery, -, -, -, hupdate⟩ := composed_statements_clean
  refine ⟨⟨_, hcompile .row, hquery _ _ _ htame (hcompile .row)⟩,
    ⟨_, hcompile .count, hquery _ _ _ htame (hcompile .count)⟩, ?_⟩
  exact ⟨_, rfl, hupdate "a; --" [("b#", .int 1)] ["c = '\x60'"] [] _ (by decide) rfl⟩

/-- A query with a quote for the column of a list. -/
def turnedInsideOut : Query :=
  { Query.ofTable "users" [("id", .column "id")] with
    idField := "'; DROP TABLE users; --"
    whereIn := [("'", [.int 1])] }

/-- The quote is emitted as it is, and the name of the identifying column stands outside quotes,
although the columns are plain names and all free text is closed. -/
theorem turnedInsideOut_marked :
    (∀ n ∈ turnedInsideOut.nodes, n.Tame)
      ∧ ∃ c, turnedInsideOut.compile .row = .ok c ∧ ¬ Unmarked c.sql := by
  have htame : ∀ n ∈ turnedInsideOut.nodes, n.Tame := by decide
  have hissues : turnedInsideOut.issues = [] := by rfl
  have hcompile : turnedInsideOut.compile .row = .ok (turnedInsideOut.composed .row) := by
    rw [Query.compile_eq, hissues, outcome_nil]
  exact ⟨htame, _, hcompile, by decide +kernel⟩

end SqlComposer
