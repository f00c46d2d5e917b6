import SqlComposer.Proofs.Conjunction
import SqlComposer.Proofs.Modes

/-!
# What a statement filters by

The `WHERE` and `HAVING` clauses of a query and the condition of an update list what the caller
gave, with `AND` between. Here the text of these clauses is read. A column with a list of values
is always an atom. A fragment is read as it is written, so one with `OR` at its top shares its
alternatives with its neighbours: `listed_conditions_joined` says what follows from that, and
`alternatives_escape` is a query that finds rows which a listed condition excludes.
-/

set_option autoImplicit false

namespace SqlComposer.Sql

/-! ## Columns with lists of values -/

/-- What makes some lexemes a value, such as a column. -/
structure IsValue (ls : List Lexeme) : Prop where
  nonempty : ls ≠ []
  unnegated : ls.head? ≠ some .not
  closed : Progress.start.after ls = some .start
  wordsOnly : doubled '|' ls = false ∧ doubled '&' ls = false

theorem Progress.step_plain (p : Progress) {x : Lexeme} (hx : x.Plain) : p.step x = some p := by
  obtain ⟨n, awaiting⟩ := p
  cases n with
  | nil =>
    cases x with
    | word | quoted | sign => rfl
    | _ => exact False.elim hx
  | cons b n =>
    cases x with
    | word | quoted | sign => cases b <;> rfl
    | _ => exact False.elim hx

/-- A scan passes over what is plain. -/
theorem Progress.after_plain (p : Progress) {ls : List Lexeme} (h : ∀ x ∈ ls, x.Plain) :
    p.after ls = some p := by
  induction ls with
  | nil => rfl
  | cons x ls ih =>
    unfold after
    rw [List.foldlM_cons, p.step_plain (h x List.mem_cons_self)]
    exact ih fun y hy => h y (List.mem_cons_of_mem x hy)

theorem doubled_eq_false {c : Char} {ls : List Lexeme} (h : ∀ x ∈ ls, x ≠ .sign c) :
    doubled c ls = false := by
  induction ls with
  | nil => rfl
  | cons x ls ih =>
    have hrest := ih fun y hy => h y (List.mem_cons_of_mem x hy)
    cases ls with
    | nil => rfl
    | cons y ls =>
      rw [doubled, hrest, beq_false_of_ne (h x List.mem_cons_self)]
      rfl

theorem doubled_cons {c : Char} {x : Lexeme} (hx : x ≠ .sign c) (ls : List Lexeme) :
    doubled c (x :: ls) = doubled c ls := by
  cases ls with
  | nil => rfl
  | cons y ls =>
    rw [doubled, beq_false_of_ne hx]
    rfl

/-- Signs on both sides of another lexeme are not next to each other. -/
theorem doubled_append {c : Char} {x : Lexeme} (hx : x ≠ .sign c) (ls ms : List Lexeme) :
    doubled c (ls ++ x :: ms) = (doubled c ls || doubled c ms) := by
  induction ls with
  | nil => exact doubled_cons hx ms
  | cons y ls ih =>
    cases ls with
    | nil =>
      rw [List.cons_append, List.nil_append, doubled, beq_false_of_ne hx, Bool.and_false,
        doubled_cons hx]
      rfl
    | cons z ls =>
      rw [List.cons_append, List.cons_append, doubled, ← List.cons_append, ih, doubled,
        Bool.or_assoc]

theorem not_doubled_of_plain {ls : List Lexeme} (h : ∀ x ∈ ls, x.Plain) :
    doubled '|' ls = false ∧ doubled '&' ls = false := by
  constructor
  · apply doubled_eq_false
    rintro x hx rfl
    exact (h _ hx).1 rfl
  · apply doubled_eq_false
    rintro x hx rfl
    exact (h _ hx).2 rfl

/-- A quoted name is a value. -/
theorem isValue_quoteName (name : String) : IsValue (lexemes (quoteName name)) := by
  obtain ⟨hne, hplain⟩ := lexemes_quoteName name
  refine ⟨hne, ?_, Progress.after_plain _ hplain, not_doubled_of_plain hplain⟩
  intro hhead
  exact hplain .not (List.mem_of_mem_head? hhead)

/-- What closes its brackets within itself does not close a parenthesis before it. -/
theorem Nesting.after_nil_of_paren {ls : List Lexeme}
    (h : Nesting.after [.paren] ls = some []) : Nesting.after [] ls = none := by
  cases hnil : Nesting.after [] ls with
  | none => rfl
  | some n =>
    have hin := Progress.nesting_after (Progress.after_in_parens false hnil)
    rw [show (Nesting.after [.paren] ls) = Nesting.after ([] ++ [.paren]) ls from rfl, hin] at h
    exact absurd (Option.some.inj h) (by simp)

/-- A value with more after it is not all in parentheses. -/
theorem not_enclosed_of_value {ls ms : List Lexeme} (h : IsValue ls) (hne : ms ≠ []) :
    enclosed (ls ++ ms) = false := by
  obtain ⟨hls, -, hclosed, -⟩ := h
  cases ls with
  | nil => exact absurd rfl hls
  | cons x ls =>
    cases x with
    | opening =>
      have hbalanced : Nesting.after [.paren] ls = some [] := Progress.nesting_after hclosed
      have hnone := Nesting.after_nil_of_paren hbalanced
      have hdrop : (ls ++ ms).dropLast = ls ++ ms.dropLast := List.dropLast_append_of_ne_nil hne
      rw [List.cons_append, enclosed, hdrop, Nesting.after_append, hnone]
      exact Bool.and_false _
    | _ => rfl

/-- The operators of lists of values. -/
def listOperators : List String := ["IN", "NOT IN"]

theorem listOperators_spec {operator : String} (h : operator ∈ listOperators) :
    QuoteClosed operator ∧ QuoteClosed (" " ++ operator ++ " (")
      ∧ (lexemes operator = [.word ['I', 'N']] ∨ lexemes operator = [.not, .word ['I', 'N']]) := by
  revert operator
  decide

/-- A value, an operator and a list of placeholders, as they are read. -/
theorem lexemes_list {col operator : String} (hcol : QuoteClosed col)
    (hoperator : operator ∈ listOperators) (n : Nat) :
    ∃ ls : List Lexeme, (∀ x ∈ ls, x.Plain)
      ∧ lexemes (col ++ " " ++ operator ++ " (" ++ placeholders n ++ ")")
        = lexemes col ++ (lexemes operator ++ .opening :: (ls ++ [.closing])) := by
  obtain ⟨ls, hplain, hlex⟩ := lexFrom_placeholders n
  refine ⟨ls, hplain, ?_⟩
  have hclosed : QuoteClosed operator := (listOperators_spec hoperator).1
  have htext : (col ++ " " ++ operator ++ " (" ++ placeholders n ++ ")").toList
      = col.toList ++ ' ' :: (operator.toList ++ ' ' :: ('(' :: ((placeholders n).toList ++ [')']))) := by
    simp
  unfold lexemes
  rw [htext, lexFrom_blank [] _ _ hcol, lexFrom_blank [] _ _ hclosed, lexFrom_outside,
    if_neg (by decide), if_neg (by decide), hlex]
  rfl

/-- A value with an operator and a list of placeholders is an atom. -/
theorem isAtom_list {ls ops ms : List Lexeme} (h : IsValue ls)
    (hops : ops = [.word ['I', 'N']] ∨ ops = [.not, .word ['I', 'N']])
    (hms : ∀ x ∈ ms, x.Plain) :
    IsAtom (ls ++ (ops ++ .opening :: (ms ++ [.closing]))) := by
  obtain ⟨hne, hhead, hclosed, hpipe, hand⟩ := h
  have htail : Progress.start.after (ops ++ .opening :: (ms ++ [.closing])) = some .start := by
    have hlist : Progress.start.after (.opening :: (ms ++ [.closing])) = some .start :=
      Progress.after_group (Progress.nesting_after (Progress.start.after_plain hms))
    rw [Progress.after_append]
    rcases hops with rfl | rfl <;> exact hlist
  have hsigns (c : Char) (hc : doubled c ms = false) (hls : doubled c ls = false) :
      doubled c (ls ++ (ops ++ .opening :: (ms ++ [.closing]))) = false := by
    have hlast : doubled c (ms ++ [.closing]) = false := by
      rw [doubled_append (by simp), hc]
      rfl
    rcases hops with rfl | rfl
    · rw [List.cons_append, doubled_append (by simp), hls, List.nil_append,
        doubled_cons (by simp), hlast]
      rfl
    · rw [List.cons_append, doubled_append (by simp), hls, List.cons_append, List.nil_append,
        doubled_cons (by simp), doubled_cons (by simp), hlast]
      rfl
  obtain ⟨hpipe', hand'⟩ := not_doubled_of_plain hms
  refine ⟨by simp [hne], ?_, ?_, ?_, hsigns '|' hpipe' hpipe, hsigns '&' hand' hand⟩
  · rw [List.head?_append, Option.or_of_isSome (List.isSome_head?.mpr hne)]
    exact hhead
  · rw [Progress.after_append, hclosed]
    exact htail
  · exact not_enclosed_of_value ⟨hne, hhead, hclosed, hpipe, hand⟩ (by simp)

/-- A value with an operator and a list of placeholders is read as one atom. -/
theorem readAs_list {col operator : String} (hcol : QuoteClosed col)
    (hvalue : IsValue (lexemes col)) (hoperator : operator ∈ listOperators) (n : Nat) :
    ∃ text, ReadAs (col ++ " " ++ operator ++ " (" ++ placeholders n ++ ")") (.atom text) := by
  obtain ⟨ls, hplain, hlex⟩ := lexemes_list hcol hoperator n
  obtain ⟨-, hclosed, hops⟩ := listOperators_spec hoperator
  have hatom := isAtom_list hvalue hops hplain
  refine ⟨_, ?_, hlex ▸ (Reads.atom hatom).operand.conjunction⟩
  have htext : col ++ " " ++ operator ++ " (" ++ placeholders n ++ ")"
      = col ++ (" " ++ operator ++ " (") ++ placeholders n ++ ")" := by
    simp only [String.append_assoc]
  rw [htext]
  exact ((hcol.append hclosed).append (placeholders_spec n).1).append (by decide)

end SqlComposer.Sql

namespace SqlComposer

open SqlComposer.Sql

/-! ## The clauses of a query -/

namespace Query

/-- A condition on a column with a list of values, as it is written. -/
def listText (aliases : Aliases) (operator : String) (e : String × List Value) : String :=
  column (aliases.resolve e.1) ++ " " ++ operator ++ " (" ++ placeholders e.2.length ++ ")"

/-- All conditions of a query as they are written: its fragments with their aliases resolved, and
its lists of values. -/
def conditionTexts (q : Query) : List String :=
  q.conditions.map q.aliases.resolveCondition
    ++ ((activeLists q.whereIn).map (listText q.aliases "IN")
      ++ (activeLists q.whereNotIn).map (listText q.aliases "NOT IN"))

/-- Whether the conditions of a query can be read. A column of a list that is a plain name always
can; another one has to be a value. -/
structure Readable (q : Query) : Prop where
  fragments : ∀ fragment ∈ q.conditions, ∃ c, ReadAs (q.aliases.resolveCondition fragment) c
  columns : ∀ e ∈ activeLists q.whereIn ++ activeLists q.whereNotIn,
    isExpression (q.aliases.resolve e.1) = true →
      QuoteClosed (q.aliases.resolve e.1) ∧ IsValue (lexemes (q.aliases.resolve e.1))

theorem text_conditionLayouts (q : Query) :
    q.conditionLayouts.map Layout.text = q.conditionTexts := by
  have hlist (operator : String) (e : String × List Value) :
      Layout.text (listLayout q.aliases operator e) = listText q.aliases operator e := by
    simp [listLayout, listText, Piece.text, String.append_assoc]
  simp [conditionLayouts, conditionTexts, hlist, Piece.text, Function.comp_def]

theorem mem_clauses_where {q : Query} (h : q.conditionTexts ≠ []) :
    "WHERE " ++ " AND ".intercalate q.conditionTexts ∈ q.clauses := by
  have hwhere : q.whereLayouts.map Layout.text
      = ["WHERE " ++ " AND ".intercalate q.conditionTexts] := by
    rw [← conjunction_eq, text_conditionLayouts]
    unfold conjunction
    rw [if_neg (by simpa using h)]
  unfold clauses bodyLayouts
  rw [List.map_cons, List.map_append, List.map_append, hwhere]
  simp

theorem mem_clauses_having {q : Query} (hgroup : q.groupBy ≠ []) (hhaving : q.having ≠ []) :
    "HAVING " ++ " AND ".intercalate q.having ∈ q.clauses := by
  have hgroups : [Piece.caller ("HAVING " ++ " AND ".intercalate q.having)] ∈ q.groupLayouts := by
    simp [groupLayouts, hgroup, hhaving]
  have hbody : [Piece.caller ("HAVING " ++ " AND ".intercalate q.having)] ∈ q.bodyLayouts :=
    List.mem_cons_of_mem _ (List.mem_append_right _ (List.mem_append_right _ hgroups))
  unfold clauses
  refine List.mem_map.mpr ⟨_, hbody, ?_⟩
  simp [Piece.text]

/-- The clauses of a query stand in both of its statements. -/
theorem clauses_in_sql {q : Query} {mode : Mode} {c : CompiledQuery}
    (h : q.compile mode = .ok c) :
    ∃ opening closing, c.sql = opening ++ (" " ++ " ".intercalate q.clauses ++ closing) := by
  rw [compile_eq] at h
  obtain ⟨-, rfl⟩ := outcome_eq_ok_iff.mp h
  cases mode with
  | row => exact ⟨_, _, q.composed_sameBody.rowText⟩
  | count => exact ⟨_, _, q.composed_sameBody.countText⟩

theorem readAs_listText {q : Query} (h : q.Readable) {operator : String}
    (hoperator : operator ∈ listOperators) {e : String × List Value}
    (he : e ∈ activeLists q.whereIn ++ activeLists q.whereNotIn) :
    ∃ text, ReadAs (listText q.aliases operator e) (.atom text) := by
  unfold listText
  by_cases hexpr : isExpression (q.aliases.resolve e.1) = true
  · obtain ⟨hclosed, hvalue⟩ := h.columns e he hexpr
    have hcolumn : column (q.aliases.resolve e.1) = q.aliases.resolve e.1 := if_pos hexpr
    rw [hcolumn]
    exact readAs_list hclosed hvalue hoperator _
  · have hcolumn : column (q.aliases.resolve e.1) = quoteName (q.aliases.resolve e.1) :=
      if_neg hexpr
    rw [hcolumn]
    exact readAs_list (inert_quoteName _).1 (isValue_quoteName _) hoperator _

/-- All conditions of a readable query can be read, its lists as atoms. -/
theorem readAs_conditionTexts {q : Query} (h : q.Readable) :
    ∀ t ∈ q.conditionTexts, ∃ c, ReadAs t c := by
  intro t ht
  rcases List.mem_append.mp ht with ht | ht
  · obtain ⟨fragment, hfragment, rfl⟩ := List.mem_map.mp ht
    exact h.fragments fragment hfragment
  · rcases List.mem_append.mp ht with ht | ht
    · obtain ⟨e, he, rfl⟩ := List.mem_map.mp ht
      have hin : "IN" ∈ listOperators := by decide
      obtain ⟨text, hread⟩ := readAs_listText h hin (List.mem_append_left _ he)
      exact ⟨_, hread⟩
    · obtain ⟨e, he, rfl⟩ := List.mem_map.mp ht
      have hnotIn : "NOT IN" ∈ listOperators := by decide
      obtain ⟨text, hread⟩ := readAs_listText h hnotIn (List.mem_append_right _ he)
      exact ⟨_, hread⟩

end Query

/-! ## The condition of an update -/

/-- The condition of an update is the end of its statement. -/
theorem Sql.update_sql {table : String} {data : List (String × Value)} {fragments : List String}
    {values : List Value} {s : Statement} (h : update table data fragments values = .ok s) :
    fragments ≠ [] ∧ s.sql = "UPDATE " ++ quoteName table ++ " SET "
      ++ ", ".intercalate (data.map fun e => quoteName e.1 ++ " = ?") ++ " WHERE "
      ++ " AND ".intercalate fragments := by
  unfold update at h
  by_cases hdata : data.isEmpty
  · rw [if_pos hdata] at h
    exact nomatch h
  · rw [if_neg hdata] at h
    by_cases hnone : fragments.isEmpty
    · rw [if_pos hnone] at h
      exact nomatch h
    · rw [if_neg hnone, mapM_eq_outcome fragments (checkFragment_eq .whereClause),
        List.map_id'] at h
      refine ⟨fun hnil => hnone (by rw [hnil]; rfl), ?_⟩
      cases hissues : fragments.flatMap fun t => (danger? (.whereClause, t)).toList with
      | nil =>
        rw [hissues] at h
        cases h
        rfl
      | cons r rest =>
        rw [hissues] at h
        exact nomatch h

/-! ## What the clauses say -/

/-- The text after `WHERE` and after `HAVING` in a query and after `WHERE` in an update is read as
what the caller listed, joined. It means that all of it holds if only one condition is listed or
none has `OR` at its top, and in general only if each alternative of the text says so. -/
theorem listed_conditions_joined (q : Query) (mode : Mode) (table : String)
    (data : List (String × Value)) (fragments : List String) (values : List Value) :
    (∀ c, q.compile mode = .ok c →
      (∃ opening closing, c.sql = opening ++ (" " ++ " ".intercalate q.clauses ++ closing))
        ∧ (q.Readable → q.conditionTexts ≠ [] →
          ∃ text, "WHERE " ++ text ∈ q.clauses ∧ Conjoined q.conditionTexts text)
        ∧ ((∀ fragment ∈ q.having, ∃ d, ReadAs fragment d) → q.groupBy ≠ [] → q.having ≠ [] →
          ∃ text, "HAVING " ++ text ∈ q.clauses ∧ Conjoined q.having text))
      ∧ ∀ s, update table data fragments values = .ok s →
        (∀ fragment ∈ fragments, ∃ d, ReadAs fragment d) →
          ∃ head text, s.sql = head ++ " WHERE " ++ text ∧ Conjoined fragments text := by
  constructor
  · intro c hcompile
    refine ⟨Query.clauses_in_sql hcompile, ?_, ?_⟩
    · intro hread hne
      exact ⟨_, Query.mem_clauses_where hne, conjoined hne (Query.readAs_conditionTexts hread)⟩
    · intro hread hgroup hne
      exact ⟨_, Query.mem_clauses_having hgroup hne, conjoined hne hread⟩
  · intro s hupdate hread
    obtain ⟨hne, hsql⟩ := Sql.update_sql hupdate
    exact ⟨_, _, hsql, conjoined hne hread⟩

/-- A query for the orders of one tenant, with a fragment that has `OR` at its top. -/
def Query.tenantOrders : Query :=
  { Query.ofTable "orders" [("id", .column "id")] with
    conditions := ["owner = 1 OR shared = 1"], whereIn := [("tenant", [.int 7])] }

/-- What that fragment is read as. -/
def ownerOrShared : Condition :=
  .or (.atom (lexemes "owner = 1")) (.atom (lexemes "shared = 1"))

theorem readAs_ownerOrShared : ReadAs "owner = 1 OR shared = 1" ownerOrShared := by
  have hlex : lexemes "owner = 1 OR shared = 1"
      = lexemes "owner = 1" ++ .or :: lexemes "shared = 1" := by decide
  have howner : IsAtom (lexemes "owner = 1") := by decide
  have hshared : IsAtom (lexemes "shared = 1") := by decide
  refine ⟨by decide, ?_⟩
  rw [hlex]
  exact (Reads.atom howner).operand.or (Reads.atom hshared).operand.conjunction

/-- The conditions of the query can be read, and its clause is what is read of them joined. -/
theorem tenantOrders_joined :
    Query.tenantOrders.compile .row = .ok (Query.tenantOrders.composed .row)
      ∧ Query.tenantOrders.Readable
      ∧ ∃ text, "WHERE " ++ text ∈ Query.tenantOrders.clauses
        ∧ Conjoined Query.tenantOrders.conditionTexts text := by
  have hissues : Query.tenantOrders.issues = [] := by rfl
  have hcompile : Query.tenantOrders.compile .row = .ok (Query.tenantOrders.composed .row) := by
    rw [Query.compile_eq, hissues, outcome_nil]
  have hread : Query.tenantOrders.Readable := by
    constructor
    · intro fragment hfragment
      obtain rfl := List.mem_singleton.mp hfragment
      exact ⟨_, readAs_ownerOrShared⟩
    · intro e he hexpr
      obtain rfl := List.mem_singleton.mp he
      exact absurd hexpr (by decide)
  have hne : Query.tenantOrders.conditionTexts ≠ [] := by decide
  have hlisted := listed_conditions_joined Query.tenantOrders .row "orders" [] [] []
  exact ⟨hcompile, hread, (hlisted.1 _ hcompile).2.1 hread hne⟩

/-- The orders of the owner are found whatever their tenant is: the clause can be true where the
list of tenants is not. -/
theorem alternatives_escape :
    (Query.tenantOrders.compile .row).toOption.map (·.sql)
        = some ("SELECT `id` AS `id` FROM `orders` WHERE owner = 1 OR shared = 1"
          ++ " AND `tenant` IN (?) ORDER BY `id` ASC")
      ∧ ∃ (c d : Condition) (v : Sql.Assignment),
        ReadAs "owner = 1 OR shared = 1 AND `tenant` IN (?)" c ∧ c.holds v = true
          ∧ ReadAs "`tenant` IN (?)" d ∧ d.holds v = false := by
  have hissues : Query.tenantOrders.issues = [] := by rfl
  have htenant : ReadAs "`tenant` IN (?)" (.atom (lexemes "`tenant` IN (?)")) :=
    ⟨by decide, (Reads.atom (by decide)).operand.conjunction⟩
  have htext := readAs_ownerOrShared.joinedAll (.cons htenant .nil)
  constructor
  · rw [Query.compile_eq, hissues, outcome_nil]
    rfl
  · exact ⟨_, _, fun text => text == lexemes "owner = 1", htext, by decide, htenant, by decide⟩

end SqlComposer
