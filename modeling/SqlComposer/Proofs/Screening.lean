import SqlComposer.Proofs.Composition
import SqlComposer.Proofs.QueryRecords
import SqlComposer.Query.Draft

/-!
# What is searched for dangerous patterns

Free text cannot be bound, so all of it is searched before a statement is composed, whether the
mode emits it or not. `Query.screened` lists what is searched in a query and in all queries inside
it. A query as validation leaves it is rejected exactly if something on the list has a sign of the
denylist, and for the first such text; it has no other issues. Records of queries that were made by
validation are read as such queries, so nothing else can be wrong with them.
-/

set_option autoImplicit false

namespace SqlComposer

open SqlComposer.Sql

namespace Query

mutual

/-- The texts that are searched in a query and all queries inside it, with the clause that they
stand in: output columns, joins, conditions, conditions on groups, and union branches. -/
def screened : Query → List (FragmentKind × String)
  | ⟨tables, idField, fields, joins, conditions, whereIn, whereNotIn, having, groupBy, orderBy,
      direction, limit, offset, distinct, union⟩ =>
    let q : Query := ⟨tables, idField, fields, joins, conditions, whereIn, whereNotIn, having,
      groupBy, orderBy, direction, limit, offset, distinct, union⟩
    fieldsScreened fields ++ (q.joinScreened ++ (q.conditionScreened ++ (q.havingScreened
      ++ branchesScreened union)))

/-- The texts that are searched among output columns: raw texts, and those of subqueries. -/
def fieldsScreened : List (String × FieldSpec Query) → List (FragmentKind × String)
  | [] => []
  | (_, .column _) :: rest => fieldsScreened rest
  | (_, .raw text) :: rest => (.rawField, text) :: fieldsScreened rest
  | (_, .subquery q) :: rest => screened q ++ fieldsScreened rest

/-- The texts that are searched in union branches. -/
def branchesScreened : List Query → List (FragmentKind × String)
  | [] => []
  | q :: rest => screened q ++ branchesScreened rest

end

/-! ## Queries as validation leaves them -/

/-- A bound that can be written is no issue. -/
theorem boundIssues_of_writable {bound : Option RowBound}
    (h : bound.all RowBound.isWritable = true) : boundIssues bound = [] := by
  cases bound with
  | none => rfl
  | some b =>
    cases b with
    | whole n => exact if_pos h
    | real x => exact if_pos h

/-- The order and the limits of a query as validation leaves it have no issues. -/
theorem tailIssues_of_checked {q : Query} (h : q.ownChecked = true) : q.tailIssues = [] := by
  unfold ownChecked at h
  rw [Bool.and_eq_true, Bool.and_eq_true] at h
  obtain ⟨⟨hdirection, hlimit⟩, hoffset⟩ := h
  have horder : q.orderIssues = [] := by
    unfold orderIssues
    cases hd : q.direction with
    | unknown text =>
      rw [hd] at hdirection
      exact nomatch hdirection
    | _ => exact ite_self []
  rw [tailIssues, horder, boundIssues_of_writable hlimit, boundIssues_of_writable hoffset]
  rfl

mutual

/-- A query as validation leaves it has no issues but the dangerous texts in it. -/
theorem issues_of_checked : (q : Query) → q.checked = true →
    issues q = (screened q).filterMap danger?
  | ⟨tables, idField, fields, joins, conditions, whereIn, whereNotIn, having, groupBy, orderBy,
      direction, limit, offset, distinct, union⟩, h => by
    rw [checked, Bool.and_eq_true, Bool.and_eq_true] at h
    obtain ⟨⟨hown, hfields⟩, hunion⟩ := h
    have htail : tailIssues ⟨tables, idField, fields, joins, conditions, whereIn, whereNotIn,
        having, groupBy, orderBy, direction, limit, offset, distinct, union⟩ = [] :=
      tailIssues_of_checked hown
    have hfirst := fieldIssues_of_checked fields hfields
    have hlast := branchIssues_of_checked union hunion
    rw [issues, screened, hfirst, hlast]
    simp only [bodyScreened, List.filterMap_append, List.append_assoc, htail, List.nil_append]

theorem fieldIssues_of_checked : (fields : List (String × FieldSpec Query)) →
    fieldsChecked fields = true → fieldIssues fields = (fieldsScreened fields).filterMap danger?
  | [], _ => rfl
  | (_, .column _) :: rest, h => by
    rw [fieldsChecked] at h
    rw [fieldIssues, fieldsScreened]
    exact fieldIssues_of_checked rest h
  | (_, .raw text) :: rest, h => by
    rw [fieldsChecked] at h
    rw [fieldIssues, fieldsScreened, fieldIssues_of_checked rest h, List.filterMap_cons]
    cases danger? (.rawField, text) <;> rfl
  | (_, .subquery q) :: rest, h => by
    rw [fieldsChecked, Bool.and_eq_true] at h
    rw [fieldIssues, fieldsScreened, issues_of_checked q h.1, fieldIssues_of_checked rest h.2,
      List.filterMap_append]

theorem branchIssues_of_checked : (branches : List Query) →
    queriesChecked branches = true →
    branchIssues branches = (branchesScreened branches).filterMap danger?
  | [], _ => rfl
  | q :: rest, h => by
    rw [queriesChecked, Bool.and_eq_true] at h
    rw [branchIssues, branchesScreened, issues_of_checked q h.1, branchIssues_of_checked rest h.2,
      List.filterMap_append]

end

/-! ## Which queries are rejected -/

end Query

/-- A text with a sign of the denylist. -/
def Sql.Dangerous (text : String) : Prop := ∃ sign ∈ denylist, sign.occursIn text.toList = true

/-- A text is let through if it is not dangerous. -/
theorem Sql.dangerIn?_eq_none_iff {text : String} : dangerIn? text = none ↔ ¬ Dangerous text := by
  unfold dangerIn? Dangerous
  rw [List.find?_eq_none]
  simp

namespace Query

/-- A rejection for the first dangerous text of a query, of which the caller gets to see an error
with the label of its clause. -/
def Blames (q : Query) (r : Rejection) : Prop :=
  ∃ before kind text after sign e, q.screened = before ++ (kind, text) :: after
    ∧ (∀ x ∈ before, ¬ Dangerous x.2) ∧ sign ∈ denylist ∧ sign.occursIn text.toList = true
    ∧ r = .dangerous kind text sign ∧ r.failure = .error e ∧ e.code = .dangerousPattern
    ∧ e.message = QueryError.dangerMessage kind.label

/-- A text that is checked passes, whatever its kind, if it is not dangerous. -/
theorem danger?_eq_none_iff {e : FragmentKind × String} : danger? e = none ↔ ¬ Dangerous e.2 := by
  unfold danger?
  rw [Option.map_eq_none_iff, dangerIn?_eq_none_iff]

/-- The first issue of a query as validation leaves it is about its first dangerous text. -/
theorem blames_of_issues {q : Query} (hq : q.checked = true) {r : Rejection}
    (h : q.issues.head? = some r) : q.Blames r := by
  rw [issues_of_checked q hq, List.head?_filterMap] at h
  obtain ⟨before, ⟨kind, text⟩, after, hscreened, hdanger, hbefore⟩ :=
    List.findSome?_eq_some_iff.mp h
  obtain ⟨sign, hsign, rfl⟩ := Option.map_eq_some_iff.mp hdanger
  have hfind : denylist.find? (·.occursIn text.toList) = some sign := hsign
  have hmem : sign ∈ denylist := List.mem_of_find?_eq_some hfind
  have hoccurs : sign.occursIn text.toList = true := by simpa using List.find?_some hfind
  refine ⟨before, kind, text, after, sign, _, hscreened, ?_, hmem, hoccurs, rfl, rfl, rfl, rfl⟩
  intro x hx
  exact danger?_eq_none_iff.mp (hbefore x hx)

/-- A query as validation leaves it is rejected, in either mode, exactly if a text in it is
dangerous, and then for the first one. -/
theorem rejected_iff_dangerous {q : Query} (hq : q.checked = true) (mode : Mode) :
    ((∃ r, q.compile mode = .error r) ↔ ∃ e ∈ q.screened, Dangerous e.2)
      ∧ ∀ r, q.compile mode = .error r → q.Blames r := by
  rw [compile_eq]
  refine ⟨⟨?_, ?_⟩, ?_⟩
  · rintro ⟨r, hr⟩
    obtain ⟨before, kind, text, after, sign, e, hscreened, -, hsign, hoccurs, -⟩ :=
      blames_of_issues hq (outcome_eq_error_iff.mp hr)
    refine ⟨(kind, text), ?_, sign, hsign, hoccurs⟩
    rw [hscreened]
    exact List.mem_append_right before List.mem_cons_self
  · rintro ⟨e, he, hdangerous⟩
    cases hissues : q.issues with
    | cons r rest => exact ⟨r, rfl⟩
    | nil =>
      rw [issues_of_checked q hq, List.filterMap_eq_nil_iff] at hissues
      exact absurd hdangerous (danger?_eq_none_iff.mp (hissues e he))
  · intro r hr
    exact blames_of_issues hq (outcome_eq_error_iff.mp hr)

/-- A record of a query that was made from named values is composed, in either mode, unless a text in
the query is dangerous. Then it is rejected for the first one, and nothing else is ever wrong with
it. -/
theorem compile_fails_iff_dangerous {entries : List (String × Value)} {record : Value}
    (hentries : ∀ e ∈ entries, e.2.Sound)
    (hrecord : RecordKind.queryConfig.construct entries = .ok record) (mode : Mode) :
    ∃ q, Query.ofRecord? record = some q
      ∧ ((∃ f, composeQuery record mode = .error f) ↔ ∃ e ∈ q.screened, Dangerous e.2)
      ∧ ∀ f, composeQuery record mode = .error f → ∃ r, f = r.failure ∧ q.Blames r := by
  obtain ⟨q, hq, hchecked⟩ := exists_query?_of_construct hentries hrecord
  have hcompose : composeQuery record mode = rejecting (q.compile mode) := by
    unfold composeQuery
    rw [hq]
  have herror (f : Failure) : composeQuery record mode = .error f
      ↔ ∃ r, q.compile mode = .error r ∧ f = r.failure := by
    rw [hcompose]
    cases q.compile mode with
    | ok c => exact ⟨nofun, fun ⟨r, hr, _⟩ => nomatch hr⟩
    | error r =>
      constructor
      · rintro ⟨⟩
        exact ⟨r, rfl, rfl⟩
      · rintro ⟨_, ⟨⟩, rfl⟩
        rfl
  obtain ⟨hiff, hblames⟩ := rejected_iff_dangerous hchecked mode
  refine ⟨q, hq, ?_, ?_⟩
  · rw [← hiff]
    constructor
    · rintro ⟨f, hf⟩
      obtain ⟨r, hr, -⟩ := (herror f).mp hf
      exact ⟨r, hr⟩
    · rintro ⟨r, hr⟩
      exact ⟨r.failure, (herror r.failure).mpr ⟨r, hr, rfl⟩⟩
  · intro f hf
    obtain ⟨r, hr, rfl⟩ := (herror f).mp hf
    exact ⟨r, rfl, hblames r hr⟩

/-- A union branch with a dangerous condition on groups, where nothing is grouped. -/
def oldLogs : Value := selection "old" [("at", .text "at")] [.text "1 = 1 -- all"] []

/-- The output columns of a query for what was logged last. -/
def lastColumns : List (String × Value) :=
  [("at", .record .rawExpression [("raw", .text "MAX(at)")] ["raw"])]

/-- The output columns of a query for users, with a subquery that counting does not emit. -/
def userColumns : List (String × Value) :=
  [("id", .text "id"), ("last", selection "logs" lastColumns [] [oldLogs])]

/-- The smuggled text is found in count mode. -/
theorem smuggled_rejected :
    (∀ e ∈ selectionEntries "users" userColumns [] [], e.2.Sound)
      ∧ RecordKind.queryConfig.construct (selectionEntries "users" userColumns [] [])
        = .ok (selection "users" userColumns [] [])
      ∧ ∃ q r, Query.ofRecord? (selection "users" userColumns [] []) = some q
        ∧ composeQuery (selection "users" userColumns [] []) .count = .error r.failure
        ∧ q.Blames r := by
  have hold : RecordKind.queryConfig.construct
      (selectionEntries "old" [("at", .text "at")] [.text "1 = 1 -- all"] []) = .ok oldLogs :=
    construct_selection (by decide) (by decide) (by simp [settled_plainColumn]) (by simp) (by simp)
  have hlast : RecordKind.queryConfig.construct (selectionEntries "logs" lastColumns [] [oldLogs])
      = .ok (selection "logs" lastColumns [] [oldLogs]) := by
    refine construct_selection (by decide) (by decide) ?_ (by simp) ?_
    · simpa [lastColumns] using settled_outputColumn (.inl rfl) [("raw", .text "MAX(at)")] ["raw"]
    · simp [oldLogs, selection, FieldType.settled_record]
  have husers : RecordKind.queryConfig.construct (selectionEntries "users" userColumns [] [])
      = .ok (selection "users" userColumns [] []) := by
    have hlogs : outputColumn.Settled (selection "logs" lastColumns [] [oldLogs]) :=
      settled_outputColumn (.inr rfl) _ _
    exact construct_selection (by decide) (by decide)
      (by simp [userColumns, settled_plainColumn, hlogs]) (by simp) (by simp)
  have hraw : (Value.record .rawExpression [("raw", .text "MAX(at)")] ["raw"]).Sound := by
    have hlength : 1 ≤ "MAX(at)".length := by decide
    refine .record ?_ (by simp)
    simpa [RecordKind.Keeps, RecordKind.fields, fieldOf, lookup?, someText] using hlength
  have holdSound : oldLogs.Sound :=
    (RecordKind.construct_sound (by simp [selectionEntries]) hold).1
  have hlastSound : (selection "logs" lastColumns [] [oldLogs]).Sound :=
    (RecordKind.construct_sound (by simp [selectionEntries, lastColumns, hraw, holdSound]) hlast).1
  have hentries : ∀ e ∈ selectionEntries "users" userColumns [] [], e.2.Sound := by
    simp [selectionEntries, userColumns, hlastSound]
  obtain ⟨q, hq, hiff, hblames⟩ := compile_fails_iff_dangerous hentries husers .count
  have hread : (Query.ofRecord? (selection "users" userColumns [] [])).map screened
      = some [(.rawField, "MAX(at)"), (.havingClause, "1 = 1 -- all")] := by rfl
  have hscreened : q.screened = [(.rawField, "MAX(at)"), (.havingClause, "1 = 1 -- all")] := by
    rw [hq] at hread
    exact Option.some.inj hread
  have hsmuggled : ∃ e ∈ q.screened, Dangerous e.2 := by
    rw [hscreened]
    exact ⟨(.havingClause, "1 = 1 -- all"), by decide, .mark "--", by decide, by decide⟩
  obtain ⟨f, hf⟩ := hiff.mpr hsmuggled
  obtain ⟨r, rfl, hr⟩ := hblames f hf
  exact ⟨hentries, husers, q, r, hq, hf, hr⟩

end Query

end SqlComposer
