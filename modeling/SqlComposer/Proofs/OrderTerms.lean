import SqlComposer.Proofs.Directions
import SqlComposer.Proofs.Screening

/-!
# What rows are sorted by

A row statement sorts by one column and direction for each order entry, and by the column that
identifies a row if there are none. `SortsBy` says which column and direction an entry asks for:
there is one of each, the direction is a keyword whatever the letters were that it was written
with, and the term of the entry is composed of these two.
-/

set_option autoImplicit false

namespace SqlComposer

open SqlComposer.Text SqlComposer.Sql

namespace Query

/-- The column and the direction that an order entry of a query sorts by. A shared direction goes
before one that is written in a text, and does not count for an entry with a direction of its
own. -/
inductive SortsBy (q : Query) : OrderEntry → (column direction : String) → Prop where
  | suffixed {text before word : String} (h : DirectionSuffix text before word) :
    SortsBy q (.text text) (column (q.aliases.resolve (trim before)))
      ((q.sharedDirection.map (·.keyword)).getD (upper word))
  | bare {text : String} (h : ∀ before word, ¬DirectionSuffix text before word) :
    SortsBy q (.text text) (column (q.aliases.resolve (trim text)))
      ((q.sharedDirection.map (·.keyword)).getD "ASC")
  | item (name : String) (own : Option SortDirection) :
    SortsBy q (.item name own) (column (q.aliases.resolve name))
      ((own.map (·.keyword)).getD "ASC")

/-- The column that an order entry is composed with. -/
def sortColumn (q : Query) : OrderEntry → String
  | .text text => column (q.aliases.resolveOrder text).1
  | .item name _ => column (q.aliases.resolve name)

/-- The direction that an order entry is composed with. -/
def sortDirection (q : Query) : OrderEntry → SortDirection
  | .text text => entryDirection q.sharedDirection (q.aliases.resolveOrder text).2
  | .item _ own => own.getD .asc

/-- A term is a column and a direction. -/
theorem orderTerm_eq (q : Query) (entry : OrderEntry) :
    orderTerm q.aliases q.sharedDirection entry
      = q.sortColumn entry ++ " " ++ (q.sortDirection entry).keyword := by
  cases entry <;> rfl

/-- The shared direction comes first, then the one written with the column, then the usual one. -/
theorem keyword_entryDirection (shared written : Option SortDirection) :
    (entryDirection shared written).keyword
      = (shared.map (·.keyword)).getD ((written.map (·.keyword)).getD "ASC") := by
  cases shared <;> cases written <;> rfl

/-- An entry that ends with a direction sorts by what stands before it, in that direction unless
there is a shared one. -/
theorem sort_of_suffix (q : Query) {text before word : String}
    (h : DirectionSuffix text before word) :
    q.sortColumn (.text text) = column (q.aliases.resolve (trim before))
      ∧ (q.sortDirection (.text text)).keyword
        = (q.sharedDirection.map (·.keyword)).getD (upper word) := by
  obtain ⟨direction, hresolve, hupper⟩ := q.aliases.resolveOrder_of_suffix h
  simp only [sortColumn, sortDirection, hresolve, keyword_entryDirection, hupper]
  exact ⟨trivial, rfl⟩

/-- An entry that does not end with a direction sorts by its column, in the shared direction if
there is one. -/
theorem sort_of_no_suffix (q : Query) {text : String}
    (h : ∀ before word, ¬DirectionSuffix text before word) :
    q.sortColumn (.text text) = column (q.aliases.resolve (trim text))
      ∧ (q.sortDirection (.text text)).keyword
        = (q.sharedDirection.map (·.keyword)).getD "ASC" := by
  simp only [sortColumn, sortDirection, q.aliases.resolveOrder_of_no_suffix h,
    keyword_entryDirection]
  exact ⟨trivial, rfl⟩

/-- An entry with a direction of its own sorts in that direction. -/
theorem sort_of_item (q : Query) (name : String) (own : Option SortDirection) :
    q.sortColumn (.item name own) = column (q.aliases.resolve name)
      ∧ (q.sortDirection (.item name own)).keyword = (own.map (·.keyword)).getD "ASC" := by
  cases own <;> exact ⟨rfl, rfl⟩

/-- An entry is composed with what it sorts by, and sorts by nothing else. -/
theorem sortsBy_iff {q : Query} {entry : OrderEntry} {column direction : String} :
    q.SortsBy entry column direction
      ↔ column = q.sortColumn entry ∧ direction = (q.sortDirection entry).keyword := by
  constructor
  · intro h
    cases h with
    | suffixed h =>
      obtain ⟨hcolumn, hdirection⟩ := q.sort_of_suffix h
      exact ⟨hcolumn.symm, hdirection.symm⟩
    | bare h =>
      obtain ⟨hcolumn, hdirection⟩ := q.sort_of_no_suffix h
      exact ⟨hcolumn.symm, hdirection.symm⟩
    | item name own =>
      obtain ⟨hcolumn, hdirection⟩ := q.sort_of_item name own
      exact ⟨hcolumn.symm, hdirection.symm⟩
  · rintro ⟨rfl, rfl⟩
    cases entry with
    | item name own =>
      obtain ⟨hcolumn, hdirection⟩ := q.sort_of_item name own
      rw [hcolumn, hdirection]
      exact .item name own
    | text text =>
      by_cases hsuffix : ∃ before word, DirectionSuffix text before word
      · obtain ⟨before, word, hsuffix⟩ := hsuffix
        obtain ⟨hcolumn, hdirection⟩ := q.sort_of_suffix hsuffix
        rw [hcolumn, hdirection]
        exact .suffixed hsuffix
      · have hnone : ∀ before word, ¬DirectionSuffix text before word :=
          fun before word h => hsuffix ⟨before, word, h⟩
        obtain ⟨hcolumn, hdirection⟩ := q.sort_of_no_suffix hnone
        rw [hcolumn, hdirection]
        exact .bare hnone

/-- A term is composed of what an entry sorts by. -/
def ComposedTerm (q : Query) (entry : OrderEntry) (term : String) : Prop :=
  ∃ column direction, term = column ++ " " ++ direction
    ∧ (direction = "ASC" ∨ direction = "DESC")
    ∧ ∀ column' direction', q.SortsBy entry column' direction'
      ↔ column' = column ∧ direction' = direction

/-- Every entry is composed to the term it asks for. -/
theorem composedTerm_orderTerm (q : Query) (entry : OrderEntry) :
    q.ComposedTerm entry (orderTerm q.aliases q.sharedDirection entry) := by
  refine ⟨_, _, q.orderTerm_eq entry, ?_, fun _ _ => sortsBy_iff⟩
  cases q.sortDirection entry
  · exact Or.inl rfl
  · exact Or.inr rfl

/-- The terms that a query is composed to sort by. -/
def orderTerms (q : Query) : List String :=
  if q.orderBy.isEmpty then [usualTerm q.idField]
  else q.orderBy.map (orderTerm q.aliases q.sharedDirection)

/-- What follows the order in a row statement: the limits and the union branches. -/
def endTexts (q : Query) : List String :=
  (boundLayouts "LIMIT" q.limit ++ (boundLayouts "OFFSET" q.offset ++ branchLayouts q.union)).map
    Layout.text

/-- The order stands between the clauses of a row statement and its limits. -/
theorem text_rowLayout (q : Query) :
    Layout.text q.rowLayout = " ".intercalate
      (rowHead q.distinct ((fieldLayouts q.fields).map Layout.text)
        :: (q.clauses ++ (ordering q.orderTerms :: q.endTexts))) := by
  have horder : Layout.text [.caller q.orderText] = ordering q.orderTerms := by
    simp [Layout.text, Piece.text, orderText, orderTerms]
  rw [rowLayout_eq, Layout.text_separated, List.map_cons, text_rowHead]
  simp [clauses, tailLayouts, endTexts, horder]

/-- What it means that a query is sorted by some terms: they are those of its entries, or the
column that identifies a row if there are no entries, and the row statement orders by them. If
validation lets the query through, there is a row statement unless a text in it is dangerous. -/
structure SortedBy (q : Query) (terms : List String) : Prop where
  usual : q.orderBy = [] → terms = [quoteName q.idField ++ " ASC"]
  entries : q.orderBy ≠ [] → List.Forall₂ q.ComposedTerm q.orderBy terms
  statement : (∃ c, q.compile .row = .ok c ∧ c.sql = " ".intercalate
      (rowHead q.distinct ((fieldLayouts q.fields).map Layout.text)
        :: (q.clauses ++ ("ORDER BY " ++ ", ".intercalate terms) :: q.endTexts)))
    ∨ ∃ r, q.compile .row = .error r ∧ (q.checked = true → q.Blames r)

/-- A query is sorted as its entries ask for. Those that are made from named values are checked
(`exists_query?_of_construct`), so only a dangerous text keeps them from being sorted. -/
theorem rows_sorted_as_asked (q : Query) : q.SortedBy q.orderTerms := by
  refine ⟨fun hempty => ?_, fun hne => ?_, ?_⟩
  · unfold orderTerms
    rw [if_pos (List.isEmpty_iff.mpr hempty)]
    rfl
  · unfold orderTerms
    rw [if_neg fun h => hne (List.isEmpty_iff.mp h), List.forall₂_map_right_iff,
      List.forall₂_same]
    exact fun entry _ => q.composedTerm_orderTerm entry
  · rw [compile_eq]
    cases hissues : q.issues with
    | nil => exact Or.inl ⟨q.composed .row, rfl, q.text_rowLayout⟩
    | cons r rest =>
      refine Or.inr ⟨r, rfl, fun hq => blames_of_issues hq ?_⟩
      rw [hissues, List.head?_cons]

/-- A query for people by their names, with a long s in a direction. -/
def byName : Query :=
  { ofTable "users" [("id", .column "id"), ("name", .column "full_name")] with
    orderBy := [.text " name\tdeſc\n", .text "born", .item "name desc" (some .desc)]
    limit := some (.whole 20) }

/-- The direction with a long s is written as a keyword. -/
theorem byName_sorted :
    byName.checked = true ∧ byName.SortedBy byName.orderTerms
    ∧ byName.orderTerms = ["`full_name` DESC", "`born` ASC", "`name desc` DESC"] :=
  ⟨rfl, byName.rows_sorted_as_asked, by decide +kernel⟩

end Query

end SqlComposer
