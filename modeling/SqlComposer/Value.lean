import SqlComposer.Number.Decimal
import SqlComposer.Calendar

/-!
# Values

The data that travels through the library without being looked at: what callers bind to
placeholders, what a database returns, what a log record carries. Besides the shapes of JSON it
has the scalars of SQL and the records of `SqlComposer.Record`, whose fields are named and whose
explicitly given fields are remembered.

Dictionaries keep the order in which their keys were first given.
-/

set_option autoImplicit false

namespace SqlComposer

/-- The kinds of records that can be described, validated and assigned to. -/
inductive RecordKind where
  | queryConfig
  | rawExpression
  | joinClause
  | orderByItem
  | createTableConfig
  | columnSpec
  | columnOptions
  | generatedColumn
  | indexDefinition
  | foreignKey
  | checkConstraint
  | tableOptions
  | compiledQuery
  | bindSlot
  | compiledStatement
  | queryResult
  | dataPage
  | batchInsertResult
  | queryLoggerConfig
  | databaseSettings
  | queryLogSettings
  | appSettings
  | settings
  deriving DecidableEq, Repr

/-- The name of a kind of records. -/
def RecordKind.name : RecordKind → String
  | .queryConfig => "QueryConfig"
  | .rawExpression => "RawExpression"
  | .joinClause => "JoinClause"
  | .orderByItem => "OrderByItem"
  | .createTableConfig => "CreateTableConfig"
  | .columnSpec => "ColumnSpec"
  | .columnOptions => "ColumnOptions"
  | .generatedColumn => "GeneratedColumn"
  | .indexDefinition => "IndexDefinition"
  | .foreignKey => "ForeignKey"
  | .checkConstraint => "CheckConstraint"
  | .tableOptions => "TableOptions"
  | .compiledQuery => "CompiledQuery"
  | .bindSlot => "BindSlot"
  | .compiledStatement => "CompiledStatement"
  | .queryResult => "QueryResult"
  | .dataPage => "DataPage"
  | .batchInsertResult => "BatchInsertResult"
  | .queryLoggerConfig => "QueryLoggerConfig"
  | .databaseSettings => "DatabaseSettings"
  | .queryLogSettings => "QueryLogSettings"
  | .appSettings => "AppSettings"
  | .settings => "_Settings"

/-- A value of any type. -/
inductive Value where
  | null
  | bool (b : Bool)
  | int (n : Int)
  | float (x : Float)
  | text (s : String)
  | bytes (octets : List UInt8)
  | decimal (d : Number.Decimal)
  | date (d : Date)
  | dateTime (t : DateTime)
  | time (t : TimeOfDay)
  | span (d : TimeSpan)
  | list (items : List Value)
  | tuple (items : List Value)
  | dict (entries : List (String × Value))
  | record (kind : RecordKind) (fields : List (String × Value)) (given : List String)
  deriving Inhabited

/-- The entry of a list of pairs under a key. -/
def lookup? {α : Type} (key : String) : List (String × α) → Option α
  | [] => none
  | (k, a) :: rest => if k == key then some a else lookup? key rest

theorem mem_of_lookup? {α : Type} {key : String} {entries : List (String × α)} {a : α}
    (h : lookup? key entries = some a) : (key, a) ∈ entries := by
  induction entries with
  | nil => cases h
  | cons e rest ih =>
    obtain ⟨k, b⟩ := e
    simp only [lookup?] at h
    split at h
    · next hk =>
      cases h
      rw [beq_iff_eq.mp hk]
      exact List.mem_cons_self
    · exact List.mem_cons_of_mem _ (ih h)

theorem exists_lookup? {α : Type} {key : String} {entries : List (String × α)}
    (h : key ∈ entries.map (·.1)) : ∃ a, lookup? key entries = some a := by
  induction entries with
  | nil => cases h
  | cons e entries ih =>
    obtain ⟨k, a⟩ := e
    by_cases hk : k = key
    · exact ⟨a, by simp [lookup?, hk]⟩
    · obtain ⟨b, hb⟩ := ih ((List.mem_cons.mp h).resolve_left (Ne.symm hk))
      exact ⟨b, by simp [lookup?, hk, hb]⟩

/-- Puts an entry under a key: in the place the key has already, or at the end. -/
def put {α : Type} (key : String) (a : α) : List (String × α) → List (String × α)
  | [] => [(key, a)]
  | (k, b) :: rest => if k == key then (k, a) :: rest else (k, b) :: put key a rest

/-- Puts all entries of the second list into the first, one after another. -/
def putAll {α : Type} (entries new : List (String × α)) : List (String × α) :=
  new.foldl (fun acc e => put e.1 e.2 acc) entries

section Entries

variable {α : Type} {key : String} {a : α} {entries new : List (String × α)}

theorem lookup?_eq_none_iff : lookup? key entries = none ↔ key ∉ entries.map (·.1) := by
  induction entries with
  | nil => simp [lookup?]
  | cons e rest ih =>
    obtain ⟨k, b⟩ := e
    by_cases hk : k = key
    · simp [lookup?, hk]
    · simp [lookup?, hk, Ne.symm hk, ih]

theorem lookup?_of_mem (hkeys : (entries.map (·.1)).Nodup) {e : String × α} (h : e ∈ entries) :
    lookup? e.1 entries = some e.2 := by
  induction entries with
  | nil => cases h
  | cons d rest ih =>
    obtain ⟨k, b⟩ := d
    rw [List.map_cons, List.nodup_cons] at hkeys
    rcases List.mem_cons.mp h with rfl | hrest
    · simp [lookup?]
    · have hk : k ≠ e.1 := fun heq => hkeys.1 (List.mem_map.mpr ⟨e, hrest, heq.symm⟩)
      simp [lookup?, hk, ih hkeys.2 hrest]

theorem lookup?_append (key : String) (entries new : List (String × α)) :
    lookup? key (entries ++ new) = (lookup? key entries).or (lookup? key new) := by
  induction entries with
  | nil => rfl
  | cons e rest ih =>
    obtain ⟨k, b⟩ := e
    by_cases hk : k = key <;> simp [lookup?, hk, ih]

/-- Taking away the entries of some keys leaves the entries of the others. -/
theorem lookup?_filter (key : String) (entries : List (String × α)) (p : String → Bool) :
    lookup? key (entries.filter fun e => p e.1) = if p key then lookup? key entries else none := by
  induction entries with
  | nil => simp [lookup?]
  | cons e rest ih =>
    obtain ⟨k, b⟩ := e
    by_cases hk : k = key
    · subst hk
      by_cases hp : p k <;> simp [lookup?, hp, ih]
    · by_cases hp : p k <;> simp [lookup?, hp, hk, ih]

theorem lookup?_put (k : String) (a : α) (entries : List (String × α)) (key : String) :
    lookup? key (put k a entries) = if k = key then some a else lookup? key entries := by
  induction entries with
  | nil => simp [put, lookup?]
  | cons e rest ih =>
    obtain ⟨first, b⟩ := e
    by_cases hfirst : first = k
    · subst hfirst
      by_cases h : first = key <;> simp [put, lookup?, h]
    · by_cases hkey : first = key
      · subst hkey
        simp [put, lookup?, hfirst, Ne.symm hfirst]
      · simp [put, lookup?, hfirst, hkey, ih]

theorem mem_put {e : String × α} (h : e ∈ put key a entries) : e ∈ entries ∨ e = (key, a) := by
  induction entries with
  | nil => exact .inr (List.mem_singleton.mp h)
  | cons d rest ih =>
    obtain ⟨k, b⟩ := d
    unfold put at h
    split at h
    · next hk =>
      rcases List.mem_cons.mp h with h | h
      · exact .inr (h.trans (by rw [beq_iff_eq.mp hk]))
      · exact .inl (List.mem_cons_of_mem _ h)
    · rcases List.mem_cons.mp h with rfl | h
      · exact .inl List.mem_cons_self
      · exact (ih h).imp_left (List.mem_cons_of_mem _)

theorem mem_putAll {e : String × α} (h : e ∈ putAll entries new) : e ∈ entries ∨ e ∈ new := by
  induction new generalizing entries with
  | nil => exact .inl h
  | cons d new ih =>
    rcases ih h with h | h
    · rcases mem_put h with h | rfl
      · exact .inl h
      · exact .inr List.mem_cons_self
    · exact .inr (List.mem_cons_of_mem d h)

theorem nodup_put (h : (entries.map (·.1)).Nodup) : ((put key a entries).map (·.1)).Nodup := by
  induction entries with
  | nil => simp [put]
  | cons e rest ih =>
    obtain ⟨k, b⟩ := e
    rw [List.map_cons, List.nodup_cons] at h
    unfold put
    split
    · rwa [List.map_cons, List.nodup_cons]
    · next hk =>
      rw [List.map_cons, List.nodup_cons]
      refine ⟨fun hmem => ?_, ih h.2⟩
      obtain ⟨d, hd, hdk⟩ := List.mem_map.mp hmem
      rcases mem_put hd with hd | rfl
      · exact h.1 (hdk ▸ List.mem_map_of_mem hd)
      · exact hk (beq_iff_eq.mpr hdk.symm)

/-- Keys that were different stay so, whatever is put under them and others. -/
theorem nodup_putAll (h : (entries.map (·.1)).Nodup) :
    ((putAll entries new).map (·.1)).Nodup := by
  induction new generalizing entries with
  | nil => exact h
  | cons e new ih => exact ih (nodup_put h)

/-- What was put in counts, and otherwise what was there. -/
theorem lookup?_putAll (h : (new.map (·.1)).Nodup) (key : String) :
    lookup? key (putAll entries new) = (lookup? key new).or (lookup? key entries) := by
  induction new generalizing entries with
  | nil => rfl
  | cons e new ih =>
    obtain ⟨k, b⟩ := e
    rw [List.map_cons, List.nodup_cons] at h
    have hrest : lookup? key (putAll entries ((k, b) :: new))
        = (lookup? key new).or (lookup? key (put k b entries)) := ih h.2
    rw [hrest, lookup?_put]
    by_cases hk : k = key
    · subst hk
      simp [lookup?, lookup?_eq_none_iff.mpr h.1]
    · simp [lookup?, hk]

theorem put_of_not_mem (h : key ∉ entries.map (·.1)) :
    put key a entries = entries ++ [(key, a)] := by
  induction entries with
  | nil => rfl
  | cons e entries ih =>
    obtain ⟨k, b⟩ := e
    rw [List.map_cons, List.mem_cons, not_or] at h
    rw [put, if_neg (by simpa using Ne.symm h.1), ih h.2, List.cons_append]

/-- Where no key occurs twice, entries are just put at the end. -/
theorem putAll_of_nodup (h : ((entries ++ new).map (·.1)).Nodup) :
    putAll entries new = entries ++ new := by
  induction new generalizing entries with
  | nil => rw [List.append_nil]; rfl
  | cons e new ih =>
    obtain ⟨k, b⟩ := e
    have hall : entries ++ (k, b) :: new = (entries ++ [(k, b)]) ++ new := by simp
    have hfresh : k ∉ entries.map (·.1) := by
      rw [List.map_append, List.nodup_append] at h
      exact fun hk => h.2.2 k hk k (by simp) rfl
    rw [hall] at h ⊢
    rw [← ih h, putAll, putAll, List.foldl_cons, put_of_not_mem hfresh]

end Entries

namespace Value

/-- The entry of a dictionary or the field of a record under a name. -/
def get? (key : String) : Value → Option Value
  | .dict entries => lookup? key entries
  | .record _ fields _ => lookup? key fields
  | _ => none

/-- The entry under a name, or null. -/
def get (key : String) (v : Value) : Value := (v.get? key).getD .null

/-- Whether the value is null. -/
def isNull : Value → Bool
  | .null => true
  | _ => false

/-- Whether the value counts as true: it is not null, not false, not zero and not empty. -/
def truthy : Value → Bool
  | .null => false
  | .bool b => b
  | .int n => n != 0
  | .float x => !(x == 0.0)
  | .text s => s != ""
  | .bytes bs => !bs.isEmpty
  | .decimal d => !d.isZero
  | .span d => d != ⟨0, 0, 0⟩
  | .list xs => !xs.isEmpty
  | .tuple xs => !xs.isEmpty
  | .dict es => !es.isEmpty
  | .date _ | .dateTime _ | .time _ | .record .. => true

/-- Whether the value is a number equal to a whole number. -/
def equalsInt (v : Value) (n : Int) : Bool :=
  match v with
  | .int m => m == n
  | .bool b => (if b then 1 else 0) == n
  | .float x => match Number.Binary.ofFloat? x with
    | some b => b.isWhole && b.truncate == n
    | none => false
  | .decimal d => d.equalsInt n
  | _ => false

/-- Whether the value is a decimal that fails wherever it is compared. -/
def signals : Value → Bool
  | .decimal (.notNumber _ signalling _) => signalling
  | _ => false

/-- The text of a textual value. -/
def text? : Value → Option String
  | .text s => some s
  | _ => none

/-- The items of a list or tuple. -/
def items? : Value → Option (List Value)
  | .list xs => some xs
  | .tuple xs => some xs
  | _ => none

/-- The fields of a record as pairs of name and value. -/
def pairs : List (String × Value) → List Value
  | [] => []
  | (name, v) :: rest => .tuple [.text name, v] :: pairs rest

/-- The items of what can be read as a list: a list, a tuple, or a record, whose items are its
fields as pairs of name and value. -/
def listItems? : Value → Option (List Value)
  | .list xs => some xs
  | .tuple xs => some xs
  | .record _ fields _ => some (pairs fields)
  | _ => none

/-- A pair of a name and a value is smaller than the record it comes from. -/
theorem sizeOf_lt_of_mem_pairs {fields : List (String × Value)} {x : Value}
    (h : x ∈ pairs fields) : sizeOf x < 3 + sizeOf fields := by
  induction fields with
  | nil => simp [pairs] at h
  | cons e rest ih =>
    obtain ⟨name, v⟩ := e
    simp only [pairs, List.mem_cons] at h
    have : 0 < sizeOf rest := by cases rest <;> simp +arith
    rcases h with rfl | h
    · simp; omega
    · have := ih h
      simp; omega

/-- The items of a value are smaller than the value. -/
theorem sizeOf_lt_of_mem_listItems? {v x : Value} {xs : List Value} (h : v.listItems? = some xs)
    (hx : x ∈ xs) : sizeOf x < sizeOf v := by
  cases v with
  | list ys =>
    simp only [listItems?, Option.some.injEq] at h
    subst h
    have := List.sizeOf_lt_of_mem hx
    simp; omega
  | tuple ys =>
    simp only [listItems?, Option.some.injEq] at h
    subst h
    have := List.sizeOf_lt_of_mem hx
    simp; omega
  | record kind fields given =>
    simp only [listItems?, Option.some.injEq] at h
    subst h
    have h1 := sizeOf_lt_of_mem_pairs hx
    have h2 : 0 < sizeOf given := by cases given <;> simp +arith
    have h3 : 0 < sizeOf kind := by cases kind <;> simp
    simp; omega
  | _ => simp [listItems?] at h

/-- The items of a list or tuple; none for anything else. -/
def items (v : Value) : List Value := v.items?.getD []

/-- The entries of a dictionary. -/
def entries? : Value → Option (List (String × Value))
  | .dict es => some es
  | _ => none

/-- The entries of a dictionary; none for anything else. -/
def entries (v : Value) : List (String × Value) := v.entries?.getD []

/-- A text, or null in its absence. -/
def ofText? : Option String → Value
  | some s => .text s
  | none => .null

end Value

end SqlComposer
