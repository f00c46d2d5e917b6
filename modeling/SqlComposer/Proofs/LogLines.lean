import SqlComposer.Log.Record
import SqlComposer.Proofs.JsonReading

/-!
# Log lines that are read back

A record that is written as JSON is one line of visible ASCII, whatever texts it carries, and
reading the line gives one object. Several hands write into that object. The attributes come first,
those of the scope among them. The record's own parts are put over attributes of the same name, then
the trace and the span that another tool has named, and the line about the failure last. So nothing
that a caller passes along can stand for the moment, the level, the logger or the message.

There are two ways to keep a record that is dated from being written: an attribute that is called
like the method that is asked for the message, and a whole number with too many digits, in the
message or anywhere in the line.
-/

set_option autoImplicit false

namespace SqlComposer.Log

namespace Record

/-- The record after it has passed a scope, or as it was made if there is none. -/
def passed (r : Record) : Option Scope → Record
  | some s => r.tagged s
  | none => r

/-- The names under which a line has what is the record's own. -/
def ownNames : List String := ["timestamp", "level", "logger", "message"]

/-- The entries of a record's own, which no attribute replaces. -/
def ownEntries (r : Record) (date : DateTime) (message : String) : List (String × Value) :=
  [("timestamp", .text date.momentText), ("level", r.level), ("logger", r.logger),
    ("message", .text message)]

/-- An entry, if there is something to stand in it. -/
def entryOf (name : String) : Option Value → List (String × Value)
  | some v => [(name, v)]
  | none => []

/-- Whether something else than the attribute of a name stands under that name in the line of a
record. -/
def Replaced (r : Record) (scope : Option Scope) (failure : Option String) (name : String) : Prop :=
  name ∈ ownNames
    ∨ (name = "trace_id" ∧ "otelTraceID" ∈ r.attributes.map (·.1))
    ∨ (name = "span_id" ∧ "otelSpanID" ∈ r.attributes.map (·.1))
    ∨ (name = "exception" ∧ failure ≠ none)
    ∨ ∃ s, scope = some s ∧ name ∈ s.attributes.map (·.1)

/-- What the line of a record tells that passed a scope, if there is one. -/
structure Tells (r : Record) (scope : Option Scope) (date : DateTime) (message : String)
    (failure : Option String) (entries : List (String × Value)) : Prop where
  /-- Nothing is told twice. -/
  keys : (entries.map (·.1)).Nodup
  timestamp : lookup? "timestamp" entries = some (.text date.momentText)
  level : lookup? "level" entries = some r.level
  logger : lookup? "logger" entries = some r.logger
  message : lookup? "message" entries = some (.text message)
  exception : ∀ line, failure = some line → lookup? "exception" entries = some (.text line)
  trace : ∀ v, lookup? "otelTraceID" r.attributes = some v → lookup? "trace_id" entries = some v
  span : ∀ v, lookup? "otelSpanID" r.attributes = some v → lookup? "span_id" entries = some v
  /-- What the scope adds stands in the line, unless another tool has named the trace or span, over
  attributes of the same name. -/
  added : ∀ s, scope = some s → ∀ e ∈ s.attributes,
    (e.1 = "trace_id" → lookup? "otelTraceID" r.attributes = none) →
    (e.1 = "span_id" → lookup? "otelSpanID" r.attributes = none) → lookup? e.1 entries = some e.2
  reserved : ∀ name ∈ reservedNames, name ≠ "message" → lookup? name entries = none
  /-- Every other attribute stands under its name with its value, and nothing else is told. -/
  others : ∀ name, name ∉ reservedNames → ¬ r.Replaced scope failure name →
    lookup? name entries = lookup? name r.attributes

section Fields

variable {r : Record} {scope : Option Scope} {date : DateTime} {message : String}
  {failure : Option String}

theorem nodup_scopeAttributes (s : Scope) : (s.attributes.map (·.1)).Nodup := by
  simp [Scope.attributes]

/-- What a scope adds stands over the attributes. -/
theorem lookup?_passed_some (s : Scope) (name : String) :
    lookup? name (r.passed (some s)).attributes
      = (lookup? name s.attributes).or (lookup? name r.attributes) :=
  lookup?_putAll (nodup_scopeAttributes s) name

/-- An attribute stays unless the scope adds one of its name. -/
theorem lookup?_passed_of_not_mem {name : String}
    (h : ∀ s, scope = some s → name ∉ s.attributes.map (·.1)) :
    lookup? name (r.passed scope).attributes = lookup? name r.attributes := by
  cases scope with
  | none => rfl
  | some s => rw [lookup?_passed_some, lookup?_eq_none_iff.mpr (h s rfl), Option.none_or]

/-- Every scope adds the same names. -/
theorem lookup?_passed_of_plain {name : String} (h : name ∉ Scope.outside.attributes.map (·.1)) :
    lookup? name (r.passed scope).attributes = lookup? name r.attributes :=
  lookup?_passed_of_not_mem fun _ _ => h

/-- The attributes that are shown are those without reserved names. -/
theorem lookup?_shownAttributes (hnames : (r.attributes.map (·.1)).Nodup) (name : String) :
    lookup? name r.shownAttributes
      = if reservedNames.contains name then none else lookup? name r.attributes := by
  have hfiltered : ((r.attributes.filter fun e => !reservedNames.contains e.1).map (·.1)).Nodup :=
    hnames.sublist (List.filter_sublist.map _)
  have hshown := lookup?_filter name r.attributes fun key => !reservedNames.contains key
  rw [shownAttributes, lookup?_putAll hfiltered, hshown]
  cases reservedNames.contains name <;> simp [lookup?]

@[simp] theorem lookup?_entryOf (key name : String) (v : Option Value) :
    lookup? key (entryOf name v) = if name = key then v else none := by
  cases v <;> simp [entryOf, lookup?]

/-- The line of a record as its attributes and what is put over them. -/
theorem fields_eq (r : Record) (date : DateTime) (message : String) (failure : Option String) :
    r.fields date message failure = putAll r.shownAttributes
      (r.ownEntries date message ++ (entryOf "trace_id" (lookup? "otelTraceID" r.attributes)
        ++ entryOf "span_id" (lookup? "otelSpanID" r.attributes))
        ++ entryOf "exception" (failure.map .text)) := by
  cases failure <;> rfl

/-- What is put over the attributes has different names. -/
theorem nodup_replacing (trace span exception : Option Value) :
    ((r.ownEntries date message ++ (entryOf "trace_id" trace ++ entryOf "span_id" span)
      ++ entryOf "exception" exception).map (·.1)).Nodup := by
  cases trace <;> cases span <;> cases exception <;> simp [ownEntries, entryOf]

/-- What stands in a line: the record's own entries over the rest, and attributes last. -/
theorem lookup?_fields (hnames : (r.attributes.map (·.1)).Nodup) (date : DateTime)
    (message : String) (failure : Option String) (name : String) :
    lookup? name (r.fields date message failure)
      = (((lookup? name (r.ownEntries date message)).or
          ((if "trace_id" = name then lookup? "otelTraceID" r.attributes else none).or
            (if "span_id" = name then lookup? "otelSpanID" r.attributes else none))).or
          (if "exception" = name then failure.map .text else none)).or
          (if reservedNames.contains name then none else lookup? name r.attributes) := by
  rw [fields_eq, lookup?_putAll (nodup_replacing _ _ _), lookup?_shownAttributes hnames]
  simp only [lookup?_append, lookup?_entryOf]

/-- A scope adds no name twice. -/
theorem nodup_passed (hnames : (r.attributes.map (·.1)).Nodup) (scope : Option Scope) :
    ((r.passed scope).attributes.map (·.1)).Nodup := by
  cases scope with
  | none => exact hnames
  | some s => exact nodup_putAll hnames

/-- The record itself has nothing under other names. -/
theorem lookup?_ownEntries_none {name : String} (h : name ∉ ownNames) :
    lookup? name (r.ownEntries date message) = none :=
  lookup?_eq_none_iff.mpr h

/-- What stands in the line of a record that passed a scope. -/
theorem lookup?_passed_fields (hnames : (r.attributes.map (·.1)).Nodup) (scope : Option Scope)
    (date : DateTime) (message : String) (failure : Option String) (name : String) :
    lookup? name ((r.passed scope).fields date message failure)
      = (((lookup? name (r.ownEntries date message)).or
          ((if "trace_id" = name then lookup? "otelTraceID" r.attributes else none).or
            (if "span_id" = name then lookup? "otelSpanID" r.attributes else none))).or
          (if "exception" = name then failure.map .text else none)).or
          (if reservedNames.contains name then none
            else lookup? name (r.passed scope).attributes) := by
  have hown : (r.passed scope).ownEntries date message = r.ownEntries date message := by
    cases scope <;> rfl
  have htrace : lookup? "otelTraceID" (r.passed scope).attributes
      = lookup? "otelTraceID" r.attributes := lookup?_passed_of_plain (by decide)
  have hspan : lookup? "otelSpanID" (r.passed scope).attributes
      = lookup? "otelSpanID" r.attributes := lookup?_passed_of_plain (by decide)
  rw [lookup?_fields (nodup_passed hnames scope), hown, htrace, hspan]

/-- The line of a record tells of it. -/
theorem tells_fields (hnames : (r.attributes.map (·.1)).Nodup) (scope : Option Scope)
    (date : DateTime) (message : String) (failure : Option String) :
    r.Tells scope date message failure ((r.passed scope).fields date message failure) := by
  have hfields := lookup?_passed_fields hnames scope date message failure
  constructor
  case keys => exact nodup_putAll (nodup_putAll List.nodup_nil)
  case timestamp => rw [hfields]; rfl
  case level => rw [hfields]; rfl
  case logger => rw [hfields]; rfl
  case message => rw [hfields]; rfl
  case exception =>
    rintro line rfl
    rw [hfields, lookup?_ownEntries_none (by decide)]
    rfl
  case trace =>
    intro v hv
    rw [hfields, hv, lookup?_ownEntries_none (by decide)]
    rfl
  case span =>
    intro v hv
    rw [hfields, hv, lookup?_ownEntries_none (by decide)]
    rfl
  case added =>
    rintro s rfl e he htrace hspan
    have hlookup : lookup? e.1 s.attributes = some e.2 :=
      lookup?_of_mem (nodup_scopeAttributes s) he
    have hplain : ∀ name ∈ Scope.outside.attributes.map (·.1),
        name ∉ ownNames ∧ "exception" ≠ name ∧ reservedNames.contains name = false := by decide
    obtain ⟨hown, hexception, hreserved⟩ := hplain e.1 (List.mem_map_of_mem (f := (·.1)) he)
    rw [hfields, lookup?_ownEntries_none hown, if_neg hexception, hreserved, lookup?_passed_some,
      hlookup, ite_eq_right_iff.mpr fun h => htrace h.symm,
      ite_eq_right_iff.mpr fun h => hspan h.symm]
    rfl
  case reserved =>
    intro name hname hmessage
    have hplain : ∀ name ∈ reservedNames, name ≠ "message" →
        name ∉ ownNames ∧ "trace_id" ≠ name ∧ "span_id" ≠ name ∧ "exception" ≠ name := by decide
    obtain ⟨hown, htrace, hspan, hexception⟩ := hplain name hname hmessage
    rw [hfields, lookup?_ownEntries_none hown, if_neg htrace, if_neg hspan, if_neg hexception,
      if_pos (List.contains_iff_mem.mpr hname)]
    rfl
  case others =>
    intro name hname hreplaced
    simp only [Replaced, not_or, not_and, not_exists] at hreplaced
    obtain ⟨hown, htrace, hspan, hexception, hscope⟩ := hreplaced
    have hfailure : (if "exception" = name then failure.map Value.text else none) = none := by
      rw [ite_eq_right_iff]
      rintro rfl
      rw [not_not.mp (hexception rfl)]
      rfl
    rw [hfields, lookup?_ownEntries_none hown, hfailure, lookup?_passed_of_not_mem hscope,
      if_neg (mt List.contains_iff_mem.mp hname),
      ite_eq_right_iff.mpr fun h => lookup?_eq_none_iff.mpr (htrace h.symm),
      ite_eq_right_iff.mpr fun h => lookup?_eq_none_iff.mpr (hspan h.symm)]
    rfl

/-- The record carries nothing that JSON has no form for. -/
structure JsonLike (r : Record) : Prop where
  keys : (r.attributes.map (·.1)).Nodup
  attributes : ∀ e ∈ r.attributes, e.2.JsonLike
  level : r.level.JsonLike
  logger : r.logger.JsonLike

theorem jsonLike_ofText? (s : Option String) : (Value.ofText? s).JsonLike := by
  cases s with
  | none => exact .null
  | some s => exact .text s

/-- What a scope adds are texts or null. -/
theorem jsonLike_scopeAttributes (s : Scope) : ∀ e ∈ s.attributes, e.2.JsonLike := by
  simp only [Scope.attributes, List.forall_mem_cons]
  exact ⟨jsonLike_ofText? _, jsonLike_ofText? _, jsonLike_ofText? _, .text _, .text _, nofun⟩

/-- A scope adds nothing that JSON has no form for. -/
theorem JsonLike.passed (h : r.JsonLike) (scope : Option Scope) : (r.passed scope).JsonLike := by
  cases scope with
  | none => exact h
  | some s =>
    refine ⟨nodup_putAll h.keys, fun e he => ?_, h.level, h.logger⟩
    exact (mem_putAll he).elim (h.attributes e) (jsonLike_scopeAttributes s e)

/-- An attribute stays within what JSON has a form for, also if it replaces a part of the record. -/
theorem JsonLike.withAttribute (h : r.JsonLike) (name : String) {v : Value} (hv : v.JsonLike) :
    (r.withAttribute name v).JsonLike := by
  have hattributes : ∀ e ∈ put name v r.attributes, e.2.JsonLike := by
    intro e he
    rcases mem_put he with he | rfl
    · exact h.attributes e he
    · exact hv
  have hkeys : ((put name v r.attributes).map (·.1)).Nodup := nodup_put h.keys
  unfold Record.withAttribute
  split
  · exact ⟨hkeys, hattributes, h.level, hv⟩
  · exact ⟨hkeys, hattributes, hv, h.logger⟩
  all_goals exact ⟨hkeys, hattributes, h.level, h.logger⟩

/-- Whatever attributes are given to a record one after another, it carries them all. -/
theorem JsonLike.withAttributes (h : r.JsonLike) {extra : List (String × Value)}
    (hextra : ∀ e ∈ extra, e.2.JsonLike) : (r.withAttributes extra).JsonLike := by
  induction extra generalizing r with
  | nil => exact h
  | cons e extra ih =>
    exact ih (h.withAttribute e.1 (hextra e List.mem_cons_self))
      fun x hx => hextra x (List.mem_cons_of_mem e hx)

theorem forall_entryOf {P : Value → Prop} {name : String} {v : Option Value}
    (h : ∀ x, v = some x → P x) : ∀ e ∈ entryOf name v, P e.2 := by
  cases v with
  | none => exact nofun
  | some v => exact fun e he => List.mem_singleton.mp he ▸ h v rfl

/-- What is true of texts, of the level and logger of a record and of its attributes is true of all
that its line tells. -/
theorem forall_fields {P : Value → Prop} (htext : ∀ s, P (.text s)) (hlevel : P r.level)
    (hlogger : P r.logger) (hattributes : ∀ e ∈ r.attributes, P e.2) (date : DateTime)
    (message : String) (failure : Option String) :
    ∀ e ∈ r.fields date message failure, P e.2 := by
  intro e he
  have hlookup (name : String) : ∀ v, lookup? name r.attributes = some v → P v :=
    fun v hv => hattributes _ (mem_of_lookup? hv)
  rw [fields_eq] at he
  rcases mem_putAll he with he | he
  · rcases mem_putAll he with he | he
    · cases he
    · exact hattributes e (List.mem_filter.mp he).1
  · rcases List.mem_append.mp he with he | he
    · rcases List.mem_append.mp he with he | he
      · simp only [ownEntries, List.mem_cons, List.not_mem_nil, or_false] at he
        rcases he with rfl | rfl | rfl | rfl
        · exact htext _
        · exact hlevel
        · exact hlogger
        · exact htext _
      · rcases List.mem_append.mp he with he | he
        · exact forall_entryOf (hlookup _) e he
        · exact forall_entryOf (hlookup _) e he
    · refine forall_entryOf (fun v hv => ?_) e he
      obtain ⟨line, -, rfl⟩ := Option.map_eq_some_iff.mp hv
      exact htext line

/-- What is written of a record is a value that JSON has a form for. -/
theorem JsonLike.fields (h : r.JsonLike) (date : DateTime) (message : String)
    (failure : Option String) : (Value.dict (r.fields date message failure)).JsonLike :=
  .dict (nodup_putAll (nodup_putAll List.nodup_nil))
    (forall_fields .text h.level h.logger h.attributes date message failure)

/-- A record tells its message if that can be filled in and no attribute stands in its way. -/
theorem message_eq_ok_iff : r.message = .ok message ↔
    messageName ∉ r.attributes.map (·.1) ∧ r.filled = .ok message := by
  rw [Record.message, ← lookup?_eq_none_iff]
  cases lookup? messageName r.attributes <;> simp

/-- A scope does not stand in the way of the message. -/
theorem message_passed (r : Record) (scope : Option Scope) :
    (r.passed scope).message = r.message := by
  have hname : lookup? messageName (r.passed scope).attributes
      = lookup? messageName r.attributes := lookup?_passed_of_plain (by decide)
  rw [Record.message, hname]
  cases scope <;> rfl

/-- When a record is written, and as what. -/
theorem jsonLine_eq_ok_iff (hfailure : r.failure = .ok failure) (line : String) :
    r.jsonLine = .ok line ↔ ∃ date message, dated r.moment = .ok date ∧ r.message = .ok message
      ∧ (Value.dict (r.fields date message failure)).json = .ok line := by
  unfold jsonLine
  rw [hfailure]
  cases dated r.moment with
  | error f => exact ⟨nofun, by rintro ⟨_, _, ⟨⟩, _⟩⟩
  | ok date =>
    cases r.message with
    | error f => exact ⟨nofun, by rintro ⟨_, _, _, ⟨⟩, _⟩⟩
    | ok message =>
      constructor
      · intro h
        exact ⟨date, message, rfl, rfl, h⟩
      · rintro ⟨_, _, ⟨⟩, ⟨⟩, h⟩
        exact h

end Fields

/-- The line of a record of texts, whole numbers, lists and dictionaries, whether it passed a scope
or not, and its object read back. There is a line exactly if the moment has a date, the message can
be filled in, no attribute stands in its way, and no whole number in the line has too many
digits. -/
theorem line_read_back (r : Record) (hr : r.JsonLike) (scope : Option Scope)
    (failure : Option String) (hfailure : r.failure = .ok failure) :
    ((∃ line, (r.passed scope).jsonLine = .ok line) ↔
      messageName ∉ r.attributes.map (·.1) ∧ ∃ date message, dated r.moment = .ok date
        ∧ r.filled = .ok message
        ∧ ∀ e ∈ (r.passed scope).fields date message failure, e.2.isWritable = true)
    ∧ ∀ line, (r.passed scope).jsonLine = .ok line → Value.Visible line.toList
      ∧ ∃ date message entries, dated r.moment = .ok date ∧ r.filled = .ok message
        ∧ Value.ofJson? line = some (.dict entries)
        ∧ r.Tells scope date message failure entries := by
  have hpassed : (r.passed scope).failure = .ok failure := by cases scope <;> exact hfailure
  have hmoment : (r.passed scope).moment = r.moment := by cases scope <;> rfl
  have hline := jsonLine_eq_ok_iff hpassed
  simp only [hmoment, message_passed, message_eq_ok_iff] at hline
  constructor
  · constructor
    · rintro ⟨line, h⟩
      obtain ⟨date, message, hdate, ⟨hname, hmessage⟩, hjson⟩ := (hline line).mp h
      have hwritable := (Value.written_eq_ok_iff.mp hjson).1
      exact ⟨hname, date, message, hdate, hmessage, Value.isWritable_dict.mp hwritable⟩
    · rintro ⟨hname, date, message, hdate, hmessage, hwritable⟩
      have hjson : (Value.dict ((r.passed scope).fields date message failure)).json = .ok _ :=
        Value.written_of_writable (Value.isWritable_dict.mpr hwritable) _
      exact ⟨_, (hline _).mpr ⟨date, message, hdate, ⟨hname, hmessage⟩, hjson⟩⟩
  · intro line h
    obtain ⟨date, message, hdate, ⟨-, hmessage⟩, hjson⟩ := (hline line).mp h
    have hlike := (hr.passed scope).fields date message failure
    exact ⟨hlike.visible_json hjson, date, message, _, hdate, hmessage, hlike.ofJson?_json hjson,
      tells_fields hr.keys scope date message failure⟩

/-- A record about a failed payment, whose message would end its line and open another one. -/
def failedPayment : Record where
  moment := .int 1700000000
  level := .text "INFO"
  logger := .text "app"
  template := .text "paid\n\"level\": \"CRITICAL\""
  arguments := .tuple []
  attributes := []
  failure := .ok (some "ValueError: no")

/-- The same record with attributes that would stand for its level, its trace and its failure. -/
def forgedPayment : Record :=
  failedPayment.withAttributes
    [("level", .text "CRITICAL"), ("note", .text "\"\x7d\r\n\\u2028\u2028"),
      ("rows", .list [.int (-3), .null, .dict [("id", .bool true)]]), ("otelTraceID", .text "t1"),
      ("exception", .null)]

/-- The forged record carries nothing that JSON has no form for. -/
theorem jsonLike_forgedPayment : forgedPayment.JsonLike := by
  have hpayment : failedPayment.JsonLike := ⟨List.nodup_nil, nofun, .text _, .text _⟩
  refine hpayment.withAttributes ?_
  simp only [List.forall_mem_cons]
  refine ⟨.text _, .text _, .list ?_, .text _, .null, nofun⟩
  simp only [List.forall_mem_cons]
  exact ⟨.int _, .null, .dict (by decide) (by simpa using .bool true), nofun⟩

theorem forgedPayment_read_back : forgedPayment.JsonLike
    ∧ forgedPayment.failure = .ok (some "ValueError: no")
    ∧ ∃ line, (forgedPayment.passed (some ⟨some "pay", some (0xabc, 1)⟩)).jsonLine = .ok line
      ∧ Value.Visible line.toList ∧ ∃ entries, Value.ofJson? line = some (.dict entries)
        ∧ lookup? "level" entries = some (.text "INFO")
        ∧ lookup? "message" entries = some forgedPayment.template
        ∧ lookup? "note" entries = lookup? "note" forgedPayment.attributes
        ∧ lookup? "trace_id" entries = some (.text "t1")
        ∧ lookup? "exception" entries = some (.text "ValueError: no") := by
  refine ⟨jsonLike_forgedPayment, rfl, ?_⟩
  obtain ⟨hiff, hlines⟩ := line_read_back forgedPayment jsonLike_forgedPayment
    (some ⟨some "pay", some (0xabc, 1)⟩) (some "ValueError: no") rfl
  have hwritable := forall_fields (P := fun v => v.isWritable = true)
    (r := forgedPayment.passed (some ⟨some "pay", some (0xabc, 1)⟩)) Value.isWritable_text rfl rfl
    (by decide)
  obtain ⟨line, hline⟩ := hiff.mpr ⟨by decide, _, _, rfl, rfl, hwritable _ _ _⟩
  obtain ⟨hvisible, date, message, entries, -, hmessage, hread, htells⟩ := hlines line hline
  have hplain : ¬ forgedPayment.Replaced (some ⟨some "pay", some (0xabc, 1)⟩)
      (some "ValueError: no") "note" := by
    simp [Replaced, ownNames, Scope.attributes]
  cases hmessage
  exact ⟨line, hline, hvisible, entries, hread, htells.level, htells.message,
    htells.others "note" (by decide) hplain, htells.trace _ rfl, htells.exception _ rfl⟩

/-- A record with an attribute that is called like the method that is asked for the message. -/
def silencedRecord : Record where
  moment := .int 1700000000
  level := .text "INFO"
  logger := .text "app"
  template := .text "m"
  arguments := .tuple []
  attributes := [(messageName, .text "x")]
  failure := .ok none

/-- No line is written of such a record, though one would be written without the attribute. -/
theorem silencedRecord_unwritten : silencedRecord.JsonLike ∧ silencedRecord.failure = .ok none
    ∧ (∃ line, Record.jsonLine { silencedRecord with attributes := [] } = .ok line)
    ∧ silencedRecord.jsonLine = .error ⟨.type, ""⟩ := by
  refine ⟨⟨by decide, ?_, .text _, .text _⟩, rfl, ⟨_, rfl⟩, rfl⟩
  exact fun e he => List.mem_singleton.mp he ▸ .text _

end Record

end SqlComposer.Log
