import SqlComposer.Proofs.Conformance
import SqlComposer.Proofs.Outlets

/-!
# What a query log keeps to

A query log is told of statements, has its configuration changed and is closed, in any order. What
its handlers are then is what the configuration asks for, if the log is enabled and was not closed
since its handlers were made; the handlers that were made before have all been closed, each once
(`Standing`). One call keeps to that whatever it is (`Standing.next`), so every run of calls does.
-/

set_option autoImplicit false

namespace SqlComposer.Log

/-! ## Configurations -/

/-- A value has the type of the entry of a configuration with that name. -/
def EntryTyped (name : String) (v : Value) : Prop :=
  match name with
  | "enabled" | "log_to_file" | "log_to_console" | "rotate_on_size" => ∃ b, v = .bool b
  | "log_file_path" => ∃ s, v = .text s
  | "slow_query_threshold" => (∃ n, v = .int n) ∨ ∃ x, v = .float x
  | "max_file_size" | "backup_count" => ∃ n, v = .int n
  | _ => True

namespace QueryLogConfig

variable {c : QueryLogConfig} {o : Outlets}

/-- The entries of a configuration have their types. -/
structure Typed (c : QueryLogConfig) : Prop where
  enabled : EntryTyped "enabled" c.enabled
  toFile : EntryTyped "log_to_file" c.toFile
  toConsole : EntryTyped "log_to_console" c.toConsole
  path : EntryTyped "log_file_path" c.path
  slowThreshold : EntryTyped "slow_query_threshold" c.slowThreshold
  maxBytes : EntryTyped "max_file_size" c.maxBytes
  backupCount : EntryTyped "backup_count" c.backupCount
  rotate : EntryTyped "rotate_on_size" c.rotate

/-- An entry has its type after changes that have theirs. -/
theorem entryTyped_putAll {name : String} {fields changes : List (String × Value)}
    (h : EntryTyped name (fieldOf fields name)) (hchanges : ∀ e ∈ changes, EntryTyped e.1 e.2) :
    EntryTyped name (fieldOf (putAll fields changes) name) := by
  induction changes generalizing fields with
  | nil => exact h
  | cons e changes ih =>
    refine ih ?_ fun e' he' => hchanges e' (List.mem_cons_of_mem e he')
    rw [fieldOf_put]
    split
    · rename_i hname
      rw [← hname]
      exact hchanges e List.mem_cons_self
    · exact h

/-- A typed configuration is typed after changes that are. -/
theorem Typed.changed (h : c.Typed) {changes : List (String × Value)}
    (hchanges : ∀ e ∈ changes, EntryTyped e.1 e.2) : (c.changed changes).Typed :=
  ⟨entryTyped_putAll h.enabled hchanges, entryTyped_putAll h.toFile hchanges,
    entryTyped_putAll h.toConsole hchanges, entryTyped_putAll h.path hchanges,
    entryTyped_putAll h.slowThreshold hchanges, entryTyped_putAll h.maxBytes hchanges,
    entryTyped_putAll h.backupCount hchanges, entryTyped_putAll h.rotate hchanges⟩

/-- What an enabled log with this configuration is to write to: the file, plain or rotated, and
the console. -/
def asked (c : QueryLogConfig) : List Target :=
  (match c.toFile.truthy, c.path with
    | true, .text path =>
      [if c.rotate.truthy then .rotating path c.maxBytes c.backupCount else .file path]
    | _, _ => [])
    ++ if c.toConsole.truthy then [.console] else []

/-- The folder of the file can be made, if there is to be one. -/
def FolderFits (c : QueryLogConfig) (o : Outlets) : Prop :=
  c.enabled.truthy = true → c.toFile.truthy = true → ∀ path, c.path = .text path →
    (o.makeFolders path).1 = .ok ()

/-- Whether the folder can be made depends on the names of the files only. -/
theorem FolderFits.congr {o' : Outlets} (h : c.FolderFits o) (hnames : o.names = o'.names) :
    c.FolderFits o' := by
  intro henabled hfile path hpath
  rw [← o.makeFolders_congr path hnames]
  exact h henabled hfile path hpath

/-- An enabled log makes the targets that its configuration asks for. -/
theorem targets_of_typed (hc : c.Typed) (henabled : c.enabled.truthy = true)
    (hfolder : c.FolderFits o) :
    (c.targets o).1 = .ok c.asked ∧ o.SameHandlers (c.targets o).2 := by
  obtain ⟨path, hpath⟩ := hc.path
  obtain ⟨limit, hlimit⟩ := hc.maxBytes
  have hpositive : ∃ b, c.maxBytes.isPositive = .ok b := by
    rw [hlimit]
    exact ⟨_, rfl⟩
  unfold targets fileTarget asked
  rw [hpath]
  cases hfile : c.toFile.truthy with
  | false => exact ⟨rfl, .refl o⟩
  | true =>
    have hmade := hfolder henabled hfile path hpath
    have hsame := o.sameHandlers_makeFolders path
    obtain ⟨b, hb⟩ := hpositive
    dsimp only
    generalize o.makeFolders path = made at hmade hsame ⊢
    obtain ⟨r, o'⟩ := made
    cases hmade
    refine ⟨?_, hsame⟩
    cases hrotate : c.rotate.truthy <;> simp [hb, Except.map]

end QueryLogConfig

/-! ## Calls -/

/-- Something that a query log is told to do. -/
inductive LogCall where
  /-- To log a statement that was completed. -/
  | query (moment : Float) (sql values duration : Value)
  /-- To log a statement that failed. -/
  | error (moment : Float) (sql : Value) (failure : Failure) (values : Value)
  /-- To log a message. -/
  | message (moment : Float) (level : Level) (message : Value)
  /-- To change its configuration. -/
  | update (changes : List (String × Value))
  | close

/-- A value has elements that stand in a row. -/
def IsSequence (values : Value) : Prop := ∃ xs, values.positions? = some xs

/-- How long a statement took, if that is known: a double, or a whole number that can be one. -/
inductive IsDuration : Value → Prop
  | unknown : IsDuration .null
  | float (x : Float) : IsDuration (.float x)
  | whole (n : Int) (h : Number.isFinite (Number.ofInt n) = true) : IsDuration (.int n)

namespace LogCall

/-- What comes of a call. -/
def tell (log : QueryLog) (o : Outlets) : LogCall → Told
  | .query moment sql values duration => log.logQuery moment sql values duration o
  | .error moment sql failure values => log.logError moment sql failure values o
  | .message moment level text => log.logMessage moment level text o
  | .update changes => log.update changes o
  | .close => log.close o

/-- What comes of a call after what came of the one before. -/
def next (told : Told) (call : LogCall) : Told := call.tell told.log told.outlets

/-- Whether the call writes to the log. -/
def isLog : LogCall → Bool
  | .query _ _ _ _ => true
  | .error _ _ _ _ => true
  | .message _ _ _ => true
  | .update _ => false
  | .close => false

def isQuery : LogCall → Bool
  | .query _ _ _ _ => true
  | _ => false

def isError : LogCall → Bool
  | .error _ _ _ _ => true
  | _ => false

/-- What the call is given has the types that it asks for. -/
def Typed : LogCall → Prop
  | .query _ _ values duration => IsSequence values ∧ IsDuration duration
  | .error _ _ _ values => IsSequence values
  | .update changes => ∀ e ∈ changes, EntryTyped e.1 e.2
  | .message _ _ _ => True
  | .close => True

/-- The configuration after a call. -/
def configured (c : QueryLogConfig) : LogCall → QueryLogConfig
  | .update changes => c.changed changes
  | _ => c

/-- Whether the log is open after a call: the handlers are made, or made anew, and not closed since
then. -/
def keepsOpen (isOpen : Bool) : LogCall → Bool
  | .update _ => true
  | .close => false
  | _ => isOpen

/-- Whether the call is about a statement that took longer than a configuration allows. -/
def isSlow (c : QueryLogConfig) : LogCall → Bool
  | .query _ _ _ duration => (c.slowThreshold.less duration).toOption == some true
  | _ => false

/-- The folder of the file can be made if a call changes the configuration. -/
def FolderFits (told : Told) : LogCall → Prop
  | .update changes => (told.log.config.changed changes).FolderFits told.outlets
  | _ => True

end LogCall

/-- What comes of the last of the calls of a new query log, or of making it. -/
def QueryLog.run (c : QueryLogConfig) (o : Outlets) (calls : List LogCall) : Told :=
  calls.foldl LogCall.next (QueryLog.ofConfig c o)

/-- The configuration after calls. -/
def configAfter (c : QueryLogConfig) (calls : List LogCall) : QueryLogConfig :=
  calls.foldl LogCall.configured c

/-- Whether a log is open after calls: it was not closed since its handlers were last made. -/
def isOpenAfter (calls : List LogCall) : Bool := calls.foldl LogCall.keepsOpen true

/-- How many of the calls are about slow statements, by the threshold at the time of each. -/
def slowQueries (c : QueryLogConfig) : List LogCall → ℕ
  | [] => 0
  | call :: calls => (if call.isSlow c then 1 else 0) + slowQueries (call.configured c) calls

/-- The folder of the file can be made whenever a call changes the configuration. -/
def FoldersFit : Told → List LogCall → Prop
  | _, [] => True
  | told, call :: calls => call.FolderFits told ∧ FoldersFit (call.next told) calls

/-- The targets of the handlers after calls. -/
def targetsAfter (c : QueryLogConfig) (calls : List LogCall) : List Target :=
  if isOpenAfter calls && (configAfter c calls).enabled.truthy then (configAfter c calls).asked
  else []

/-- Whether one more call is about a slow statement is decided by the configuration at its time. -/
theorem slowQueries_append (c : QueryLogConfig) (calls : List LogCall) (call : LogCall) :
    slowQueries c (calls ++ [call])
      = slowQueries c calls + if call.isSlow (configAfter c calls) then 1 else 0 := by
  induction calls generalizing c with
  | nil => exact Nat.add_comm _ _
  | cons first calls ih =>
    rw [List.cons_append, slowQueries, slowQueries, ih, Nat.add_assoc]
    rfl

@[simp] theorem configAfter_append (c : QueryLogConfig) (calls : List LogCall) (call : LogCall) :
    configAfter c (calls ++ [call]) = call.configured (configAfter c calls) :=
  List.foldl_concat ..

@[simp] theorem isOpenAfter_append (calls : List LogCall) (call : LogCall) :
    isOpenAfter (calls ++ [call]) = call.keepsOpen (isOpenAfter calls) :=
  List.foldl_concat ..

/-- A call that writes to the log changes neither its configuration nor whether it is open. -/
theorem LogCall.configured_of_isLog {call : LogCall} (h : call.isLog = true)
    (c : QueryLogConfig) (isOpen : Bool) :
    call.configured c = c ∧ call.keepsOpen isOpen = isOpen := by
  cases call with
  | query | error | message => exact ⟨rfl, rfl⟩
  | update | close => cases h

/-- What is counted after a call. -/
def Counts.after (n : Counts) (c : QueryLogConfig) (call : LogCall) : Counts :=
  ⟨n.queries + (if call.isQuery then 1 else 0), n.slowQueries + (if call.isSlow c then 1 else 0),
    n.errors + (if call.isError then 1 else 0)⟩

/-! ## One call -/

namespace QueryLog

variable {log : QueryLog} {o : Outlets}

/-- Writing a line changes nothing in the log, and no handler is made or closed. -/
theorem emit_log (line : Except Fault String) :
    (log.emit line o).log = log ∧ o.SameHandlers (log.emit line o).outlets := by
  unfold emit
  split
  · exact ⟨rfl, .refl o⟩
  · split
    · exact ⟨rfl, o.sameHandlers_inTurn (fun _ h => Outlets.sameHandlers_write h _) _⟩
    · exact ⟨rfl, .refl o⟩

/-- Neither does passing a record over. -/
theorem passOver_log :
    (log.passOver o).log = log ∧ o.SameHandlers (log.passOver o).outlets := by
  unfold passOver
  split
  · exact ⟨rfl, o.sameHandlers_inTurn (fun _ h => Outlets.sameHandlers_openFor h) _⟩
  · exact ⟨rfl, .refl o⟩

/-- Whether a statement was slow can be told of every duration. -/
theorem isSlow_of_typed {duration : Value} (hc : log.config.Typed) (h : IsDuration duration) :
    log.isSlow duration = .ok ((log.config.slowThreshold.less duration).toOption == some true) := by
  have hless (hknown : duration.isNull = false) :
      ∃ b, log.config.slowThreshold.less duration = .ok b := by
    obtain ⟨n, hn⟩ | ⟨x, hx⟩ := hc.slowThreshold
    · rw [hn]
      cases h with
      | unknown => cases hknown
      | float y => exact ⟨_, rfl⟩
      | whole m hm => exact ⟨_, rfl⟩
    · rw [hx]
      cases h with
      | unknown => cases hknown
      | float y => exact ⟨_, rfl⟩
      | whole m hm => exact ⟨_, rfl⟩
  unfold isSlow
  cases hnull : duration.isNull with
  | true =>
    cases h with
    | unknown =>
      obtain ⟨n, hn⟩ | ⟨x, hx⟩ := hc.slowThreshold
      · rw [hn]
        rfl
      · rw [hx]
        rfl
    | float | whole => cases hnull
  | false =>
    obtain ⟨b, hb⟩ := hless hnull
    rw [hb]
    cases b <;> rfl

/-- A call that writes to the log is counted, whether it has a line or not. -/
theorem next_log {told : Told} {call : LogCall} (hc : told.log.config.Typed)
    (hcall : call.Typed) (hlog : call.isLog = true) :
    (call.next told).log
        = { told.log with counts := told.log.counts.after told.log.config call }
      ∧ told.outlets.SameHandlers (call.next told).outlets := by
  cases call with
  | query moment sql values duration =>
    change (logQuery _ _ _ _ _ _).log = _ ∧ Outlets.SameHandlers _ (logQuery _ _ _ _ _ _).outlets
    unfold logQuery
    rw [isSlow_of_typed hc hcall.2]
    exact emit_log _
  | error moment sql failure values => exact emit_log _
  | message moment level text =>
    change (logMessage _ _ _ _ _).log = _ ∧ Outlets.SameHandlers _ (logMessage _ _ _ _ _).outlets
    unfold logMessage
    split
    · exact emit_log _
    · exact passOver_log
  | update | close => cases hlog

/-- A log without handlers has those its configuration asks for when it has been started. -/
theorem start_spec {config : QueryLogConfig} {counts : Counts} (hc : config.Typed)
    (hfolder : config.FolderFits o) :
    ∃ hs, (start ⟨config, [], [], counts⟩ o).log = ⟨config, hs, hs, counts⟩
      ∧ hs.map Handler.target = (if config.enabled.truthy then config.asked else [])
      ∧ hs.map Handler.number = List.range' o.issued hs.length
      ∧ (start ⟨config, [], [], counts⟩ o).outlets.issued = o.issued + hs.length
      ∧ (start ⟨config, [], [], counts⟩ o).outlets.closed = o.closed := by
  unfold start
  cases henabled : config.enabled.truthy with
  | false => exact ⟨[], rfl, rfl, rfl, rfl, rfl⟩
  | true =>
    obtain ⟨htargets, hsame⟩ := QueryLogConfig.targets_of_typed hc henabled hfolder
    have hconfigure : configure ⟨config, [], [], counts⟩ o
        = ⟨.ok (), ⟨config, (makeHandlers config.asked (config.targets o).2).1,
            (makeHandlers config.asked (config.targets o).2).1, counts⟩,
          (makeHandlers config.asked (config.targets o).2).2⟩ := by
      unfold configure
      generalize config.targets o = asked at htargets ⊢
      obtain ⟨r, o'⟩ := asked
      cases htargets
      rfl
    refine ⟨(makeHandlers config.asked (config.targets o).2).1, ?_, targets_makeHandlers .., ?_,
      ?_, ?_⟩
    · exact congrArg Told.log hconfigure
    · rw [numbers_makeHandlers, hsame.issued]
    · have houtlets := congrArg (fun told => told.outlets.issued) hconfigure
      exact houtlets.trans ((issued_makeHandlers ..).trans (by rw [hsame.issued]))
    · have houtlets := congrArg (fun told => told.outlets.closed) hconfigure
      exact houtlets.trans ((closed_makeHandlers ..).trans hsame.closed)

/-- A log whose handlers are all attached has none when it is detached. -/
theorem detached_eq (h : log.attached = log.handlers) :
    log.detached = ⟨log.config, [], [], log.counts⟩ := by
  unfold detached
  rw [h]
  congr 1
  rw [List.filter_eq_nil_iff]
  intro handler hmem
  simpa using ⟨handler, hmem, rfl⟩

end QueryLog

/-! ## Any calls -/

/-- What is true of a query log after calls, by what it was made with and what it was told. -/
structure Standing (c : QueryLogConfig) (o : Outlets) (calls : List LogCall) (told : Told) :
    Prop where
  config : told.log.config = configAfter c calls
  typed : told.log.config.Typed
  targets : told.log.handlers.map Handler.target = targetsAfter c calls
  attached : told.log.attached = told.log.handlers
  /-- Of the handlers that were made, those that are not held have been closed, each once. -/
  accounted : ∃ made dropped, told.outlets.issued = o.issued + made
    ∧ told.outlets.closed = dropped ++ o.closed
    ∧ (dropped ++ told.log.handlers.map Handler.number).Perm (List.range' o.issued made)
  counts : told.log.counts
    = ⟨calls.countP LogCall.isQuery, slowQueries c calls, calls.countP LogCall.isError⟩

namespace Standing

variable {c : QueryLogConfig} {o : Outlets} {calls : List LogCall} {told : Told}

/-- A new query log has the handlers that its configuration asks for. -/
theorem ofConfig (hc : c.Typed) (hfolder : c.FolderFits o) :
    Standing c o [] (QueryLog.ofConfig c o) := by
  obtain ⟨hs, hlog, htargets, hnumbers, hissued, hclosed⟩ :
      ∃ hs, (QueryLog.ofConfig c o).log = ⟨c, hs, hs, ⟨0, 0, 0⟩⟩ ∧ _ :=
    QueryLog.start_spec hc hfolder
  refine ⟨?_, ?_, ?_, ?_, ⟨hs.length, [], hissued, hclosed, ?_⟩, ?_⟩ <;> rw [hlog]
  · rfl
  · exact hc
  · exact htargets
  · rw [← hnumbers]
    rfl
  · rfl

/-- A call that writes to the log leaves its handlers as they are. -/
theorem logged (h : Standing c o calls told) {call : LogCall} (hcall : call.Typed)
    (hlog : call.isLog = true) : Standing c o (calls ++ [call]) (call.next told) := by
  obtain ⟨htold, hsame⟩ := QueryLog.next_log h.typed hcall hlog
  obtain ⟨made, dropped, hissued, hclosed, hperm⟩ := h.accounted
  obtain ⟨hconfigured, hopen⟩ :=
    LogCall.configured_of_isLog hlog (configAfter c calls) (isOpenAfter calls)
  refine ⟨?_, ?_, ?_, ?_, ⟨made, dropped, hsame.issued.trans hissued, hsame.closed.trans hclosed,
    ?_⟩, ?_⟩ <;> rw [htold]
  · rw [configAfter_append, hconfigured]
    exact h.config
  · exact h.typed
  · rw [targetsAfter, configAfter_append, isOpenAfter_append, hconfigured, hopen]
    exact h.targets
  · exact h.attached
  · exact hperm
  · rw [h.counts, h.config, slowQueries_append, List.countP_append, List.countP_append,
      List.countP_singleton, List.countP_singleton]
    rfl

/-- When the handlers are closed, all that were made have been. -/
theorem accounted_closed (h : Standing c o calls told) :
    ∃ made dropped, (told.log.handlers.foldl Outlets.close told.outlets).issued = o.issued + made
      ∧ (told.log.handlers.foldl Outlets.close told.outlets).closed = dropped ++ o.closed
      ∧ dropped.Perm (List.range' o.issued made) := by
  obtain ⟨made, dropped, hissued, hclosed, hperm⟩ := h.accounted
  refine ⟨made, (told.log.handlers.map Handler.number).reverse ++ dropped, ?_, ?_, ?_⟩
  · rw [Outlets.issued_closeAll, hissued]
  · rw [Outlets.closed_closeAll, hclosed, List.append_assoc]
  · exact (((List.reverse_perm _).append_right dropped).trans List.perm_append_comm).trans hperm

/-- A log that is closed has closed its handlers and has none. -/
theorem closed (h : Standing c o calls told) :
    Standing c o (calls ++ [.close]) (LogCall.close.next told) := by
  have htold : (LogCall.close.next told).log = ⟨told.log.config, [], [], told.log.counts⟩ :=
    QueryLog.detached_eq h.attached
  obtain ⟨made, dropped, hissued, hclosed, hperm⟩ := h.accounted_closed
  refine ⟨?_, ?_, ?_, ?_, ⟨made, dropped, hissued, hclosed, ?_⟩, ?_⟩ <;> rw [htold]
  · rw [configAfter_append]
    exact h.config
  · exact h.typed
  · rw [targetsAfter, isOpenAfter_append]
    rfl
  · rwa [List.map_nil, List.append_nil]
  · rw [h.counts, slowQueries_append, List.countP_append, List.countP_append]
    rfl

/-- A log whose configuration is changed has closed its handlers and made new ones. -/
theorem updated (h : Standing c o calls told) {changes : List (String × Value)}
    (hchanges : ∀ e ∈ changes, EntryTyped e.1 e.2)
    (hfolder : (told.log.config.changed changes).FolderFits told.outlets) :
    Standing c o (calls ++ [.update changes]) ((LogCall.update changes).next told) := by
  -- what is started is a log without handlers, on outlets where its old ones are closed
  have hstart : (LogCall.update changes).next told
      = QueryLog.start ⟨told.log.config.changed changes, [], [], told.log.counts⟩
          (told.log.handlers.foldl Outlets.close told.outlets) := by
    change QueryLog.start { told.log.detached with config := _ } _ = _
    rw [QueryLog.detached_eq h.attached]
  have htyped : (told.log.config.changed changes).Typed := h.typed.changed hchanges
  have hfits := hfolder.congr (Outlets.names_closeAll told.log.handlers told.outlets).symm
  obtain ⟨hs, htold, htargets, hnumbers, hmade, hkept⟩ :
      ∃ hs, ((LogCall.update changes).next told).log
        = ⟨told.log.config.changed changes, hs, hs, told.log.counts⟩ ∧ _ := by
    rw [hstart]
    exact QueryLog.start_spec htyped hfits
  obtain ⟨made, dropped, hissued, hclosed, hperm⟩ := h.accounted_closed
  have hnext : configAfter c (calls ++ [.update changes]) = told.log.config.changed changes := by
    rw [configAfter_append, h.config]
    rfl
  refine ⟨?_, ?_, ?_, ?_, ⟨made + hs.length, dropped, ?_, ?_, ?_⟩, ?_⟩
  · rw [htold, hnext]
  · rw [htold]
    exact htyped
  · rw [htold, targetsAfter, isOpenAfter_append, hnext]
    exact htargets
  · rw [htold]
  · rw [hstart, hmade, hissued, Nat.add_assoc]
  · rw [hstart, hkept, hclosed]
  · rw [htold, hnumbers, hissued, ← List.range'_append_1]
    exact hperm.append_right _
  · rw [htold, h.counts, slowQueries_append, List.countP_append, List.countP_append]
    rfl

/-- One call keeps to it, whatever it is. -/
theorem next (h : Standing c o calls told) {call : LogCall} (hcall : call.Typed)
    (hfolder : call.FolderFits told) : Standing c o (calls ++ [call]) (call.next told) := by
  cases hlog : call.isLog with
  | true => exact h.logged hcall hlog
  | false =>
    cases call with
    | query | error | message => cases hlog
    | update changes => exact h.updated hcall hfolder
    | close => exact h.closed

/-- So do all calls that follow. -/
theorem run (h : Standing c o calls told) {later : List LogCall}
    (hcalls : ∀ call ∈ later, call.Typed) (hfolders : FoldersFit told later) :
    Standing c o (calls ++ later) (later.foldl LogCall.next told) := by
  -- the calls made so far grow by one with each of those that follow
  induction later generalizing calls told with
  | nil => rwa [List.append_nil]
  | cons call later ih =>
    obtain ⟨hfolder, hrest⟩ := hfolders
    have hnext := h.next (hcalls call List.mem_cons_self) hfolder
    have hlater := ih hnext (fun call' h' => hcalls call' (List.mem_cons_of_mem call h')) hrest
    rwa [List.append_assoc] at hlater

end Standing

end SqlComposer.Log
