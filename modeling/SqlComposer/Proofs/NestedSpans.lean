import SqlComposer.Proofs.Runs

/-!
# Traced functions within one another

A traced action goes as it goes in its span, between the exchanges that enter the span and those
that leave it, whatever it does and however it ends (`Tracing.goes_run_iff`).

`Layer` is a function around an inner call, whose code before and after that call is not the
library's own. Such functions within one another do the same traced and untraced, but for what is
quiet (`Alike`); and what is told of spans and operations is read off the layers that were entered
(`Visited`, `scopeTold`).

An action is given the place where it runs. A program can also keep the place and change it as it
goes (`Roaming`): what is set before a call is reset after it, however the call ends. Both come to
the same, and the place is then what it was before (`Roaming.layers_eq`).
-/

set_option autoImplicit false

namespace SqlComposer

theorem Program.bind_bind {I : Interface} {α β γ : Type} (p : Program I α) (f : α → Program I β)
    (g : β → Program I γ) : (p.bind f).bind g = p.bind fun a => (f a).bind g := by
  induction p with
  | done a => rfl
  | ask r next ih => exact congrArg (Program.ask r) (funext ih)

namespace Tracing

variable {α : Type} (t : Tracing)

/-- Where an action runs that is traced. -/
def inside (span : ℕ) : Place := ⟨some t.name, some span⟩

/-- What a span is started with within another one. -/
def start (parent : Option ℕ) : SpanStart :=
  ⟨(t.tracer, Log.libraryVersion), t.name, t.kind, parent⟩

/-- The attributes of the call are worked out, or that fails in a way that is only logged. -/
def IsGot : Prop := ∀ f, t.called = .error f → f.handled = true

/-- What is told of the failure to work out attributes. -/
def getterTold : List Exchange :=
  match t.called with
  | .ok _ => []
  | .error f => [⟨.log (getterEntry f), ()⟩]

/-- What is told when a span is entered. -/
def entering (parent : Option ℕ) (span : ℕ) : List Exchange :=
  ⟨.startSpan (t.start parent), span⟩
    :: (t.getterTold ++ t.allAttributes.map fun e => ⟨.setAttribute span e.1 e.2, ()⟩)

/-- What is told of a failure in a span. -/
def failing (span : ℕ) : Except Failure α → List Exchange
  | .ok _ => []
  | .error f => if f.handled then [⟨.failSpan span f.name, ()⟩] else []

/-- What is told when a span is left. -/
def leaving (span : ℕ) (r : Except Failure α) : List Exchange :=
  failing span r ++ [⟨.endSpan span, ()⟩]

variable {t} {act : Action α} {place : Place} {told : List Exchange}

theorem goes_noteGetter_iff (ht : t.IsGot) {f : Unit → Action α} {r : Except Failure α} :
    (t.noteGetter >>= f).Goes place told r
      ↔ ∃ rest, told = t.getterTold ++ rest ∧ (f ()).Goes place rest r := by
  unfold noteGetter getterTold
  cases hcalled : t.called with
  | ok attributes =>
    constructor
    · exact fun h => ⟨told, rfl, h⟩
    · rintro ⟨rest, rfl, h⟩
      exact h
  | error e =>
    simp only [ht e hcalled, if_true]
    constructor
    · intro h
      obtain ⟨⟨⟩, rest, rfl, hrest⟩ := Program.goes_ask_iff.mp h
      exact ⟨rest, rfl, hrest⟩
    · rintro ⟨rest, rfl, h⟩
      exact Program.goes_ask_iff.mpr ⟨(), rest, rfl, h⟩

theorem goes_setAttributes_iff {span : ℕ} {attributes : List (String × Value)}
    {f : Unit → Action α} {r : Except Failure α} :
    (setAttributes span attributes >>= f).Goes place told r
      ↔ ∃ rest, told = attributes.map (fun e => ⟨.setAttribute span e.1 e.2, ()⟩) ++ rest
        ∧ (f ()).Goes place rest r := by
  induction attributes generalizing told with
  | nil =>
    constructor
    · exact fun h => ⟨told, rfl, h⟩
    · rintro ⟨rest, rfl, h⟩
      exact h
  | cons e es ih =>
    constructor
    · intro h
      obtain ⟨⟨⟩, t', rfl, hrest⟩ := Program.goes_ask_iff.mp h
      obtain ⟨rest, rfl, hlast⟩ := ih.mp hrest
      exact ⟨rest, rfl, hlast⟩
    · rintro ⟨rest, rfl, h⟩
      exact Program.goes_ask_iff.mpr ⟨(), _, rfl, ih.mpr ⟨rest, rfl, h⟩⟩

theorem goes_noteFailure_iff {span : ℕ} {e : Failure} {r : Except Failure α} :
    (noteFailure span e >>= fun _ => Action.fail e).Goes place told r
      ↔ told = failing span (.error e : Except Failure α) ∧ r = .error e := by
  cases he : e.handled with
  | false =>
    simp only [noteFailure, failing, he, Bool.false_eq_true, if_false]
    exact Action.goes_fail_iff
  | true =>
    simp only [noteFailure, failing, he, if_true]
    constructor
    · intro h
      obtain ⟨⟨⟩, rest, rfl, hfail⟩ := Program.goes_ask_iff.mp h
      obtain ⟨rfl, rfl⟩ := hfail.of_done
      exact ⟨rfl, rfl⟩
    · rintro ⟨rfl, rfl⟩
      exact Program.goes_ask_iff.mpr ⟨(), [], rfl, .done _⟩

theorem goes_inSpan_iff (ht : t.IsGot) {span : ℕ} {r : Except Failure α} :
    (t.inSpan span act).Goes place told r
      ↔ ∃ inner, act.Goes place inner r
        ∧ told = t.getterTold ++ (t.allAttributes.map (fun e => ⟨.setAttribute span e.1 e.2, ()⟩)
          ++ (inner ++ failing span r)) := by
  unfold inSpan
  simp only [goes_noteGetter_iff ht, goes_setAttributes_iff, Action.goes_outcome_iff]
  constructor
  · rintro ⟨_, rfl, _, rfl, x, inner, t', rfl, hact, hrest⟩
    refine ⟨inner, ?_⟩
    cases x with
    | ok x =>
      obtain ⟨rfl, rfl⟩ := hrest.of_done
      exact ⟨hact, rfl⟩
    | error e =>
      obtain ⟨rfl, rfl⟩ := goes_noteFailure_iff.mp hrest
      exact ⟨hact, rfl⟩
  · rintro ⟨inner, hact, rfl⟩
    refine ⟨_, rfl, _, rfl, r, inner, failing span r, rfl, hact, ?_⟩
    cases r with
    | ok x => exact .done _
    | error e => exact goes_noteFailure_iff.mpr ⟨rfl, rfl⟩

/-- A traced action goes as it goes in its span, which is entered before and left after it. -/
theorem goes_run_iff (ht : t.IsGot) {r : Except Failure α} :
    (t.run act).Goes place told r
      ↔ ∃ span inner, act.Goes (t.inside span) inner r
        ∧ told = t.entering place.span span ++ (inner ++ leaving span r) := by
  constructor
  · intro h
    obtain ⟨span, rest, rfl, hrest⟩ := Program.goes_ask_iff.mp h
    obtain ⟨x, t', t'', rfl, hinside, hend⟩ := Action.goes_outcome_iff.mp hrest
    obtain ⟨⟨⟩, _, rfl, hdone⟩ := Program.goes_ask_iff.mp hend
    obtain ⟨rfl, rfl⟩ := hdone.of_done
    obtain ⟨inner, hact, rfl⟩ := (goes_inSpan_iff ht).mp hinside
    exact ⟨span, inner, hact, by simp [entering, leaving, start]⟩
  · rintro ⟨span, inner, hact, rfl⟩
    have hinside : (Action.within (t.inside span) (t.inSpan span act)).Goes place
        (t.getterTold ++ (t.allAttributes.map (fun e => ⟨.setAttribute span e.1 e.2, ()⟩)
          ++ (inner ++ failing span r))) r :=
      (goes_inSpan_iff ht).mpr ⟨inner, hact, rfl⟩
    have hend : Action.Goes (Action.ask (.endSpan span) >>= fun _ => Action.ofOutcome r) place
        [⟨.endSpan span, ()⟩] r :=
      Action.goes_ask_iff.mpr ⟨(), [], rfl, .done _⟩
    have hrest : Action.Goes (Action.ending (Action.within (t.inside span) (t.inSpan span act))
        (Action.ask (.endSpan span))) place _ r :=
      Action.goes_outcome_iff.mpr ⟨r, _, _, rfl, hinside, hend⟩
    refine Program.goes_ask_iff.mpr ⟨span, _, ?_, hrest⟩
    simp [entering, leaving, start]

/-- What is told when a span is entered, apart from warnings and attributes. -/
theorem filter_entering {keep : Exchange → Bool} {parent : Option ℕ} {span : ℕ}
    (hlog : ∀ f, keep ⟨.log (getterEntry f), ()⟩ = false)
    (hset : ∀ name v, keep ⟨.setAttribute span name v, ()⟩ = false) :
    (t.entering parent span).filter keep
      = [⟨.startSpan (t.start parent), span⟩].filter keep := by
  have hgetter : t.getterTold.filter keep = [] := by
    unfold getterTold
    cases t.called with
    | ok attributes => rfl
    | error f => simp [hlog]
  have hattributes : (t.allAttributes.map fun e =>
      (⟨.setAttribute span e.1 e.2, ()⟩ : Exchange)).filter keep = [] := by
    simp [List.filter_map, Function.comp_def, hset]
  rw [entering, ← List.singleton_append, List.filter_append, List.filter_append, hgetter,
    hattributes]
  exact List.append_nil _

theorem mem_leaving {span : ℕ} {r : Except Failure α} {x : Exchange} (h : x ∈ leaving span r) :
    (∃ name, x = ⟨.failSpan span name, ()⟩) ∨ x = ⟨.endSpan span, ()⟩ := by
  unfold leaving failing at h
  cases r with
  | ok y => exact .inr (List.mem_singleton.mp h)
  | error e =>
    cases he : e.handled with
    | false =>
      simp only [he, Bool.false_eq_true, if_false, List.nil_append, List.mem_singleton] at h
      exact .inr h
    | true =>
      simp only [he, if_true, List.cons_append, List.nil_append, List.mem_cons,
        List.not_mem_nil, or_false] at h
      exact h.imp_left fun h => ⟨e.name, h⟩

end Tracing

/-! ## Layers -/

/-- A traced function around an inner call. -/
structure Layer where
  /-- How it is traced, whatever it is called with. -/
  tracing : Tracing
  /-- The attributes for what it is called with, or the exception that working them out raises. -/
  getter : Value → Except HandledFailure (List (String × Value))
  /-- The name of its code before the inner call. -/
  before : String
  /-- The name of its code after the inner call. -/
  after : String
  /-- The name of its code for failures of the inner call, if it deals with them. -/
  rescue : Option String

/-- Who writes down the operation at hand. -/
def layerLogger : String := "app"

/-- The entry for the operation at hand. -/
def operationEntry (operation : Option String) : Log.Entry :=
  { level := .debug
    logger := layerLogger
    message := "operation"
    extra := [("operation", .ofText? operation)]
    failure := none }

/-- What is told when the operation at hand is written down. -/
def operationTold (operation : Option String) : Exchange :=
  ⟨.log (operationEntry operation), ()⟩

/-- Writes down the operation at hand. -/
def noteOperation : Action Unit := do
  let place ← Action.place
  Action.log (operationEntry place.operation)

namespace Layer

variable (l : Layer)

/-- How a call of the layer is traced. -/
def tracingOf (x : Value) : Tracing :=
  { l.tracing with called := (l.getter x).mapError Subtype.val }

theorem isGot_tracingOf (x : Value) : (l.tracingOf x).IsGot := by
  intro f hf
  have hcalled : (l.getter x).mapError Subtype.val = .error f := hf
  cases hgot : l.getter x with
  | ok attributes => simp [hgot, Except.mapError] at hcalled
  | error e =>
    rw [hgot] at hcalled
    cases hcalled
    exact e.property

/-- Whether the layer deals with a failure of the inner call. -/
def catches (f : Failure) : Bool := l.rescue.isSome && f.handled

/-- What the inner call comes to for the layer. -/
def resolve : Except Failure Value → Action Value
  | .ok z => pure z
  | .error e =>
    match l.rescue with
    | some name => if e.handled then Action.call name (.text e.text) else Action.fail e
    | none => Action.fail e

variable {l} in
theorem resolve_of_not_catches {e : Failure} (h : l.catches e = false) :
    l.resolve (.error e) = Action.fail e := by
  unfold resolve
  cases hrescue : l.rescue with
  | none => rfl
  | some name =>
    have he : e.handled = false := by simpa [catches, hrescue] using h
    simp only [he, Bool.false_eq_true, if_false]

variable {l} in
theorem resolve_of_catches {e : Failure} (h : l.catches e = true) :
    ∃ name, l.resolve (.error e) = Action.call name (.text e.text) := by
  unfold resolve
  cases hrescue : l.rescue with
  | none => simp [catches, hrescue] at h
  | some name =>
    have he : e.handled = true := by simpa [catches, hrescue] using h
    exact ⟨name, by simp only [he, if_true]⟩

/-- What the layer does when the inner call is over. -/
def later (r : Except Failure Value) : Action Value := do
  let z ← l.resolve r
  noteOperation
  Action.call l.after z

/-- What the layer does, but for its span. -/
def body (inner : Value → Action Value) (x : Value) : Action Value := do
  noteOperation
  let y ← Action.call l.before x
  let r ← Action.outcome (inner y)
  l.later r

end Layer

/-- Layers within one another, the outermost first, each in its span. -/
def tracedLayers : List Layer → Value → Action Value
  | [], x => pure x
  | l :: ls, x => (l.tracingOf x).run (l.body (tracedLayers ls) x)

/-- The same layers without spans. -/
def untracedLayers : List Layer → Value → Action Value
  | [], x => pure x
  | l :: ls, x => l.body (untracedLayers ls) x

/-! ## The same but for what is quiet -/

/-- An action can show these exchanges, apart from quiet ones, and come to this outcome. -/
def Action.Shows {α : Type} (act : Action α) (place : Place) (shown : List Exchange)
    (r : Except Failure α) : Prop :=
  ∃ told, act.Goes place told r ∧ told.filter Exchange.isLoud = shown

/-- Two actions show the same, wherever each of them runs. -/
def Alike {α : Type} (a b : Action α) : Prop :=
  ∀ place elsewhere shown r, a.Shows place shown r ↔ b.Shows elsewhere shown r

section Alike

variable {α β : Type} {a b : Action α} {f g : α → Action β} {place : Place}
  {shown : List Exchange}

theorem shows_bind_iff {r : Except Failure β} :
    (a >>= f).Shows place shown r
      ↔ (∃ e, r = .error e ∧ a.Shows place shown (.error e))
        ∨ ∃ x s s', shown = s ++ s' ∧ a.Shows place s (.ok x) ∧ (f x).Shows place s' r := by
  constructor
  · rintro ⟨told, h, rfl⟩
    obtain ⟨e, rfl, ha⟩ | ⟨x, t, t', rfl, ha, hf⟩ := Action.goes_bind_iff.mp h
    · exact .inl ⟨e, rfl, told, ha, rfl⟩
    · exact .inr ⟨x, _, _, List.filter_append .., ⟨t, ha, rfl⟩, ⟨t', hf, rfl⟩⟩
  · rintro (⟨e, rfl, told, ha, rfl⟩ | ⟨x, s, s', rfl, ⟨t, ha, rfl⟩, ⟨t', hf, rfl⟩⟩)
    · exact ⟨told, Action.goes_bind_iff.mpr (.inl ⟨e, rfl, ha⟩), rfl⟩
    · exact ⟨t ++ t', Action.goes_bind_iff.mpr (.inr ⟨x, t, t', rfl, ha, hf⟩),
        List.filter_append ..⟩

theorem shows_outcome_iff {r : Except Failure (Except Failure α)} :
    (Action.outcome a).Shows place shown r ↔ ∃ x, r = .ok x ∧ a.Shows place shown x := by
  constructor
  · rintro ⟨told, h, rfl⟩
    obtain ⟨x, ha, rfl⟩ := Program.Goes.of_map h
    exact ⟨x, rfl, told, ha, rfl⟩
  · rintro ⟨x, rfl, told, ha, rfl⟩
    exact ⟨told, Program.Goes.map ha Except.ok, rfl⟩

namespace Alike

/-- An action for which it does not matter where it runs. -/
theorem of_anywhere (h : ∀ place elsewhere, a place = a elsewhere) : Alike a a := by
  intro place elsewhere shown r
  unfold Action.Shows Action.Goes
  rw [h place elsewhere]

theorem bind (h : Alike a b) (hf : ∀ x, Alike (f x) (g x)) : Alike (a >>= f) (b >>= g) := by
  intro place elsewhere shown r
  rw [shows_bind_iff, shows_bind_iff]
  simp only [h place elsewhere, hf _ place elsewhere]

theorem outcome (h : Alike a b) : Alike (Action.outcome a) (Action.outcome b) := by
  intro place elsewhere shown r
  rw [shows_outcome_iff, shows_outcome_iff]
  simp only [h place elsewhere]

/-- A span makes no difference to what an action shows. -/
theorem run {t : Tracing} (ht : t.IsGot) (h : Alike a b) : Alike (t.run a) b := by
  intro place elsewhere shown r
  have hentering (parent : Option ℕ) (span : ℕ) :
      (t.entering parent span).filter Exchange.isLoud = [] :=
    Tracing.filter_entering (fun _ => rfl) fun _ _ => rfl
  have hleaving (span : ℕ) : (Tracing.leaving span r).filter Exchange.isLoud = [] := by
    refine List.filter_eq_nil_iff.mpr fun x hx => ?_
    obtain ⟨name, rfl⟩ | rfl := Tracing.mem_leaving hx <;> exact Bool.noConfusion
  constructor
  · rintro ⟨told, hrun, rfl⟩
    obtain ⟨span, inner, ha, rfl⟩ := (Tracing.goes_run_iff ht).mp hrun
    refine (h (t.inside span) elsewhere _ r).mp ⟨inner, ha, ?_⟩
    simp [hentering, hleaving]
  · intro hb
    -- whatever the number of the span is, the action shows the same
    obtain ⟨inner, ha, rfl⟩ := (h (t.inside 0) elsewhere shown r).mpr hb
    refine ⟨_, (Tracing.goes_run_iff ht).mpr ⟨0, inner, ha, rfl⟩, ?_⟩
    simp [hentering, hleaving]

theorem noteOperation : Alike noteOperation noteOperation := by
  have hshows (place : Place) (shown : List Exchange) (r : Except Failure Unit) :
      SqlComposer.noteOperation.Shows place shown r ↔ shown = [] ∧ r = .ok () := by
    constructor
    · rintro ⟨told, h, rfl⟩
      obtain ⟨⟨⟩, rest, rfl, hrest⟩ := Program.goes_ask_iff.mp h
      obtain ⟨rfl, rfl⟩ := hrest.of_done
      exact ⟨rfl, rfl⟩
    · rintro ⟨rfl, rfl⟩
      exact ⟨_, Program.goes_ask_iff.mpr ⟨(), [], rfl, .done _⟩, rfl⟩
  intro place elsewhere shown r
  rw [hshows, hshows]

theorem later (l : Layer) (r : Except Failure Value) : Alike (l.later r) (l.later r) := by
  have hresolve : Alike (l.resolve r) (l.resolve r) := by
    refine of_anywhere fun place elsewhere => ?_
    cases r with
    | ok z => rfl
    | error e =>
      cases he : l.catches e with
      | false => rw [Layer.resolve_of_not_catches he]; rfl
      | true =>
        obtain ⟨name, hname⟩ := Layer.resolve_of_catches he
        rw [hname]
        rfl
  exact hresolve.bind fun z => noteOperation.bind fun _ => of_anywhere fun _ _ => rfl

theorem body (l : Layer) {inner inner' : Value → Action Value} (x : Value)
    (h : ∀ y, Alike (inner y) (inner' y)) : Alike (l.body inner x) (l.body inner' x) := by
  have hbefore : Alike (Action.call l.before x) (Action.call l.before x) :=
    of_anywhere fun _ _ => rfl
  exact noteOperation.bind fun _ => hbefore.bind fun y => (h y).outcome.bind fun r => later l r

end Alike

/-- Layers show the same with their spans as without. -/
theorem alike_traced (ls : List Layer) (x : Value) :
    Alike (tracedLayers ls x) (untracedLayers ls x) := by
  induction ls generalizing x with
  | nil => exact .of_anywhere fun _ _ => rfl
  | cons l ls ih => exact (Alike.body l x ih).run (l.isGot_tracingOf x)

end Alike

/-! ## The layers that are entered -/

/-- A layer that was entered. -/
structure Visit where
  layer : Layer
  /-- The number of the enclosing span. -/
  parent : Option ℕ
  /-- The number of its own span. -/
  span : ℕ
  /-- Whether the layer went on after the inner call. -/
  wentOn : Bool
  /-- What the layer came to. -/
  outcome : Except Failure Value

/-- The layers that are entered, the outermost first, and what the outermost comes to. The span of
a layer encloses that of the next. -/
inductive Visited : List Layer → Option ℕ → List Visit → Except Failure Value → Prop
  | innermost (parent : Option ℕ) (x : Value) : Visited [] parent [] (.ok x)
  /-- The layer fails before the inner call. -/
  | stopped (l : Layer) (ls : List Layer) (parent : Option ℕ) (span : ℕ) (e : Failure) :
      Visited (l :: ls) parent [⟨l, parent, span, false, .error e⟩] (.error e)
  /-- The inner call fails, and that failure passes through the layer, or the layer fails in
  dealing with it. -/
  | broken {l : Layer} {ls : List Layer} {span : ℕ} {visits : List Visit} {inner e : Failure}
      (parent : Option ℕ) (h : Visited ls (some span) visits (.error inner))
      (he : l.catches inner = true ∨ e = inner) :
      Visited (l :: ls) parent (⟨l, parent, span, false, .error e⟩ :: visits) (.error e)
  /-- The inner call returns, or the layer has dealt with its failure. -/
  | wentOn {l : Layer} {ls : List Layer} {span : ℕ} {visits : List Visit}
      {inner : Except Failure Value} (parent : Option ℕ) (r : Except Failure Value)
      (h : Visited ls (some span) visits inner)
      (hinner : ∀ e, inner = .error e → l.catches e = true) :
      Visited (l :: ls) parent (⟨l, parent, span, true, r⟩ :: visits) r

/-- What is told of the spans of layers and of the operations in them: every layer starts its span
and ends it, and between the two are its own operation and the whole of the inner layers. -/
def scopeTold : List Visit → List Exchange
  | [] => []
  | v :: vs =>
    [⟨.startSpan (v.layer.tracing.start v.parent), v.span⟩,
        operationTold (some v.layer.tracing.name)]
      ++ scopeTold vs
      ++ (if v.wentOn then [operationTold (some v.layer.tracing.name)] else [])
      ++ Tracing.leaving v.span v.outcome

/-- Whether a request is about a span, its attributes apart, or writes down the operation at
hand. -/
def Request.isScope : Request → Bool
  | .startSpan _ | .failSpan .. | .endSpan _ => true
  | .log e => e.logger == layerLogger
  | _ => false

/-- Whether an exchange is about a span or the operation at hand. -/
def Exchange.isScope (x : Exchange) : Bool := x.request.isScope

section Visits

variable {l : Layer} {place : Place} {told : List Exchange} {r : Except Failure Value}

theorem goes_noteOperation_iff {β : Type} {f : Unit → Action β} {r : Except Failure β} :
    (noteOperation >>= f).Goes place told r
      ↔ ∃ rest, told = operationTold place.operation :: rest ∧ (f ()).Goes place rest r := by
  constructor
  · intro h
    obtain ⟨⟨⟩, rest, rfl, hrest⟩ := Program.goes_ask_iff.mp h
    exact ⟨rest, rfl, hrest⟩
  · rintro ⟨rest, rfl, h⟩
    exact Program.goes_ask_iff.mpr ⟨(), rest, rfl, h⟩

/-- A layer goes on when the inner call is over, or ends with the failure of the inner call or one
in dealing with it. -/
theorem goes_later {inner : Except Failure Value} (h : (l.later inner).Goes place told r) :
    (told.filter Exchange.isScope = [operationTold place.operation]
        ∧ ∀ e, inner = .error e → l.catches e = true)
      ∨ told.filter Exchange.isScope = []
        ∧ ∃ e e', inner = .error e ∧ r = .error e' ∧ (l.catches e = true ∨ e' = e) := by
  have hwentOn {z : Value} {told : List Exchange}
      (h : (noteOperation >>= fun _ => Action.call l.after z).Goes place told r) :
      told.filter Exchange.isScope = [operationTold place.operation] := by
    obtain ⟨rest, rfl, hcall⟩ := goes_noteOperation_iff.mp h
    rw [Action.goes_call_iff.mp hcall]
    rfl
  cases inner with
  | ok z => exact .inl ⟨hwentOn h, nofun⟩
  | error e =>
    unfold Layer.later at h
    cases he : l.catches e with
    | false =>
      rw [Layer.resolve_of_not_catches he] at h
      obtain ⟨rfl, rfl⟩ := Program.Goes.of_done h
      exact .inr ⟨rfl, e, e, rfl, rfl, .inr rfl⟩
    | true =>
      obtain ⟨name, hname⟩ := Layer.resolve_of_catches he
      rw [hname] at h
      obtain ⟨e', rfl, hcall⟩ | ⟨z, t, t', rfl, hcall, hrest⟩ := Action.goes_bind_iff.mp h
      · rw [Action.goes_call_iff.mp hcall]
        exact .inr ⟨rfl, e, e', rfl, rfl, .inl he⟩
      · rw [Action.goes_call_iff.mp hcall, List.filter_append, hwentOn hrest]
        refine .inl ⟨rfl, ?_⟩
        rintro _ ⟨⟩
        exact he

/-- What is told of spans and operations in a traced layer stands between the start of its span
and the end. -/
theorem filter_run {t : Tracing} (ht : t.IsGot) {act : Action Value}
    (h : (t.run act).Goes place told r) :
    ∃ span inner, act.Goes (t.inside span) inner r
      ∧ told.filter Exchange.isScope
        = ⟨.startSpan (t.start place.span), span⟩ :: (inner.filter Exchange.isScope
          ++ Tracing.leaving span r) := by
  obtain ⟨span, inner, hact, rfl⟩ := (Tracing.goes_run_iff ht).mp h
  have hentering : (t.entering place.span span).filter Exchange.isScope
      = [⟨.startSpan (t.start place.span), span⟩] :=
    Tracing.filter_entering (fun _ => rfl) fun _ _ => rfl
  have hleaving : (Tracing.leaving span r).filter Exchange.isScope = Tracing.leaving span r := by
    refine List.filter_eq_self.mpr fun x hx => ?_
    obtain ⟨name, rfl⟩ | rfl := Tracing.mem_leaving hx <;> rfl
  refine ⟨span, inner, hact, ?_⟩
  rw [List.filter_append, List.filter_append, hentering, hleaving]
  rfl

/-- What is told of spans and operations is told of the layers that were entered. -/
theorem visited_of_goes {ls : List Layer} {x : Value} (h : (tracedLayers ls x).Goes place told r) :
    ∃ visits, Visited ls place.span visits r
      ∧ told.filter Exchange.isScope = scopeTold visits := by
  induction ls generalizing x place told r with
  | nil =>
    obtain ⟨rfl, rfl⟩ := Action.goes_pure_iff.mp h
    exact ⟨[], .innermost _ x, rfl⟩
  | cons l ls ih =>
    obtain ⟨span, own, hbody, htold⟩ := filter_run (l.isGot_tracingOf x) h
    obtain ⟨rest, rfl, hrest⟩ := goes_noteOperation_iff.mp hbody
    obtain ⟨e, rfl, hcall⟩ | ⟨y, t, t', rfl, hcall, hinner⟩ := Action.goes_bind_iff.mp hrest
    · refine ⟨_, .stopped l ls place.span span e, htold.trans ?_⟩
      rw [Action.goes_call_iff.mp hcall]
      rfl
    obtain ⟨q, u, u', rfl, hq, hlater⟩ := Action.goes_outcome_iff.mp hinner
    obtain ⟨visits, hvisited, hscope⟩ := ih hq
    rw [Action.goes_call_iff.mp hcall] at htold
    -- the inner layers stand as a whole between what the layer tells before and after them
    have hown : (operationTold (some l.tracing.name) :: ([⟨.call l.before x, .ok y⟩]
          ++ (u ++ u')) : List Exchange).filter Exchange.isScope
        = operationTold (some l.tracing.name)
          :: (scopeTold visits ++ u'.filter Exchange.isScope) := by
      rw [← hscope, ← List.filter_append]
      rfl
    obtain ⟨hwent, hcaught⟩ | ⟨hbroken, e, e', rfl, rfl, he⟩ := goes_later hlater
    · rw [hwent] at hown
      refine ⟨_, .wentOn place.span r hvisited hcaught, htold.trans ?_⟩
      exact congrArg (fun own => _ :: (own ++ Tracing.leaving span r)) hown
    · rw [hbroken] at hown
      refine ⟨_, .broken place.span hvisited he, htold.trans ?_⟩
      exact congrArg (fun own => _ :: (own ++ Tracing.leaving span (.error e'))) hown

end Visits

/-! ## Where a program runs, kept as it goes -/

/-- A program that says where it runs from then on. -/
def Roaming (α : Type) : Type := Place → Program outside (Except Failure α × Place)

namespace Roaming

variable {α β : Type}

/-- Goes on with another program, from where the first has come to, if that succeeds. -/
def bind (a : Roaming α) (f : α → Roaming β) : Roaming β := fun place =>
  (a place).bind fun
    | (.ok x, after) => f x after
    | (.error e, after) => .done (.error e, after)

instance : Monad Roaming where
  pure x := fun place => .done (.ok x, place)
  bind := bind

/-- An action, which leaves the place as it is. -/
def ofAction (act : Action α) : Roaming α := fun place =>
  (act place).bind fun r => .done (r, place)

/-- Where the program has come to. -/
def place : Roaming Place := fun place => .done (.ok place, place)

/-- Sets the operation at hand. -/
def setOperation (operation : Option String) : Roaming Unit := fun place =>
  .done (.ok (), { place with operation := operation })

/-- Sets the span at hand. -/
def setSpan (span : Option ℕ) : Roaming Unit := fun place =>
  .done (.ok (), { place with span := span })

/-- The outcome of a program, which does not fail itself. -/
def outcome (a : Roaming α) : Roaming (Except Failure α) := fun place =>
  (a place).bind fun e => .done (.ok e.1, e.2)

/-- Does something after a program, however it ends. -/
def ending (a : Roaming α) (after : Roaming Unit) : Roaming α := do
  let r ← outcome a
  after
  ofAction (Action.ofOutcome r)

/-- Runs a program with another operation at hand, and resets that however the program ends. -/
def underOperation (name : String) (a : Roaming α) : Roaming α := do
  let before ← place
  setOperation (some name)
  ending a (setOperation before.operation)

/-- Runs a program with another span at hand, and resets that however the program ends. -/
def underSpan (span : ℕ) (a : Roaming α) : Roaming α := do
  let before ← place
  setSpan (some span)
  ending a (setSpan before.span)

/-- What a traced program does in its span. -/
def watched (t : Tracing) (span : ℕ) (a : Roaming α) : Roaming α := do
  ofAction t.noteGetter
  ofAction (Tracing.setAttributes span t.allAttributes)
  match ← outcome a with
  | .ok x => return x
  | .error f =>
    ofAction (Tracing.noteFailure span f)
    ofAction (Action.fail f)

/-- Runs a program in a span of its own, which is at hand like its operation until it ends. -/
def run (t : Tracing) (a : Roaming α) : Roaming α := do
  let here ← place
  let span ← ofAction (Action.ask (.startSpan (t.start here.span)))
  ending (underSpan span (underOperation t.name (watched t span a)))
    (ofAction (Action.ask (.endSpan span)))

/-- What a layer does, but for its span. -/
def body (l : Layer) (inner : Value → Roaming Value) (x : Value) : Roaming Value := do
  ofAction noteOperation
  let y ← ofAction (Action.call l.before x)
  let r ← outcome (inner y)
  ofAction (l.later r)

/-- Layers within one another, the outermost first, each in its span. -/
def layers : List Layer → Value → Roaming Value
  | [], x => pure x
  | l :: ls, x => run (l.tracingOf x) (body l (layers ls) x)

theorem ofAction_bind (a : Action α) (f : α → Action β) :
    ofAction (a >>= f) = ofAction a >>= fun x => ofAction (f x) := by
  funext here
  change Program.bind (Program.bind (a here) _) _ = Program.bind (Program.bind (a here) _) _
  rw [Program.bind_bind, Program.bind_bind]
  congr 1
  funext r
  cases r <;> rfl

theorem outcome_ofAction (a : Action α) : outcome (ofAction a) = ofAction (Action.outcome a) := by
  funext here
  change Program.bind (Program.bind (a here) _) _ = Program.bind (Program.bind (a here) _) _
  rw [Program.bind_bind, Program.bind_bind]
  rfl

theorem ending_ofAction (a : Action α) (after : Action Unit) :
    ending (ofAction a) (ofAction after) = ofAction (Action.ending a after) := by
  unfold ending Action.ending
  rw [outcome_ofAction, ofAction_bind]
  congr 1
  funext r
  exact (ofAction_bind _ _).symm

/-- A program that is followed by a reset ends where the reset leads. -/
theorem ending_reset {a : Roaming α} {reset : Place → Place} {here : Place} :
    ending a (fun place => .done (.ok (), reset place)) here
      = (a here).bind fun e => .done (e.1, reset e.2) := by
  change Program.bind (Program.bind (a here) _) _ = _
  rw [Program.bind_bind]
  rfl

theorem underOperation_apply (name : String) (a : Roaming α) (here : Place) :
    underOperation name a here = (a { here with operation := some name }).bind fun e =>
      .done (e.1, { e.2 with operation := here.operation }) :=
  ending_reset

theorem underSpan_apply (span : ℕ) (a : Roaming α) (here : Place) :
    underSpan span a here = (a { here with span := some span }).bind fun e =>
      .done (e.1, { e.2 with span := here.span }) :=
  ending_reset

/-- An action under a span and an operation runs where both are at hand. -/
theorem under_ofAction (span : ℕ) (name : String) (a : Action α) :
    underSpan span (underOperation name (ofAction a))
      = ofAction (Action.within ⟨some name, some span⟩ a) := by
  funext here
  rw [underSpan_apply, underOperation_apply]
  unfold ofAction Action.within
  rw [Program.bind_bind, Program.bind_bind]
  rfl

theorem watched_ofAction (t : Tracing) (span : ℕ) (a : Action α) :
    watched t span (ofAction a) = ofAction (t.inSpan span a) := by
  unfold watched Tracing.inSpan
  rw [outcome_ofAction, ofAction_bind]
  congr 1
  funext _
  rw [ofAction_bind]
  congr 1
  funext _
  rw [ofAction_bind]
  congr 1
  funext r
  cases r with
  | ok x => rfl
  | error e => exact (ofAction_bind _ _).symm

theorem run_ofAction (t : Tracing) (a : Action α) : run t (ofAction a) = ofAction (t.run a) := by
  funext here
  have hspan : run t (ofAction a) here
      = (ofAction (Action.ask (.startSpan (t.start here.span))) >>= fun span =>
          ending (underSpan span (underOperation t.name (watched t span (ofAction a))))
            (ofAction (Action.ask (.endSpan span)))) here := rfl
  simp only [hspan, watched_ofAction, under_ofAction, ending_ofAction]
  rw [← ofAction_bind]
  rfl

theorem body_ofAction (l : Layer) (inner : Value → Action Value) (x : Value) :
    body l (fun y => ofAction (inner y)) x = ofAction (l.body inner x) := by
  unfold body Layer.body
  rw [ofAction_bind]
  congr 1
  funext _
  rw [ofAction_bind]
  congr 1
  funext y
  rw [outcome_ofAction]
  exact (ofAction_bind _ _).symm

/-- Setting and resetting the place comes to the same as running within it. -/
theorem layers_eq (ls : List Layer) (x : Value) :
    layers ls x = ofAction (tracedLayers ls x) := by
  induction ls generalizing x with
  | nil => rfl
  | cons l ls ih =>
    have hinner : layers ls = fun y => ofAction (tracedLayers ls y) := funext ih
    unfold layers
    rw [hinner, body_ofAction, run_ofAction]
    rfl

theorem goes_ofAction_iff {a : Action α} {here after : Place} {told : List Exchange}
    {r : Except Failure α} :
    Program.Goes (ofAction a here) told (r, after) ↔ after = here ∧ a.Goes here told r := by
  constructor
  · intro h
    obtain ⟨x, ha, hx⟩ := Program.Goes.of_map h
    cases hx
    exact ⟨rfl, ha⟩
  · rintro ⟨rfl, ha⟩
    exact Program.Goes.map ha fun r => (r, after)

end Roaming

/-- Layers within one another, whatever each of them does, come to what they come to without
spans, and ask the same of their surroundings. What is told of spans and operations is told of the
layers that were entered: each starts one span, enclosed by that of the layer around it, and ends
it, having failed if an exception has passed through the layer; the operation at hand is its own
before the inner call, and after that if the layer goes on. Where the place is set and reset as the
layers go, it is in the end what it was before, and all else is the same. -/
theorem traced_layers_nest (ls : List Layer) (x : Value) (place : Place) :
    (∀ shown r, (tracedLayers ls x).Shows place shown r ↔ (untracedLayers ls x).Shows place shown r)
      ∧ (∀ told r, (tracedLayers ls x).Goes place told r →
        ∃ visits, Visited ls place.span visits r
          ∧ told.filter Exchange.isScope = scopeTold visits)
      ∧ ∀ told r after, Program.Goes (Roaming.layers ls x place) told (r, after)
        ↔ after = place ∧ (tracedLayers ls x).Goes place told r := by
  refine ⟨?_, ?_, ?_⟩
  · exact alike_traced ls x place place
  · intro told r
    exact visited_of_goes
  · intro told r after
    rw [Roaming.layers_eq]
    exact Roaming.goes_ofAction_iff

end SqlComposer
