import SqlComposer.Proofs.Interleaving
import SqlComposer.Proofs.Surroundings

/-!
# Runs of programs side by side

A scene numbers connections in the order in which they are handed out, so a statement about what
is always true of an action is one about the action alone. If two actions run side by side, each
sees the other's exchanges pass by. Here a run is the list of its exchanges, whatever the answers:
`Program.Goes`. A run of two programs side by side is a run of each of them, interleaved, and every
interleaving of two runs is one for some schedule (`goes_interleave`, `exists_schedule`).

`Action.Tells` states what every run of an action tells apart from its quiet exchanges. It is
proved rule by rule along the ways in which actions are put together, and `Tells.both` takes it to
two actions side by side. What is told of an action that leaves handles alone is also true of it in
every scene (`Tells.always`), so an action that is followed run by run is not followed again.
-/

set_option autoImplicit false

namespace SqlComposer

/-! ## Runs -/

/-- A program goes along some exchanges to a result: it asks what they ask and is answered as they
say. -/
inductive Program.Goes {α : Type} : Program outside α → List Exchange → α → Prop
  | done (a : α) : Goes (.done a) [] a
  | ask {r : Request} {next : Request.Answer r → Program outside α} {told : List Exchange} {a : α}
      (answer : Request.Answer r) (h : Goes (next answer) told a) :
      Goes (.ask r next) (⟨r, answer⟩ :: told) a

namespace Program

variable {α β : Type}

theorem Goes.bind {p : Program outside α} {f : α → Program outside β} {t t' : List Exchange}
    {a : α} {b : β} (hp : p.Goes t a) (hf : (f a).Goes t' b) : (p.bind f).Goes (t ++ t') b := by
  induction hp with
  | done a => exact hf
  | ask answer h ih => exact .ask answer (ih hf)

/-- A run of a program after another is a run of the first and then one of the second. -/
theorem Goes.of_bind {p : Program outside α} {f : α → Program outside β} {told : List Exchange}
    {b : β} (h : (p.bind f).Goes told b) :
    ∃ a t t', told = t ++ t' ∧ p.Goes t a ∧ (f a).Goes t' b := by
  induction p generalizing told with
  | done a => exact ⟨a, [], told, rfl, .done a, h⟩
  | ask r next ih =>
    cases h with
    | ask answer h =>
      obtain ⟨a, t, t', rfl, hp, hf⟩ := ih answer h
      exact ⟨a, _, t', rfl, .ask answer hp, hf⟩

theorem Goes.of_done {a : α} {told : List Exchange} {b : α}
    (h : (Program.done (I := outside) a).Goes told b) : told = [] ∧ b = a := by
  cases h
  exact ⟨rfl, rfl⟩

/-- A run that ends by putting its result in another form. -/
theorem Goes.of_map {p : Program outside α} {f : α → β} {told : List Exchange} {b : β}
    (h : (p.bind fun a => .done (f a)).Goes told b) : ∃ a, p.Goes told a ∧ b = f a := by
  obtain ⟨a, t, t', rfl, hp, hdone⟩ := h.of_bind
  obtain ⟨rfl, rfl⟩ := hdone.of_done
  exact ⟨a, by rwa [List.append_nil], rfl⟩

theorem Goes.map {p : Program outside α} {told : List Exchange} {a : α} (h : p.Goes told a)
    (f : α → β) : (p.bind fun a => .done (f a)).Goes told (f a) := by
  have hdone := h.bind (f := fun a => .done (f a)) (.done (f a))
  rwa [List.append_nil] at hdone

theorem goes_done_iff {a b : α} {told : List Exchange} :
    (Program.done (I := outside) a).Goes told b ↔ told = [] ∧ b = a := by
  constructor
  · exact Goes.of_done
  · rintro ⟨rfl, rfl⟩
    exact .done b

theorem goes_ask_iff {r : Request} {next : Request.Answer r → Program outside α}
    {told : List Exchange} {a : α} :
    (Program.ask r next : Program outside α).Goes told a
      ↔ ∃ answer rest, told = ⟨r, answer⟩ :: rest ∧ (next answer).Goes rest a := by
  constructor
  · intro h
    cases h with
    | ask answer h => exact ⟨answer, _, rfl, h⟩
  · rintro ⟨answer, rest, rfl, h⟩
    exact .ask answer h

/-- A run of two programs side by side is one of each, interleaved. -/
theorem goes_interleave {schedule : List Bool} {p : Program outside α} {q : Program outside β}
    {told : List Exchange} {a : α} {b : β} {first : Bool}
    (h : (interleave schedule p q).Goes told (a, b, first)) :
    ∃ t t', Interleaved t t' told ∧ p.Goes t a ∧ q.Goes t' b := by
  fun_induction interleave schedule p q generalizing told with
  | case1 schedule x q =>
    obtain ⟨y, hq, hresult⟩ := h.of_map
    cases hresult
    exact ⟨[], told, .inRow [] told, .done _, hq⟩
  | case2 schedule y p hp =>
    obtain ⟨x, hp, hresult⟩ := h.of_map
    cases hresult
    exact ⟨told, [], by simpa using Interleaved.inRow told [], hp, .done _⟩
  | case3 p q hp hq =>
    obtain ⟨x, t, t', rfl, hp, hrest⟩ := h.of_bind
    obtain ⟨y, hq, hresult⟩ := hrest.of_map
    cases hresult
    exact ⟨t, t', .inRow t t', hp, hq⟩
  | case4 schedule r next q hq ih =>
    cases h with
    | ask answer h =>
      obtain ⟨t, t', htold, hp, hq⟩ := ih answer h
      exact ⟨_, t', htold.left, .ask answer hp, hq⟩
  | case5 schedule p r next hp ih =>
    cases h with
    | ask answer h =>
      obtain ⟨t, t', htold, hp, hq⟩ := ih answer h
      exact ⟨t, _, htold.right, hp, .ask answer hq⟩

/-- Two runs can be interleaved in any way, by some schedule. -/
theorem exists_schedule {p : Program outside α} {q : Program outside β}
    {t t' told : List Exchange} {a : α} {b : β} (hp : p.Goes t a) (hq : q.Goes t' b)
    (h : Interleaved t t' told) :
    ∃ schedule first, (interleave schedule p q).Goes told (a, b, first) := by
  induction h generalizing p q with
  | nil =>
    cases hp
    cases hq
    exact ⟨[], true, .done _⟩
  | left h ih =>
    cases hp with
    | @ask r next told a answer hp =>
      cases q with
      | done y =>
        -- the second program is over, whatever the schedule says
        obtain ⟨rfl, rfl⟩ := hq.of_done
        rw [h.eq_left]
        exact ⟨[], false, (Goes.ask answer hp).map fun x => (x, b, false)⟩
      | ask r' next' =>
        obtain ⟨schedule, first, hgoes⟩ := ih hp hq
        exact ⟨true :: schedule, first, .ask answer hgoes⟩
  | right h ih =>
    cases hq with
    | @ask r next told b answer hq =>
      cases p with
      | done x =>
        obtain ⟨rfl, rfl⟩ := hp.of_done
        rw [h.eq_right]
        exact ⟨[], true, (Goes.ask answer hq).map fun y => (a, y, true)⟩
      | ask r' next' =>
        obtain ⟨schedule, first, hgoes⟩ := ih hp hq
        exact ⟨false :: schedule, first, .ask answer hgoes⟩

end Program

/-- A run in surroundings goes along what they answer. -/
theorem Surroundings.exists_goes {σ α : Type} (env : Surroundings σ) (p : Program outside α)
    (now : Scene × σ) : ∃ told, p.Goes told (env.run p now).1 := by
  unfold Surroundings.run
  induction p generalizing now with
  | done a => exact ⟨[], .done a⟩
  | ask r next ih =>
    obtain ⟨told, hgoes⟩ := ih (env.answer r now).1 (env.answer r now).2
    exact ⟨_, .ask _ hgoes⟩

/-! ## What runs tell -/

/-- Whether an exchange is told of: its request does more than to look or to write to the log. -/
def Exchange.isLoud (x : Exchange) : Bool := !x.request.isQuiet

namespace Scene

/-- Exchanges that can follow one another from a scene on, in a manner. -/
def Follow (m : Manner) : Scene → List Exchange → Prop
  | _, [] => True
  | s, x :: told => (∃ b, m x.request b ∧ x.answer = s.settle x.request b)
    ∧ (s.after x.request x.answer).Follow m told

/-- The scene after some exchanges. -/
def afterAll (s : Scene) (told : List Exchange) : Scene :=
  told.foldl (fun s x => s.after x.request x.answer) s

theorem isOnHandles_of_isQuiet {r : Request} (h : r.isQuiet = true) : r.isOnHandles = false := by
  cases r <;> first | rfl | exact Bool.noConfusion h

/-- Where handles are left alone, the scene is told all that is not quiet and each exchange was
possible with the handles as they have been all along. -/
theorem Follow.settledIn {m : Manner} {s₀ s : Scene} {told : List Exchange} (h : s.Follow m told)
    (hs : s.handles = s₀.handles)
    (hnone : ∀ x ∈ told.filter Exchange.isLoud, x.request.isOnHandles = false) :
    (∀ x ∈ told, (m.settledIn s₀).Admits x)
      ∧ s.afterAll told = s.tellAll (told.filter Exchange.isLoud) := by
  induction told generalizing s with
  | nil => exact ⟨fun _ hx => absurd hx List.not_mem_nil, s.tellAll_nil.symm⟩
  | cons x told ih =>
    obtain ⟨⟨b, hb, hanswer⟩, hrest⟩ := h
    have hfirst : (m.settledIn s₀).Admits x := ⟨s, b, hs, hb, hanswer⟩
    have hx : x.request.isOnHandles = false := by
      cases hquiet : x.request.isQuiet with
      | true => exact isOnHandles_of_isQuiet hquiet
      | false => exact hnone x (by simp [Exchange.isLoud, hquiet])
    have hkept : (s.after x.request x.answer).handles = s₀.handles :=
      (after_handles s hx x.answer).trans hs
    obtain ⟨hadmitted, hend⟩ := ih hrest hkept fun y hy =>
      hnone y (List.mem_filter.mpr ⟨.tail x (List.mem_filter.mp hy).1, (List.mem_filter.mp hy).2⟩)
    refine ⟨List.forall_mem_cons.mpr ⟨hfirst, hadmitted⟩, hend.trans ?_⟩
    cases hquiet : x.request.isQuiet with
    | true => rw [after_quiet s hquiet, List.filter_cons_of_neg (by simp [Exchange.isLoud, hquiet])]
    | false =>
      rw [after_loud s hquiet hx, List.filter_cons_of_pos (by simp [Exchange.isLoud, hquiet]),
        tellAll_cons]

end Scene

/-- A program ends in a scene to which one of its runs has led. -/
theorem Program.always_goes {α : Type} {m : Manner} (p : Program outside α) (s : Scene) :
    p.Always m (fun a s' => ∃ told, p.Goes told a ∧ s.Follow m told ∧ s' = s.afterAll told) s := by
  induction p generalizing s with
  | done a => exact ⟨[], .done a, trivial, rfl⟩
  | ask r next ih =>
    intro a ha
    refine (ih (s.settle r a) (s.after r (s.settle r a))).mono ?_
    rintro b s' ⟨told, hgoes, hfollow, rfl⟩
    exact ⟨_, .ask _ hgoes, ⟨⟨a, ha, rfl⟩, hfollow⟩, rfl⟩

namespace Action

variable {α β : Type} {m : Manner} {place : Place}

/-- An action goes along some exchanges at a place. -/
def Goes (act : Action α) (place : Place) (told : List Exchange) (r : Except Failure α) : Prop :=
  (act place).Goes told r

/-- A statement about the outcome and the exchanges of every run of an action, but for the quiet
ones, if what is answered is in a manner. -/
def Tells (act : Action α) (m : Manner) (place : Place)
    (Q : Except Failure α → List Exchange → Prop) : Prop :=
  ∀ told r, act.Goes place told r → (∀ x ∈ told, m.Admits x) → Q r (told.filter Exchange.isLoud)

/-- What another action tells after the result of a first; a failure of the first counts. -/
def TellsOn (f : α → Action β) (m : Manner) (place : Place)
    (T : Except Failure β → List Exchange → Prop) :
    Except Failure α → List Exchange → Prop
  | .ok x, t => (f x).Tells m place fun r t' => T r (t ++ t')
  | .error e, t => T (.error e) t

/-- Two runs at a place can be interleaved in any way, by some schedule, and come to what their
outcomes come to. -/
theorem goes_both {a : Action α} {b : Action β} {t t' told : List Exchange} {x : Except Failure α}
    {y : Except Failure β} (ha : a.Goes place t x) (hb : b.Goes place t' y)
    (h : Interleaved t t' told) :
    ∃ schedule first, (Action.both schedule a b).Goes place told (joined x y first) := by
  obtain ⟨schedule, first, hsides⟩ := Program.exists_schedule ha hb h
  refine ⟨schedule, first, ?_⟩
  rw [← List.append_nil told]
  exact (hsides.map Except.ok).bind (.done _)

section Goes

variable {told : List Exchange}

theorem goes_ofOutcome_iff {x r : Except Failure α} :
    (Action.ofOutcome x).Goes place told r ↔ told = [] ∧ r = x :=
  Program.goes_done_iff

theorem goes_pure_iff {x : α} {r : Except Failure α} :
    (pure x : Action α).Goes place told r ↔ told = [] ∧ r = .ok x :=
  Program.goes_done_iff

theorem goes_fail_iff {f : Failure} {r : Except Failure α} :
    (Action.fail f : Action α).Goes place told r ↔ told = [] ∧ r = .error f :=
  Program.goes_done_iff

/-- An action after the outcome of another goes along both. -/
theorem goes_outcome_iff {act : Action α} {f : Except Failure α → Action β}
    {r : Except Failure β} :
    (Action.outcome act >>= f).Goes place told r
      ↔ ∃ x t t', told = t ++ t' ∧ act.Goes place t x ∧ (f x).Goes place t' r := by
  constructor
  · intro h
    obtain ⟨y, t, t', rfl, hact, hrest⟩ := Program.Goes.of_bind h
    obtain ⟨x, hown, rfl⟩ := hact.of_map
    exact ⟨x, t, t', rfl, hown, hrest⟩
  · rintro ⟨x, t, t', rfl, hact, hrest⟩
    exact (Program.Goes.map hact Except.ok).bind hrest

/-- An action after another goes along both, or along the first if that fails. -/
theorem goes_bind_iff {act : Action α} {f : α → Action β} {r : Except Failure β} :
    (act >>= f).Goes place told r
      ↔ (∃ e, r = .error e ∧ act.Goes place told (.error e))
        ∨ ∃ x t t', told = t ++ t' ∧ act.Goes place t (.ok x) ∧ (f x).Goes place t' r := by
  constructor
  · intro h
    obtain ⟨x, t, t', rfl, hact, hrest⟩ := Program.Goes.of_bind h
    cases x with
    | ok x => exact .inr ⟨x, t, t', rfl, hact, hrest⟩
    | error e =>
      obtain ⟨rfl, rfl⟩ := hrest.of_done
      exact .inl ⟨e, rfl, by rwa [List.append_nil]⟩
  · rintro (⟨e, rfl, hact⟩ | ⟨x, t, t', rfl, hact, hrest⟩)
    · rw [← List.append_nil told]
      exact Program.Goes.bind hact (.done _)
    · exact Program.Goes.bind hact hrest

theorem goes_ask_iff {q : Request} {f : Request.Answer q → Action β} {r : Except Failure β} :
    (Action.ask q >>= f).Goes place told r
      ↔ ∃ answer rest, told = ⟨q, answer⟩ :: rest ∧ (f answer).Goes place rest r :=
  Program.goes_ask_iff

theorem goes_call_iff {f : String} {argument : Value} {r : Except Failure Value} :
    (Action.call f argument).Goes place told r ↔ told = [⟨.call f argument, r⟩] := by
  constructor
  · intro h
    obtain ⟨r', rest, rfl, hrest⟩ := Program.goes_ask_iff.mp h
    obtain ⟨rfl, rfl⟩ := hrest.of_done
    rfl
  · rintro rfl
    exact Program.goes_ask_iff.mpr ⟨r, [], rfl, .done r⟩

end Goes

namespace Tells

variable {Q R : Except Failure α → List Exchange → Prop}
  {T : Except Failure β → List Exchange → Prop}

/-- What an action tells is told by each of its runs. -/
theorem goes {act : Action α} {told : List Exchange} {r : Except Failure α}
    (h : act.Tells m place Q) (hgoes : act.Goes place told r) (hm : ∀ x ∈ told, m.Admits x) :
    Q r (told.filter Exchange.isLoud) :=
  h told r hgoes hm

/-- An action tells what each of its runs tells. -/
theorem ofGoes {act : Action α} (h : ∀ told r, act.Goes place told r → (∀ x ∈ told, m.Admits x) →
    Q r (told.filter Exchange.isLoud)) : act.Tells m place Q := h

theorem mono {act : Action α} (h : act.Tells m place Q) (hQ : ∀ r t, Q r t → R r t) :
    act.Tells m place R :=
  fun told r hgoes hm => hQ r _ (h told r hgoes hm)

/-- What an action tells whatever is answered, it tells in every manner. -/
theorem ofAny {act : Action α} (h : act.Tells .any place Q) : act.Tells m place Q :=
  fun told r hgoes _ => h told r hgoes fun _ _ => trivial

/-- What an action tells is told of one of its runs. -/
theorem ofRun {act : Action α} (h : act.Tells m place Q) :
    act.Tells m place fun r t =>
      (∃ told, act.Goes place told r ∧ t = told.filter Exchange.isLoud) ∧ Q r t :=
  fun told r hgoes hm => ⟨⟨told, hgoes, rfl⟩, h told r hgoes hm⟩

theorem ofOutcome {r : Except Failure α} (h : Q r []) :
    (Action.ofOutcome r).Tells m place Q := by
  intro told r' hgoes _
  obtain ⟨rfl, rfl⟩ := hgoes.of_done
  exact h

theorem pure {x : α} (h : Q (.ok x) []) : (Pure.pure x : Action α).Tells m place Q :=
  ofOutcome h

theorem fail {f : Failure} (h : Q (.error f) []) : (Action.fail f : Action α).Tells m place Q :=
  ofOutcome h

theorem within {act : Action α} {elsewhere : Place} (h : act.Tells m elsewhere Q) :
    (Action.within elsewhere act).Tells m place Q := h

theorem here {f : Place → Action β} (h : (f place).Tells m place T) :
    (Action.place >>= f).Tells m place T := h

/-- An action after another tells what both tell. -/
theorem next {act : Action α} {f : α → Action β} (h : act.Tells m place (TellsOn f m place T)) :
    (act >>= f).Tells m place T := by
  intro told r hgoes hm
  obtain ⟨x, t, t', rfl, hact, hrest⟩ := Program.Goes.of_bind hgoes
  have hfirst := h t x hact fun e he => hm e (List.mem_append_left t' he)
  rw [List.filter_append]
  cases x with
  | ok x => exact hfirst t' r hrest fun e he => hm e (List.mem_append_right t he)
  | error e =>
    obtain ⟨rfl, rfl⟩ := hrest.of_done
    rw [List.filter_nil, List.append_nil]
    exact hfirst

theorem bind {act : Action α} {f : α → Action β} (h : act.Tells m place Q)
    (hok : ∀ x t, Q (.ok x) t → (f x).Tells m place fun r t' => T r (t ++ t'))
    (herror : ∀ e t, Q (.error e) t → T (.error e) t) : (act >>= f).Tells m place T := by
  refine next (h.mono ?_)
  intro r t hr
  cases r with
  | ok x => exact hok x t hr
  | error e => exact herror e t hr

/-- An action after the outcome of another, which may be a failure. -/
theorem outcome {act : Action α} {f : Except Failure α → Action β}
    (h : act.Tells m place fun r t => (f r).Tells m place fun r' t' => T r' (t ++ t')) :
    (Action.outcome act >>= f).Tells m place T := by
  refine next ?_
  intro told r hgoes hm
  obtain ⟨x, hact, rfl⟩ := Program.Goes.of_map hgoes
  exact h told x hact hm

theorem ask {r : Request} {Q : Except Failure (Request.Answer r) → List Exchange → Prop}
    (h : ∀ a, m r a → Q (.ok a) ([⟨r, a⟩].filter Exchange.isLoud)) :
    (Action.ask r).Tells m place Q := by
  intro told x hgoes hm
  cases hgoes with
  | ask a hdone =>
    obtain ⟨rfl, rfl⟩ := hdone.of_done
    exact h a (hm _ List.mem_cons_self)

/-- A quiet request is not told of. -/
theorem quiet {r : Request} {f : Request.Answer r → Action β} (hr : r.isQuiet = true)
    (h : ∀ a, m r a → (f a).Tells m place T) : (Action.ask r >>= f).Tells m place T := by
  refine next (ask fun a ha => ?_)
  have hnone : [(⟨r, a⟩ : Exchange)].filter Exchange.isLoud = [] := by
    simp [Exchange.isLoud, hr]
  rw [hnone]
  exact h a ha

theorem loud {r : Request} {f : Request.Answer r → Action β} (hr : r.isQuiet = false)
    (h : ∀ a, m r a → (f a).Tells m place fun x t => T x (⟨r, a⟩ :: t)) :
    (Action.ask r >>= f).Tells m place T := by
  refine next (ask fun a ha => ?_)
  have hself : [(⟨r, a⟩ : Exchange)].filter Exchange.isLoud = [⟨r, a⟩] := by
    simp [Exchange.isLoud, hr]
  rw [hself]
  exact h a ha

/-- A request whose answer is an outcome. -/
theorem answered {r : Request} {f : Request.Answer r → Except Failure α} (hr : r.isQuiet = false)
    (h : ∀ a, m r a → Q (f a) [⟨r, a⟩]) :
    (Action.ask r >>= fun a => Action.ofOutcome (f a)).Tells m place Q :=
  loud hr fun a ha => ofOutcome (h a ha)

/-- An action that succeeds and tells nothing does not count. -/
theorem silent {act : Action α} {x : α} {f : α → Action β}
    (hact : act.Tells m place fun r t => r = .ok x ∧ t = []) (h : (f x).Tells m place T) :
    (act >>= f).Tells m place T := by
  refine bind hact ?_ ?_
  · rintro _ t ⟨⟨⟩, rfl⟩
    exact h
  · rintro e t ⟨he, -⟩
    cases he

/-! ### The library's own ways to go on -/

theorem log {e : Log.Entry} {Q : Except Failure Unit → List Exchange → Prop} (h : Q (.ok ()) []) :
    (Action.log e).Tells m place Q :=
  ask fun _ _ => h

theorem logAll {es : List Log.Entry} {Q : Except Failure Unit → List Exchange → Prop}
    (h : Q (.ok ()) []) : (Action.logAll es).Tells m place Q := by
  induction es with
  | nil => exact pure h
  | cons e es ih => exact quiet rfl fun _ _ => ih

theorem raise {f : Failure} (h : Q (.error f) []) : (Action.raise f).Tells m place Q :=
  silent (logAll ⟨rfl, rfl⟩) (fail h)

theorem raising {r : Except Failure α} (h : Q r []) : (Action.raising r).Tells m place Q := by
  cases r with
  | ok x => exact pure h
  | error f => exact raise h

/-- What comes after an action comes after its failure too, and its own failure counts. -/
theorem ending {act : Action α} {later : Action Unit} (h : act.Tells m place R)
    (hlater : ∀ r t, R r t →
      later.Tells m place fun r' t' => Q (r' >>= fun _ => r) (t ++ t')) :
    (Action.ending act later).Tells m place Q := by
  refine outcome (h.mono ?_)
  intro r t hr
  refine bind (hlater r t hr) ?_ ?_
  · intro x t' hx
    refine ofOutcome ?_
    rwa [List.append_nil]
  · exact fun _ _ h' => h'

/-- A failure is dealt with unless handlers leave it alone. -/
theorem handling {act : Action α} {handler : Failure → Action α} (h : act.Tells m place R)
    (hok : ∀ x t, R (.ok x) t → Q (.ok x) t)
    (hpassed : ∀ f t, R (.error f) t → f.handled = false → Q (.error f) t)
    (hhandled : ∀ f t, R (.error f) t → f.handled = true →
      (handler f).Tells m place fun r t' => Q r (t ++ t')) :
    (Action.handling act handler).Tells m place Q := by
  refine outcome (h.mono ?_)
  intro r t hr
  cases r with
  | ok x =>
    refine pure ?_
    rw [List.append_nil]
    exact hok x t hr
  | error f =>
    cases hf : f.handled with
    | true => simpa [hf] using hhandled f t hr hf
    | false =>
      have hpass := hpassed f t hr hf
      rw [← List.append_nil t] at hpass
      simpa [hf] using fail hpass

theorem setAttributes {span : Nat} {attributes : List (String × Value)}
    {Q : Except Failure Unit → List Exchange → Prop} (h : Q (.ok ()) []) :
    (Tracing.setAttributes span attributes).Tells m place Q := by
  induction attributes with
  | nil => exact pure h
  | cons e es ih => exact quiet rfl fun _ _ => ih

/-- A traced operation tells what it tells without a span, at some place. -/
theorem traced {tracer name : String} {attributes : List (String × Value)} {act : Action α}
    (h : ∀ elsewhere, act.Tells m elsewhere Q) :
    ((Tracing.ofOperation tracer name attributes).run act).Tells m place Q := by
  have hnoted (span : Nat) (f : Failure) (elsewhere : Place) {told : List Exchange}
      (hf : Q (.error f) told) :
      (Tracing.noteFailure span f >>= fun _ => Action.fail f).Tells m elsewhere
        fun r t' => Q r (told ++ t') := by
    rw [← List.append_nil told] at hf
    unfold Tracing.noteFailure
    split
    · exact quiet rfl fun _ _ => fail hf
    · exact silent (pure ⟨rfl, rfl⟩) (fail hf)
  have hspan (span : Nat) (elsewhere : Place) :
      ((Tracing.ofOperation tracer name attributes).inSpan span act).Tells m elsewhere Q := by
    refine silent (pure ⟨rfl, rfl⟩) (silent (setAttributes ⟨rfl, rfl⟩) ?_)
    refine outcome ((h elsewhere).mono ?_)
    intro r told hr
    cases r with
    | ok x =>
      refine pure ?_
      rwa [List.append_nil]
    | error f => exact hnoted span f elsewhere hr
  refine here (quiet rfl fun span _ => ?_)
  refine ending (within (hspan span _)) fun r told hr => ask fun _ _ => ?_
  change Q r (told ++ [])
  rwa [List.append_nil]

/-- Two actions side by side tell what each tells, interleaved. -/
theorem both {schedule : List Bool} {a : Action α} {b : Action β}
    (ha : a.Tells m place Q) (hb : b.Tells m place T) :
    (Action.both schedule a b).Tells m place fun r t => ∃ x y ta tb first, Q x ta ∧ T y tb
      ∧ Interleaved ta tb t ∧ r = Action.joined x y first := by
  refine here (next ?_)
  intro told r hgoes hm
  obtain ⟨⟨x, y, first⟩, hsides, rfl⟩ := Program.Goes.of_map hgoes
  obtain ⟨t, t', htold, hx, hy⟩ := Program.goes_interleave hsides
  have hmem (e : Exchange) (he : e ∈ t ++ t') : m.Admits e := hm e (htold.perm.mem_iff.mpr he)
  simp only [TellsOn]
  refine ofOutcome ?_
  refine ⟨x, y, _, _, first, ha t x hx ?_, hb t' y hy ?_, ?_, rfl⟩
  · exact fun e he => hmem e (List.mem_append_left t' he)
  · exact fun e he => hmem e (List.mem_append_right t he)
  · rw [List.append_nil]
    exact htold.filter Exchange.isLoud

end Tells

/-! ## What runs tell, in scenes -/

/-- Where an action leaves handles alone, what its runs tell is true in a scene, with the handles
as the scene has them. -/
theorem Tells.always {act : Action α} {Q : Except Failure α → List Exchange → Prop} {s : Scene}
    (h : act.Tells (m.settledIn s) place Q)
    (hhandles : act.Tells .any place fun _ t => ∀ x ∈ t, x.request.isOnHandles = false) :
    act.Always m place (fun r s' => ∃ t, Q r t ∧ s' = s.tellAll t) s := by
  unfold Action.Always
  refine (Program.always_goes (act place) s).mono ?_
  rintro r s' ⟨told, hgoes, hfollow, rfl⟩
  have hnone : ∀ x ∈ told.filter Exchange.isLoud, x.request.isOnHandles = false :=
    hhandles told r hgoes fun _ _ => trivial
  obtain ⟨hadmitted, hend⟩ := hfollow.settledIn rfl hnone
  exact ⟨_, h told r hgoes hadmitted, hend⟩

/-- What is told was admitted. -/
theorem Tells.admitted {act : Action α} {Q : Except Failure α → List Exchange → Prop}
    (h : act.Tells m place Q) : act.Tells m place fun r t => Q r t ∧ ∀ x ∈ t, m.Admits x := by
  intro told r hgoes hm
  exact ⟨h told r hgoes hm, fun x hx => hm x (List.mem_of_mem_filter hx)⟩

-- what runs tell is only taken apart by the rules above
attribute [irreducible] Action.Tells

end Action

end SqlComposer
