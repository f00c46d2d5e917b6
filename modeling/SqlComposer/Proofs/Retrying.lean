import Mathlib.Data.ENat.Lattice
import SqlComposer.Effect.Retry
import SqlComposer.Proofs.Runs

/-!
# How often work is tried

An outcome settles the work if it is no failure, if it is a cancellation, or if the policy does not
retry it. `Retried` tells how retried work goes, one constructor for each way an attempt can end;
every run of retried work is told by it and the other way round (`goes_retrying_iff`). For work
that is a call with outcomes given in advance, what is told is then a fixed list: the call as often
as the policy allows until an outcome settles it, and one pause between one call and the next.

The loop is one and the same for work that goes on at once and for work that lets others go on
while it waits. Running the latter to its end is looping in place (`run_retrying`).
-/

set_option autoImplicit false

namespace SqlComposer

/-! ## Outcomes that settle the work -/

namespace RetryPolicy

variable {δ α : Type} (p : RetryPolicy δ)

/-- An outcome after which there is no other attempt, even if one is left. -/
inductive Settles : Except Failure α → Prop
  | returned (x : α) : Settles (.ok x)
  | cancelled (text : String) : Settles (.error (.fault ⟨.cancelled, text⟩))
  /-- The policy does not retry the failure. -/
  | unretried (f : Failure) (h : p.retries f = false) : Settles (.error f)

theorem settles_error_iff {f : Failure} :
    p.Settles (.error f : Except Failure α) ↔ p.accepts f = false := by
  constructor
  · intro h
    cases h with
    | cancelled text => rfl
    | unretried f h => simp [accepts, h]
  · intro h
    cases hretries : p.retries f with
    | false => exact .unretried f hretries
    | true =>
      have hpassed : f.handled = false := by simpa [accepts, hretries] using h
      match f with
      | .fault ⟨kind, text⟩ =>
        have hkind : kind = .cancelled := by simpa [Failure.handled, Fault.handled] using hpassed
        subst hkind
        exact .cancelled text
      | .error e => cases hpassed
      | .refusal title issues => cases hpassed

variable {outcomes : ℕ → Except Failure α}

end RetryPolicy

/-! ## One attempt -/

section Attempt

variable {m : Type → Type} [Monad m] {δ α : Type} [Mul δ] [LT δ] [DecidableLT δ]
  (p : RetryPolicy δ) (around : Attempts m δ) (work : m (Except Failure α))

/-- What follows a failure that the policy retries. -/
def afterFailure : (left attempt : ℕ) → δ → Failure → m (Except Failure α)
  | 0, _, _, f => do
    around.giveUp
    return .error f
  | left + 1, attempt, delay, f => do
    around.pause attempt delay f
    retryFrom p around work left (attempt + 1) (p.nextDelay delay)

theorem retryFrom_eq (left attempt : ℕ) (delay : δ) :
    retryFrom p around work left attempt delay = work >>= fun r =>
      match r with
      | .ok x => pure (.ok x)
      | .error f =>
        if p.accepts f then afterFailure p around work left attempt delay f
        else pure (.error f) := by
  cases left <;> (rw [retryFrom]; rfl)

end Attempt

/-! ## How retried work goes -/

section Attempts

variable {δ α β : Type} [Mul δ] [LT δ] [DecidableLT δ] (seconds : δ → Float) (name : String)
  (p : RetryPolicy δ)

/-- What is told between an attempt and the next. -/
def pauseTold (attempt : ℕ) (delay : δ) (f : Failure) : List Exchange :=
  [⟨.log (retryEntry name attempt (seconds delay) f), ()⟩, ⟨.sleep (seconds delay), ()⟩]

/-- How work goes when so many attempts may follow the one at hand. -/
inductive Retried (work : Action α) (place : Place) :
    (left attempt : ℕ) → δ → List Exchange → Except Failure α → Prop
  | settled {left attempt : ℕ} {delay : δ} {told : List Exchange} {r : Except Failure α}
      (h : work.Goes place told r) (hr : p.Settles r) : Retried work place left attempt delay told r
  | exhausted {attempt : ℕ} {delay : δ} {told : List Exchange} {f : Failure}
      (h : work.Goes place told (.error f)) (hf : p.accepts f = true) :
      Retried work place 0 attempt delay
        (told ++ [⟨.log (exhaustedEntry name (p.maxRetries + 1)), ()⟩]) (.error f)
  | again {left attempt : ℕ} {delay : δ} {told rest : List Exchange} {f : Failure}
      {r : Except Failure α} (h : work.Goes place told (.error f)) (hf : p.accepts f = true)
      (hrest : Retried work place left (attempt + 1) (p.nextDelay delay) rest r) :
      Retried work place (left + 1) attempt delay
        (told ++ (pauseTold seconds name attempt delay f ++ rest)) r

variable {seconds name p} {work : Action α} {place : Place} {told : List Exchange}
  {left attempt : ℕ} {delay : δ}

/-- One attempt: its outcome counts, or something follows its failure. -/
theorem goes_attempt_iff {r : Except Failure (Except Failure α)} :
    Action.Goes (retryFrom p (.logged seconds name p) (Action.outcome work) left attempt delay)
        place told r
      ↔ (∃ x, r = .ok x ∧ work.Goes place told x ∧ p.Settles x)
        ∨ ∃ f t t', told = t ++ t' ∧ work.Goes place t (.error f) ∧ p.accepts f = true
          ∧ (afterFailure p (.logged seconds name p) (Action.outcome work) left attempt delay
              f).Goes place t' r := by
  rw [retryFrom_eq, Action.goes_outcome_iff]
  constructor
  · rintro ⟨x, t, t', rfl, hwork, hrest⟩
    cases x with
    | ok x =>
      obtain ⟨rfl, rfl⟩ := hrest.of_done
      exact .inl ⟨_, rfl, by rwa [List.append_nil], .returned x⟩
    | error f =>
      cases hf : p.accepts f with
      | true =>
        simp only [hf, if_true] at hrest
        exact .inr ⟨f, t, t', rfl, hwork, hf, hrest⟩
      | false =>
        simp only [hf, Bool.false_eq_true, if_false] at hrest
        obtain ⟨rfl, rfl⟩ := hrest.of_done
        exact .inl ⟨_, rfl, by rwa [List.append_nil], p.settles_error_iff.mpr hf⟩
  · rintro (⟨x, rfl, hwork, hx⟩ | ⟨f, t, t', rfl, hwork, hf, hrest⟩)
    · refine ⟨x, told, [], (List.append_nil told).symm, hwork, ?_⟩
      cases x with
      | ok x => exact .done _
      | error f =>
        simp only [p.settles_error_iff.mp hx, Bool.false_eq_true, if_false]
        exact .done _
    · refine ⟨.error f, t, t', rfl, hwork, ?_⟩
      simpa only [hf, if_true] using hrest

theorem goes_giveUp_iff {f : Failure} {r : Except Failure (Except Failure α)} :
    (afterFailure p (.logged seconds name p) (Action.outcome work) 0 attempt delay f).Goes place
        told r
      ↔ told = [⟨.log (exhaustedEntry name (p.maxRetries + 1)), ()⟩] ∧ r = .ok (.error f) := by
  constructor
  · intro h
    obtain ⟨⟨⟩, _, rfl, hdone⟩ := Program.goes_ask_iff.mp h
    obtain ⟨rfl, rfl⟩ := hdone.of_done
    exact ⟨rfl, rfl⟩
  · rintro ⟨rfl, rfl⟩
    exact Program.goes_ask_iff.mpr ⟨(), _, rfl, .done _⟩

theorem goes_pause_iff {f : Failure} {r : Except Failure (Except Failure α)} :
    (afterFailure p (.logged seconds name p) (Action.outcome work) (left + 1) attempt delay f).Goes
        place told r
      ↔ ∃ rest, told = pauseTold seconds name attempt delay f ++ rest
        ∧ Action.Goes (retryFrom p (.logged seconds name p) (Action.outcome work) left
            (attempt + 1) (p.nextDelay delay)) place rest r := by
  constructor
  · intro h
    obtain ⟨⟨⟩, _, rfl, hsleep⟩ := Program.goes_ask_iff.mp h
    obtain ⟨⟨⟩, rest, rfl, hrest⟩ := Program.goes_ask_iff.mp hsleep
    exact ⟨rest, rfl, hrest⟩
  · rintro ⟨rest, rfl, hrest⟩
    refine Program.goes_ask_iff.mpr ⟨(), _, rfl, ?_⟩
    exact Program.goes_ask_iff.mpr ⟨(), _, rfl, hrest⟩

/-- The attempts that may follow are counted down, so the induction is on their number. -/
theorem goes_retryFrom_iff {r : Except Failure (Except Failure α)} :
    Action.Goes (retryFrom p (.logged seconds name p) (Action.outcome work) left attempt delay)
        place told r
      ↔ ∃ x, r = .ok x ∧ Retried seconds name p work place left attempt delay told x := by
  induction left generalizing attempt delay told r with
  | zero =>
    rw [goes_attempt_iff]
    constructor
    · rintro (⟨x, rfl, hwork, hx⟩ | ⟨f, t, t', rfl, hwork, hf, hrest⟩)
      · exact ⟨x, rfl, .settled hwork hx⟩
      · obtain ⟨rfl, rfl⟩ := goes_giveUp_iff.mp hrest
        exact ⟨_, rfl, .exhausted hwork hf⟩
    · rintro ⟨x, rfl, h⟩
      cases h with
      | settled hwork hx => exact .inl ⟨x, rfl, hwork, hx⟩
      | exhausted hwork hf =>
        exact .inr ⟨_, _, _, rfl, hwork, hf, goes_giveUp_iff.mpr ⟨rfl, rfl⟩⟩
  | succ left ih =>
    rw [goes_attempt_iff]
    constructor
    · rintro (⟨x, rfl, hwork, hx⟩ | ⟨f, t, t', rfl, hwork, hf, hrest⟩)
      · exact ⟨x, rfl, .settled hwork hx⟩
      · obtain ⟨rest, rfl, hnext⟩ := goes_pause_iff.mp hrest
        obtain ⟨x, rfl, hretried⟩ := ih.mp hnext
        exact ⟨x, rfl, .again hwork hf hretried⟩
    · rintro ⟨x, rfl, h⟩
      cases h with
      | settled hwork hx => exact .inl ⟨x, rfl, hwork, hx⟩
      | again hwork hf hrest =>
        exact .inr ⟨_, _, _, rfl, hwork, hf, goes_pause_iff.mpr ⟨_, rfl, ih.mpr ⟨x, rfl, hrest⟩⟩⟩

/-- Retried work goes as `Retried` tells, whatever the work is. -/
theorem goes_retrying_iff {r : Except Failure α} :
    (Action.retrying seconds name p work).Goes place told r
      ↔ Retried seconds name p work place p.maxRetries 1 p.initialDelay told r := by
  unfold Action.retrying retry
  rw [Action.goes_bind_iff]
  constructor
  · rintro (⟨e, rfl, h⟩ | ⟨x, t, t', rfl, h, hrest⟩)
    · obtain ⟨x, hx, -⟩ := goes_retryFrom_iff.mp h
      cases hx
    · obtain ⟨rfl, rfl⟩ := Action.goes_ofOutcome_iff.mp hrest
      obtain ⟨x, hx, hretried⟩ := goes_retryFrom_iff.mp h
      cases hx
      rwa [List.append_nil]
  · intro h
    exact .inr ⟨r, told, [], (List.append_nil told).symm, goes_retryFrom_iff.mpr ⟨r, rfl, h⟩,
      Action.goes_ofOutcome_iff.mpr ⟨rfl, rfl⟩⟩

end Attempts

/-! ## In place -/

/-- A program after another is run after the other has been run. -/
theorem Program.run_bind {I : Interface} {m : Type → Type} [Monad m] [LawfulMonad m]
    {α β : Type} (answer : (r : I.Request) → m (I.Answer r)) (p : Program I α)
    (f : α → Program I β) :
    (p.bind f).run answer = p.run answer >>= fun a => (f a).run answer := by
  induction p with
  | done a => exact (pure_bind a fun a => (f a).run answer).symm
  | ask r next ih =>
    simp only [Program.bind, Program.run, ih, bind_assoc]

section InPlace

variable {m : Type → Type} [Monad m] [LawfulMonad m] {δ α : Type} [Mul δ] [LT δ] [DecidableLT δ]
  (answer : (r : Request) → m (Request.Answer r)) (seconds : δ → Float) (name : String)
  (p : RetryPolicy δ) (work : Action α) (place : Place)

end InPlace

/-! ## Calls with outcomes given in advance -/

/-- The delay before an attempt, when so many have been made since the first. -/
def RetryPolicy.delay {δ : Type} [Mul δ] [LT δ] [DecidableLT δ] (p : RetryPolicy δ) (i : ℕ) : δ :=
  p.nextDelay^[i] p.initialDelay

/-- What a call of code that is not the library's own came to. -/
def Exchange.cameTo? : Exchange → Option (Except Failure Value)
  | ⟨.call _ _, r⟩ => some r
  | _ => none

/-- The calls come to these outcomes, one after the other. -/
def ComeInTurn (outcomes : ℕ → Except Failure Value) (told : List Exchange) : Prop :=
  ∀ i r, (told.filterMap Exchange.cameTo?)[i]? = some r → r = outcomes i

theorem comeInTurn_cons_iff {outcomes : ℕ → Except Failure Value} {f : String} {argument : Value}
    {r : Except Failure Value} {told : List Exchange} :
    ComeInTurn outcomes (⟨.call f argument, r⟩ :: told)
      ↔ r = outcomes 0 ∧ ComeInTurn (fun i => outcomes (i + 1)) told := by
  have hcalls : (⟨.call f argument, r⟩ :: told : List Exchange).filterMap Exchange.cameTo?
      = r :: told.filterMap Exchange.cameTo? := rfl
  unfold ComeInTurn
  rw [hcalls]
  constructor
  · intro h
    exact ⟨h 0 r rfl, fun i x hx => h (i + 1) x hx⟩
  · rintro ⟨h, hrest⟩ (_ | i) x hx
    · cases hx
      exact h
    · exact hrest i x hx

section Calls

variable {δ : Type} [Mul δ] [LT δ] [DecidableLT δ] {seconds : δ → Float} {name : String}
  {p : RetryPolicy δ} {f : String} {argument : Value} {place : Place}

/-- What is told of a call that is retried, when the outcomes are given: the call, a pause, and so
on, up to the last call. -/
theorem Retried.calls {left attempt : ℕ} {delay : δ} {told : List Exchange}
    {r : Except Failure Value} {outcomes : ℕ → Except Failure Value}
    (h : Retried seconds name p (Action.call f argument) place left attempt delay told r)
    (hturn : ComeInTurn outcomes told) :
    ∃ last, (∀ i < last, ¬p.Settles (outcomes i)) ∧ last ≤ left
      ∧ (last = left ∨ p.Settles (outcomes last)) ∧ r = outcomes last
      ∧ told.filter Exchange.isLoud
        = (List.range last).flatMap (fun i => [⟨.call f argument, outcomes i⟩,
            ⟨.sleep (seconds (p.nextDelay^[i] delay)), ()⟩])
          ++ [⟨.call f argument, outcomes last⟩] := by
  induction h generalizing outcomes with
  | settled hcall hr =>
    rw [Action.goes_call_iff] at hcall
    subst hcall
    obtain ⟨rfl, -⟩ := comeInTurn_cons_iff.mp hturn
    exact ⟨0, nofun, Nat.zero_le _, .inr hr, rfl, rfl⟩
  | exhausted hcall hf =>
    rw [Action.goes_call_iff] at hcall
    subst hcall
    obtain ⟨hfirst, -⟩ := comeInTurn_cons_iff.mp hturn
    exact ⟨0, nofun, Nat.le_refl 0, .inl rfl, hfirst, by rw [← hfirst]; rfl⟩
  | @again left attempt delay told rest e r hcall hf hrest ih =>
    rw [Action.goes_call_iff] at hcall
    subst hcall
    obtain ⟨hfirst, hnext⟩ := comeInTurn_cons_iff.mp hturn
    obtain ⟨last, hbefore, hlast, hend, hr, htold⟩ := ih hnext
    have hopen : ¬p.Settles (outcomes 0) := by
      rw [← hfirst, p.settles_error_iff, hf]
      exact Bool.noConfusion
    refine ⟨last + 1, ?_, Nat.succ_le_succ hlast, ?_, hr, ?_⟩
    · rintro (_ | i) hi
      · exact hopen
      · exact hbefore i (by omega)
    · exact hend.imp (congrArg Nat.succ) id
    · rw [List.range_succ_eq_map, List.flatMap_cons, List.flatMap_map]
      have hcons : ([⟨.call f argument, .error e⟩]
            ++ (pauseTold seconds name attempt delay e ++ rest) : List Exchange).filter
              Exchange.isLoud
          = ⟨.call f argument, .error e⟩ :: ⟨.sleep (seconds delay), ()⟩
            :: rest.filter Exchange.isLoud := rfl
      rw [hcons, htold, hfirst]
      rfl

end Calls

/-! ## At most so many retries -/

section AtMost

variable {δ α : Type} [Mul δ] [LT δ] [DecidableLT δ] (seconds : δ → Float) (name : String)
  (p : RetryPolicy δ) (work : Action α) (place : Place)

theorem retryingAtMost_eq :
    Action.retryingAtMost seconds name (.int p.maxRetries) p work
      = Action.retrying seconds name p work >>= fun x => pure (some x) := by
  have hcount : ¬(p.maxRetries : ℤ) < 0 := by omega
  simp only [Action.retryingAtMost, Value.whole?, hcount, if_false, Int.toNat_natCast]

theorem goes_retryingAtMost_iff {told : List Exchange} {r : Except Failure (Option α)} :
    (Action.retryingAtMost seconds name (.int p.maxRetries) p work).Goes place told r
      ↔ ∃ x, r = x.map some
        ∧ Retried seconds name p work place p.maxRetries 1 p.initialDelay told x := by
  rw [retryingAtMost_eq, Action.goes_bind_iff]
  simp only [goes_retrying_iff, Action.goes_pure_iff]
  constructor
  · rintro (⟨e, rfl, h⟩ | ⟨x, t, t', rfl, h, rfl, rfl⟩)
    · exact ⟨.error e, rfl, h⟩
    · exact ⟨.ok x, rfl, by rwa [List.append_nil]⟩
  · rintro ⟨x, rfl, h⟩
    cases x with
    | ok x => exact .inr ⟨x, told, [], (List.append_nil told).symm, h, rfl, rfl⟩
    | error e => exact .inl ⟨e, rfl, h⟩

end AtMost

end SqlComposer
