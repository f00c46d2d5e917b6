import Mathlib.Algebra.Order.Ring.Rat
import SqlComposer.Proofs.Retrying

/-!
# How long the pauses are

The pauses between attempts are meant to follow a schedule: before an attempt, when so many have
been made since the first, the initial delay times the base to the power of their number, but never
more than the limit. The loop keeps a delay that it multiplies from one pause to the next and caps
each time it has done so. From the second pause on that is the schedule
(`RetryPolicy.delay_succ`). The first pause is the initial delay as it was given, which nothing
caps, so it follows the schedule exactly if it is within the limit.

The delays are numbers of exact arithmetic here; what a clock makes of them does not matter.
-/

set_option autoImplicit false

namespace SqlComposer

namespace RetryPolicy

variable (p : RetryPolicy ℚ)

/-- The pause that is meant when so many attempts have been made since the first. -/
def scheduled (k : ℕ) : ℚ := min (p.initialDelay * p.base ^ k) p.maxDelay

theorem nextDelay_eq (d : ℚ) : p.nextDelay d = min (d * p.base) p.maxDelay := by
  simp only [nextDelay]
  split_ifs with h
  · exact (min_eq_right (le_of_lt h)).symm
  · exact (min_eq_left (not_lt.mp h)).symm

/-- From the second pause on the delays follow the schedule. -/
theorem delay_succ (hmax : 0 ≤ p.maxDelay) (hbase : 1 ≤ p.base) (k : ℕ) :
    p.delay (k + 1) = p.scheduled (k + 1) := by
  induction k with
  | zero => simp [delay, scheduled, nextDelay_eq]
  | succ k ih =>
    have hstep : p.delay (k + 1 + 1) = p.nextDelay (p.delay (k + 1)) :=
      Function.iterate_succ_apply' p.nextDelay (k + 1) p.initialDelay
    have hlimit : p.maxDelay ≤ p.maxDelay * p.base := le_mul_of_one_le_right hmax hbase
    calc p.delay (k + 1 + 1)
        = min (min (p.initialDelay * p.base ^ (k + 1)) p.maxDelay * p.base) p.maxDelay := by
          rw [hstep, ih, nextDelay_eq, scheduled]
      _ = min (min (p.initialDelay * p.base ^ (k + 1) * p.base) (p.maxDelay * p.base))
            p.maxDelay := by
          rw [min_mul_of_nonneg _ _ (zero_le_one.trans hbase)]
      _ = p.scheduled (k + 1 + 1) := by
          rw [min_assoc, min_eq_right hlimit, mul_assoc, ← pow_succ, scheduled]

theorem scheduled_le (k : ℕ) : p.scheduled k ≤ p.maxDelay := min_le_right _ _

/-- The first delay follows the schedule exactly if it is within the limit. -/
theorem delay_zero_iff : p.delay 0 = p.scheduled 0 ↔ p.initialDelay ≤ p.maxDelay := by
  simp [delay, scheduled]

end RetryPolicy

/-- How long somebody slept. -/
def Exchange.slept? : Exchange → Option Float
  | ⟨.sleep seconds, _⟩ => some seconds
  | _ => none

/-- Sleeping is told of. -/
theorem slept_of_loud (told : List Exchange) :
    (told.filter Exchange.isLoud).filterMap Exchange.slept? = told.filterMap Exchange.slept? := by
  rw [List.filterMap_filter]
  refine List.filterMap_congr fun x _ => ?_
  obtain ⟨request, answer⟩ := x
  cases request <;> rfl

section Pauses

variable {δ : Type} [Mul δ] [LT δ] [DecidableLT δ] {seconds : δ → Float} {name : String}
  {p : RetryPolicy δ} {f : String} {argument : Value} {place : Place} {told : List Exchange}

/-- The outcomes that calls came to can be gone on with in some way. -/
theorem exists_comeInTurn (told : List Exchange) : ∃ outcomes, ComeInTurn outcomes told := by
  refine ⟨fun i => (told.filterMap Exchange.cameTo?)[i]?.getD (.ok .null), fun i r hr => ?_⟩
  exact (congrArg (Option.getD · (.ok .null)) hr).symm

/-- A run sleeps as long as the delays of the policy say, one after the other. -/
theorem slept_eq {r : Except Failure (Option Value)}
    (hgoes : (Action.retryingAtMost seconds name (.int p.maxRetries) p
      (Action.call f argument)).Goes place told r) :
    ∃ pauses, told.filterMap Exchange.slept?
      = (List.range pauses).map fun k => seconds (p.delay k) := by
  obtain ⟨x, rfl, hretried⟩ := (goes_retryingAtMost_iff ..).mp hgoes
  obtain ⟨outcomes, hturn⟩ := exists_comeInTurn told
  obtain ⟨pauses, -, -, -, -, htold⟩ := hretried.calls hturn
  refine ⟨pauses, ?_⟩
  rw [← slept_of_loud, htold, List.filterMap_append, List.filterMap_flatMap, List.map_eq_flatMap]
  exact List.append_nil _

end Pauses

/-- What is so of every delay but the first is so of all delays of a run exactly if there is none or
it is so of the first. -/
theorem forall_delays_iff {P : ℕ → Prop} {Q : Prop} (hfirst : P 0 ↔ Q) (hlater : ∀ k, P (k + 1))
    {slept : List Float} : (∀ k < slept.length, P k) ↔ slept = [] ∨ Q := by
  cases slept with
  | nil => simp
  | cons s rest =>
    constructor
    · intro h
      exact .inr (hfirst.mp (h 0 (Nat.succ_pos _)))
    · rintro (h | h) k -
      · cases h
      · cases k with
        | zero => exact hfirst.mpr h
        | succ k => exact hlater k

/-- A run of calls that are retried sleeps as long as the delays of the policy say. They follow the
schedule from the second one on, so all pauses follow it, and all are within the limit, exactly if
there is none or the initial delay is within the limit. -/
theorem pauses_follow_schedule_iff (seconds : ℚ → Float) (name : String) (p : RetryPolicy ℚ)
    (hmax : 0 ≤ p.maxDelay) (hbase : 1 ≤ p.base) (f : String) (argument : Value) (place : Place)
    (told : List Exchange) (r : Except Failure (Option Value))
    (hgoes : (Action.retryingAtMost seconds name (.int p.maxRetries) p
      (Action.call f argument)).Goes place told r) :
    let slept := told.filterMap Exchange.slept?
    slept = (List.range slept.length).map (fun k => seconds (p.delay k))
      ∧ (∀ k, 0 < k → p.delay k = p.scheduled k)
      ∧ ((∀ k < slept.length, p.delay k = p.scheduled k)
        ↔ slept = [] ∨ p.initialDelay ≤ p.maxDelay)
      ∧ ((∀ k < slept.length, p.delay k ≤ p.maxDelay)
        ↔ slept = [] ∨ p.initialDelay ≤ p.maxDelay) := by
  intro slept
  have hlater := p.delay_succ hmax hbase
  obtain ⟨pauses, hslept⟩ := slept_eq hgoes
  have hlength : slept.length = pauses := by
    rw [← List.length_range (n := pauses), ← List.length_map fun k => seconds (p.delay k), ← hslept]
  refine ⟨by rw [hlength]; exact hslept, ?_, ?_, ?_⟩
  · rintro (_ | k) hk
    · exact absurd hk (Nat.lt_irrefl 0)
    · exact hlater k
  · exact forall_delays_iff p.delay_zero_iff hlater
  · exact forall_delays_iff Iff.rfl fun k => (hlater k).trans_le (p.scheduled_le (k + 1))

/-- Two attempts at most, with five seconds before the second although two are the limit. -/
def slowStart : RetryPolicy ℚ := ⟨1, 5, 2, 2, fun _ => true⟩

/-- Whole seconds. -/
def flooredSeconds (d : ℚ) : Float := Float.ofInt d.floor

def brokeOff : Failure := .fault ⟨.operational, "lost connection"⟩

/-- A call that fails, a pause, and a call that succeeds. -/
def restartTold (p : RetryPolicy ℚ) : List Exchange :=
  [⟨.call "work" .null, .error brokeOff⟩]
    ++ (pauseTold flooredSeconds "work" 1 p.initialDelay brokeOff
      ++ [⟨.call "work" .null, .ok .null⟩])

theorem goes_restartTold {p : RetryPolicy ℚ} {left : ℕ} (hleft : p.maxRetries = left + 1)
    (hretries : p.retries brokeOff = true) :
    (Action.retryingAtMost flooredSeconds "work" (.int p.maxRetries) p
      (Action.call "work" .null)).Goes .top (restartTold p) (.ok (some .null)) := by
  refine (goes_retryingAtMost_iff ..).mpr ⟨.ok .null, rfl, ?_⟩
  rw [hleft]
  have haccepts : p.accepts brokeOff = true := Bool.and_eq_true_iff.mpr ⟨rfl, hretries⟩
  exact .again (Action.goes_call_iff.mpr rfl) haccepts
    (.settled (Action.goes_call_iff.mpr rfl) (.returned _))

theorem slowStart_slept :
    0 ≤ slowStart.maxDelay ∧ 1 ≤ slowStart.base
      ∧ (Action.retryingAtMost flooredSeconds "work" (.int slowStart.maxRetries) slowStart
        (Action.call "work" .null)).Goes .top (restartTold slowStart) (.ok (some .null))
      ∧ (restartTold slowStart).filterMap Exchange.slept? = [5.0]
      ∧ ¬∀ k < 1, slowStart.delay k = slowStart.scheduled k := by
  have hgoes := goes_restartTold (p := slowStart) rfl rfl
  obtain ⟨-, -, hfollows, -⟩ := pauses_follow_schedule_iff flooredSeconds "work" slowStart
    (by decide) (by decide) "work" .null .top _ _ hgoes
  refine ⟨by decide, by decide, hgoes, by decide, fun hall => ?_⟩
  obtain hslept | hinitial := hfollows.mp hall
  · cases hslept
  · revert hinitial
    decide

/-- The first pause is longer than the limit. -/
theorem slowStart_oversleeps :
    ¬∀ told r, (Action.retryingAtMost flooredSeconds "work" (.int slowStart.maxRetries) slowStart
        (Action.call "work" .null)).Goes .top told r →
      told.filterMap Exchange.slept? = (List.range (told.filterMap Exchange.slept?).length).map
        fun k => flooredSeconds (slowStart.scheduled k) := by
  intro h
  have hslept : [flooredSeconds 5] = [flooredSeconds (slowStart.scheduled 0)] :=
    h _ _ (goes_restartTold rfl rfl)
  have hscheduled : slowStart.scheduled 0 = 2 := by
    rw [RetryPolicy.scheduled, pow_zero, mul_one]
    exact min_eq_right (by decide)
  rw [hscheduled] at hslept
  revert hslept
  decide

end SqlComposer
