import SqlComposer.Database.WithTransaction
import SqlComposer.Proofs.Handles

/-!
# What is left of work within a transaction

Work on a handle is any program of calls (`Work`): it may commit, roll back or begin again, and
it may fail at any point. Whatever state it leaves the handle in, what follows it (`Concluded`)
leaves the handle idle with all of its connections given back, and the failure of the work is not
lost to a failure of rolling back.
-/

set_option autoImplicit false

namespace SqlComposer

/-! ## Work on a handle -/

/-- Whether a request has no part in connections and handles. -/
def Request.isDetached : Request → Bool
  | .sleep _ | .reportQuery .. | .reportError .. | .call .. => true
  | r => r.isQuiet

/-- Work on a handle: calls at some places and detached requests, each of which may depend on what
came of those before it. -/
inductive Work (α : Type) where
  | done (r : Except Failure α)
  | call (place : Place) (c : HandleCall) (next : Except Failure c.Result → Work α)
  | ask (r : Request) (hr : r.isDetached = true) (next : Request.Answer r → Work α)

/-- Does the work on a handle. -/
def Work.act {α : Type} (settings : DatabaseSettings) : Work α → Handle → Action α
  | .done r, _ => Action.ofOutcome r
  | .call place c next, h => do
    let r ← Action.outcome (Action.within place (c.act settings h))
    (next r).act settings h
  | .ask r _ next, h => do (next (← Action.ask r)).act settings h

theorem Scene.Balanced.detached {s : Scene} {h : Handle} (hs : s.Balanced h) {r : Request}
    (hr : r.isDetached = true) (a : Request.Answer r) : (s.after r a).Balanced h := by
  have htold (x : Exchange) (hneutral : x.checkedOut? = none ∧ x.closed? = none
      ∧ x.begun? = none ∧ x.ended? = none) : (s.tell x).Balanced h := by
    obtain ⟨hcheckedOut, hclosed, hbegun, hended⟩ := hneutral
    refine ⟨hs.paired, ?_, ?_⟩
    · simpa [hcheckedOut, hclosed] using hs.connections
    · simpa [hbegun, hended] using hs.transactions
  cases r with
  | sleep | reportQuery | reportError | call => exact htold _ ⟨rfl, rfl, rfl, rfl⟩
  | newHandle | setHandleState | connect | begin | execute | commit | rollback | close | dispose =>
    exact nomatch hr
  | _ => exact hs

/-- Work keeps the account, whatever it does. -/
theorem Work.always_act {α : Type} {m : Manner} {place : Place} (settings : DatabaseSettings)
    (h : Handle) (work : Work α) {s : Scene} (hs : s.Balanced h) :
    (work.act settings h).Always m place (fun _ s' => s'.Balanced h) s := by
  induction work generalizing s with
  | done r => exact Action.Always.ofOutcome hs
  | call elsewhere c next ih =>
    refine Action.Always.outcome ?_
    refine Action.Always.within ((c.always_act settings elsewhere hs).mono ?_)
    intro r s' hr
    exact ih r hr.1
  | ask r hr next ih =>
    refine Action.Always.next (Action.Always.ask fun a _ => ?_)
    exact ih _ (hs.detached hr _)

/-! ## What follows the work -/

/-- Surroundings in which rolling back and giving a connection back are not cancelled, and in which
the query log takes what it is told. -/
def Manner.forgiving : Manner
  | .rollback _, .error f => f.handled = true
  | .close _, .error f => f.handled = true
  | .reportQuery .., a => a = .ok ()
  | .reportError .., a => a = .ok ()
  | _, _ => True

namespace Database

/-- What follows work within a transaction, by the outcome of the work. -/
def conclude {α : Type} (h : Handle) : Except Failure α → Action α
  | .error f => do
    rollbackQuietly h f
    Action.fail f
  | .ok x => do
    if ← h.isActive then h.commit
    return x

theorem withTransaction_eq {α : Type} (db : Database) (work : Handle → Action α) :
    db.withTransaction work = (do
      let h ← Action.ask .newHandle
      h.begin db.settings
      let r ← Action.outcome (work h)
      conclude h r) := rfl

end Database

/-- What can follow work, by its outcome: the outcome of it all, and the scene at the end. -/
inductive Concluded {α : Type} (h : Handle) (s : Scene) :
    Except Failure α → Except Failure α → Scene → Prop
  /-- The work had ended the transaction itself. -/
  | ended (r : Except Failure α) (hidle : (s.handles h).isActive = false) : Concluded h s r r s
  | committed (x : α) (c : Connection) (t : OpenTransaction) (start : Option Float)
      (hheld : s.handles h = ⟨some c, some t, start⟩) (a b : Except Fault Unit) :
      Concluded h s (.ok x)
        (b.mapError .fault >>= fun _ => a.mapError .fault >>= fun _ => .ok x)
        (((s.tell ⟨.commit t, a⟩).hold h .idle).tell ⟨.close c, b⟩)
  | rolledBack (f : Failure) (c : Connection) (t : OpenTransaction) (start : Option Float)
      (hheld : s.handles h = ⟨some c, some t, start⟩) :
      Concluded h s (.error f) (.error f)
        (((s.tell ⟨.rollback t, .ok ()⟩).hold h .idle).tell ⟨.close c, .ok ()⟩)
  /-- Rolling back failed, which was reported. -/
  | reported (f : Failure) (c : Connection) (t : OpenTransaction) (start : Option Float)
      (hheld : s.handles h = ⟨some c, some t, start⟩) (a b : Except Fault Unit) (g : Failure)
      (hg : (b.mapError Failure.fault >>= fun _ => a.mapError .fault) = .error g) :
      Concluded h s (.error f) (.error f)
        ((((s.tell ⟨.rollback t, a⟩).hold h .idle).tell ⟨.close c, b⟩).tell
          ⟨.reportError "ROLLBACK" g (.list []), .ok ()⟩)

section Conclusion

variable {α : Type} {place : Place} {h : Handle} {s : Scene}

/-- A failure of rolling back is dealt with, as neither step of it is cancelled. -/
theorem handled_of_forgiving {t : OpenTransaction} {c : Connection} {a b : Except Fault Unit}
    (ha : Manner.forgiving.Admits ⟨.rollback t, a⟩) (hb : Manner.forgiving.Admits ⟨.close c, b⟩)
    {g : Failure} (hg : (b.mapError Failure.fault >>= fun _ => a.mapError .fault) = .error g) :
    g.handled = true := by
  cases b with
  | error f =>
    cases hg
    exact hb
  | ok _ =>
    cases a with
    | error f =>
      cases hg
      exact ha
    | ok _ => cases hg

theorem Database.always_conclude (r : Except Failure α) :
    (conclude h r).Always .forgiving place (Concluded h s r) s := by
  open Action.Always in
  cases r with
  | error f =>
    refine next (isActive ?_)
    cases hactive : (s.handles h).isActive with
    | false => exact pure (fail (.ended _ hactive))
    | true =>
      refine handling (finishHandle .rollback) ?_ ?_ ?_
      · intro x s' hr
        obtain ⟨c, t, start, a, b, hheld, -, -, hx, rfl⟩ := hr.held hactive
        cases b with
        | error g => cases hx
        | ok _ =>
          cases a with
          | error g => cases hx
          | ok _ => exact fail (.rolledBack f c t start hheld)
      · intro g s' hr hpassed
        obtain ⟨c, t, start, a, b, hheld, ha, hb, hg, rfl⟩ := hr.held hactive
        have hhandled : g.handled = true := handled_of_forgiving ha hb hg.symm
        rw [hhandled] at hpassed
        cases hpassed
      · intro g s' hr _
        obtain ⟨c, t, start, a, b, hheld, ha, hb, hg, rfl⟩ := hr.held hactive
        refine next (log (reportError ?_))
        rintro _ rfl
        exact fail (.reported f c t start hheld a b g hg.symm)
  | ok x =>
    refine isActive ?_
    cases hactive : (s.handles h).isActive with
    | false => exact pure (.ended _ hactive)
    | true =>
      refine next ((finishHandle .commit).mono ?_)
      intro r s' hr
      obtain ⟨c, t, start, a, b, hheld, -, -, rfl, rfl⟩ := hr.held hactive
      have hdone := Concluded.committed x c t start hheld a b
      cases b with
      | error g => exact hdone
      | ok _ =>
        cases a with
        | error g => exact hdone
        | ok _ => exact pure hdone

/-- What follows work keeps the account and leaves the handle idle. -/
theorem Concluded.balanced {r r' : Except Failure α} {s' : Scene}
    (hr : Concluded h s r r' s') (hs : s.Balanced h) :
    s'.Balanced h ∧ (s'.handles h).isActive = false := by
  cases hr with
  | ended r hidle => exact ⟨hs, hidle⟩
  | committed x c t start hheld a b =>
    have hfinished : Finished .any h s .commit _ _ := .ended c t start hheld a b trivial trivial
    exact ⟨hs.finish hfinished, by simp [HandleState.isActive, HandleState.idle]⟩
  | rolledBack f c t start hheld =>
    have hfinished : Finished .any h s .rollback _ _ :=
      .ended c t start hheld (.ok ()) (.ok ()) trivial trivial
    exact ⟨hs.finish hfinished, by simp [HandleState.isActive, HandleState.idle]⟩
  | reported f c t start hheld a b g hg =>
    have hfinished : Finished .any h s .rollback _ _ :=
      .ended c t start hheld a b trivial trivial
    refine ⟨(hs.finish hfinished).detached (r := .reportError "ROLLBACK" g (.list [])) rfl (.ok ()),
      by simp [HandleState.isActive, HandleState.idle]⟩

/-- What is asked for when a transaction is rolled back and its connection given back. A failure of
either is reported. -/
def rollbackStory (c : Connection) (t : OpenTransaction) (a b : Except Fault Unit) :
    List Exchange :=
  [⟨.rollback t, a⟩, ⟨.close c, b⟩] ++
    match b.mapError Failure.fault >>= fun _ => a.mapError Failure.fault with
    | .ok _ => []
    | .error g => [⟨.reportError "ROLLBACK" g (.list []), .ok ()⟩]

/-- The failure of work is the outcome, whether the transaction is rolled back or not. -/
theorem Concluded.of_error {f : Failure} {r : Except Failure α} {s' : Scene}
    (hr : Concluded h s (.error f) r s') :
    r = .error f ∧ ((s.handles h).isActive = false → s'.story = s.story)
      ∧ ((s.handles h).isActive = true → ∃ c t a b, (s.handles h).connection = some c
        ∧ (s.handles h).begun = some t ∧ s'.story = s.story ++ rollbackStory c t a b) := by
  cases hr with
  | ended _ hidle =>
    refine ⟨rfl, fun _ => rfl, fun hactive => ?_⟩
    rw [hidle] at hactive
    cases hactive
  | rolledBack _ c t start hheld =>
    rw [hheld]
    refine ⟨rfl, nofun, fun _ => ⟨c, t, .ok (), .ok (), rfl, rfl, ?_⟩⟩
    simp [rollbackStory, Except.mapError, bind, Except.bind]
  | reported _ c t start hheld a b g hg =>
    rw [hheld]
    refine ⟨rfl, nofun, fun _ => ⟨c, t, a, b, rfl, rfl, ?_⟩⟩
    simp [rollbackStory, hg]

/-- The result of work is the outcome if the transaction is committed or has been ended before. -/
theorem Concluded.of_ok {x : α} {r : Except Failure α} {s' : Scene}
    (hr : Concluded h s (.ok x) r s') :
    ((s.handles h).isActive = false → r = .ok x ∧ s'.story = s.story)
      ∧ ((s.handles h).isActive = true → ∃ c t a b, (s.handles h).connection = some c
        ∧ (s.handles h).begun = some t
        ∧ s'.story = s.story ++ [⟨.commit t, a⟩, ⟨.close c, b⟩]
        ∧ (r = .ok x ↔ a = .ok () ∧ b = .ok ())) := by
  cases hr with
  | ended _ hidle =>
    refine ⟨fun _ => ⟨rfl, rfl⟩, fun hactive => ?_⟩
    rw [hidle] at hactive
    cases hactive
  | committed _ c t start hheld a b =>
    rw [hheld]
    refine ⟨nofun, fun _ => ⟨c, t, a, b, rfl, rfl, by simp, ?_⟩⟩
    cases a <;> cases b <;> simp [Except.mapError, bind, Except.bind]

end Conclusion

/-! ## Whole transactions -/

section Whole

variable {σ α : Type} {env : Surroundings σ} (db : Database) (work : Work α) {place : Place}
  {s : Scene} {w : σ}

/-- A handle that is new in a scene without a past has an even account. -/
theorem Scene.balanced_withHandle (hs : s.story = []) :
    s.withHandle.Balanced ⟨s.handleCount⟩ := by
  have hhandles : s.withHandle.handles ⟨s.handleCount⟩ = .idle := Function.update_self ..
  have hstory : s.withHandle.story = [] := hs
  refine .of_idle ?_ ?_ ?_
  · simp [checkedOut, closed, hstory]
  · simp [begun, ended, hstory]
  · rw [hhandles]
    exact ⟨rfl, rfl⟩

theorem Scene.numbered_of_nil (hs : s.story = []) : s.Numbered := by
  refine ⟨?_, ?_⟩
  · simp [checkedOut, hs]
  · simp [begun, hs]

theorem balanced_opened (hs : s.story = []) :
    (env.perform place (do let h ← Action.ask .newHandle; h.begin db.settings)
      (s, w)).2.1.Balanced ⟨s.handleCount⟩ := by
  have hbegin : (do let h ← Action.ask .newHandle; h.begin db.settings : Action Unit).Always .any
      place (fun _ s' => s'.Balanced ⟨s.handleCount⟩) s := by
    refine Action.Always.next (Action.Always.ask fun _ _ => ?_)
    refine (Action.Always.beginHandle db.settings).mono ?_
    intro r s' hr
    exact (Scene.balanced_withHandle hs).begin hr
  exact Action.always_perform env.keeps_any hbegin w

/-- Once the transaction is begun, the work is done and then concluded. -/
theorem perform_withTransaction
    (hopened : (env.perform place (do let h ← Action.ask .newHandle; h.begin db.settings)
      (s, w)).1 = .ok ()) :
    env.perform place (db.withTransaction (work.act db.settings)) (s, w) =
      let h : Handle := ⟨s.handleCount⟩
      let opened := env.perform place (do let h ← Action.ask .newHandle; h.begin db.settings) (s, w)
      let worked := env.perform place (work.act db.settings h) opened.2
      env.perform place (Database.conclude h worked.1) worked.2 := by
  have hhandle : env.perform place (Action.ask .newHandle) (s, w)
      = (.ok (⟨s.handleCount⟩ : Handle), (s.withHandle, (env .newHandle w).2)) :=
    Action.perform_ask env .newHandle (s, w)
  rw [Action.perform_bind, hhandle] at hopened
  rw [Database.withTransaction_eq, Action.perform_bind, hhandle, Action.perform_bind, hhandle]
  simp only
  rw [Action.perform_of_ok env _ hopened, Action.perform_outcome]

/-- Once a transaction is begun, whatever the work does on its handle, in forgiving surroundings:
in the end the handle is idle, and each connection that was checked out was given back once. If
the work fails, its failure is the outcome; the transaction is rolled back if it is still under
way, and a failure of that is reported once. If the work succeeds, the transaction is committed if
it is still under way, and the result is the outcome exactly if that succeeds. -/
theorem withTransaction_concludes (henv : env.Keeps .forgiving) (place : Place)
    (hs : s.story = []) (w : σ) :
    let h : Handle := ⟨s.handleCount⟩
    let opened := env.perform place (do let h ← Action.ask .newHandle; h.begin db.settings) (s, w)
    let worked := env.perform place (work.act db.settings h) opened.2
    let final := env.perform place (db.withTransaction (work.act db.settings)) (s, w)
    let active := (worked.2.1.handles h).isActive
    opened.1 = .ok () →
      ((final.2.1.handles h).isActive = false
        ∧ final.2.1.closed = final.2.1.checkedOut ∧ final.2.1.closed.Nodup)
      ∧ (∀ f, worked.1 = .error f → final.1 = .error f
        ∧ (active = false → final.2.1.story = worked.2.1.story)
        ∧ (active = true → ∃ c t a b, (worked.2.1.handles h).connection = some c
          ∧ (worked.2.1.handles h).begun = some t
          ∧ final.2.1.story = worked.2.1.story ++ rollbackStory c t a b))
      ∧ ∀ x, worked.1 = .ok x →
        (active = false → final.1 = .ok x ∧ final.2.1.story = worked.2.1.story)
        ∧ (active = true → ∃ c t a b, (worked.2.1.handles h).connection = some c
          ∧ (worked.2.1.handles h).begun = some t
          ∧ final.2.1.story = worked.2.1.story ++ [⟨.commit t, a⟩, ⟨.close c, b⟩]
          ∧ (final.1 = .ok x ↔ a = .ok () ∧ b = .ok ())) := by
  intro h opened worked final active hopened
  have hopenedBalanced : opened.2.1.Balanced h := balanced_opened db hs
  have hbalanced : worked.2.1.Balanced h :=
    Action.always_perform henv (work.always_act db.settings h hopenedBalanced) opened.2.2
  have hnumbered : final.2.1.Numbered :=
    env.numbered_run _ (s, w) (Scene.numbered_of_nil hs)
  -- the work may leave the handle in any state, of which the conclusion knows only the account
  have hconcluded : Concluded h worked.2.1 worked.1 final.1 final.2.1 := by
    have hfinal : final = env.perform place (Database.conclude h worked.1) worked.2 :=
      perform_withTransaction db work hopened
    rw [hfinal]
    exact Action.always_perform henv (Database.always_conclude worked.1) worked.2.2
  obtain ⟨hend, hidle⟩ := hconcluded.balanced hbalanced
  obtain ⟨hconnections, -⟩ := hend.settled hidle
  refine ⟨⟨hidle, hconnections.symm, ?_⟩, ?_, ?_⟩
  · rw [← hconnections]
    exact hnumbered.nodup.1
  · intro f hf
    rw [hf] at hconcluded
    exact hconcluded.of_error
  · intro x hx
    rw [hx] at hconcluded
    exact hconcluded.of_ok

end Whole

/-- Surroundings in which nothing can be rolled back. -/
def stubborn : Surroundings Unit := fun r w =>
  match r with
  | .rollback _ => (.error ⟨.operational, "gone away"⟩, w)
  | r => Surroundings.obliging r w

/-- Work that commits the transaction, begins another and then gives up. -/
def restarting : Work Unit :=
  .call .top .commit fun _ => .call .top .begin fun _ => .done (.error (.fault ⟨.runtime, "no"⟩))

/-- The second transaction is rolled back when the work gives up, which fails and is reported. Both
connections are given back. -/
theorem restarting_reported :
    let db : Database :=
      ⟨Engine.careful ⟨none, none, none, none, 3306, "", 1, 0, 30, 3600⟩, some false⟩
    let h : Handle := ⟨Scene.start.handleCount⟩
    let opened := stubborn.perform .top
      (do let h ← Action.ask .newHandle; h.begin db.settings) (.start, ())
    let worked := stubborn.perform .top (restarting.act db.settings h) opened.2
    let final := stubborn.perform .top (db.withTransaction (restarting.act db.settings)) (.start, ())
    stubborn.Keeps .forgiving ∧ Scene.start.story = [] ∧ opened.1 = .ok ()
      ∧ (worked.2.1.handles h).connection = some ⟨1⟩
      ∧ (∃ f, worked.1 = .error f ∧ final.1 = .error f)
      ∧ final.2.1.closed = final.2.1.checkedOut ∧ final.2.1.closed.length = 2
      ∧ ∃ c t a b, final.2.1.story = worked.2.1.story ++ rollbackStory c t a b := by
  intro db h opened worked final
  have hkeeps : stubborn.Keeps .forgiving := by
    intro r w
    cases r <;> trivial
  have hopened : opened.1 = .ok () := by
    have hok : opened.1.isOk = true := by decide +kernel
    cases hr : opened.1 with
    | ok x => rfl
    | error f =>
      rw [hr] at hok
      cases hok
  obtain ⟨f, hf⟩ : ∃ f, worked.1 = .error f := by
    have hok : worked.1.isOk = false := by decide +kernel
    cases hr : worked.1 with
    | ok x =>
      rw [hr] at hok
      cases hok
    | error f => exact ⟨f, rfl⟩
  obtain ⟨⟨-, hclosed, -⟩, hfailed, -⟩ :=
    withTransaction_concludes db restarting hkeeps .top (s := .start) rfl () hopened
  obtain ⟨hfinal, -, hactive⟩ := hfailed f hf
  have hheld : (worked.2.1.handles h).connection = some ⟨1⟩ := by decide +kernel
  have hlength : final.2.1.closed.length = 2 := by decide +kernel
  obtain ⟨c, t, a, b, -, -, hstory⟩ := hactive (by decide +kernel)
  exact ⟨hkeeps, rfl, hopened, hheld, ⟨f, hf, hfinal⟩, hclosed, hlength, c, t, a, b, hstory⟩

end SqlComposer
