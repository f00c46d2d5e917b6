import SqlComposer.Proofs.Retrying
import SqlComposer.Proofs.Statements

/-!
# What a statement that only reads does to the database

A statement that only reads is executed on a connection of its own, which is given back whatever
happens, and no transaction is begun for it: `AttemptStory` lists what one such attempt can tell.
An attempt that ends because the database broke off is followed by another, after a pause and on
another connection, twice at most. `ReadStory` follows the attempts to the last one, whose outcome
counts.
-/

set_option autoImplicit false

namespace SqlComposer

section Stories

variable (lack : Failure → Prop) (sql : String) (values : Value)

/-- One attempt to read, on a connection that is given back. -/
inductive AttemptStory : Except Failure QueryResult → List Exchange → Prop
  | unconnected (f : Failure) (told : List Exchange) (h : ConnectStory lack (.error f) told) :
      AttemptStory (.error f) told
  | lent (c : Connection) (x : Except Failure QueryResult) (told : List Exchange)
      (h : ExecutionStory sql values c x told) (b : Except Fault Unit) :
      AttemptStory (b.mapError .fault >>= fun _ => x)
        (⟨.connect, .ok c⟩ :: (told ++ [⟨.close c, b⟩]))

/-- Reading when so many attempts may follow the first. -/
inductive ReadStory : (left : Nat) → Except Failure QueryResult → List Exchange → Prop
  | last {left : Nat} {r : Except Failure QueryResult} {told : List Exchange}
      (h : AttemptStory lack sql values r told) : ReadStory left r told
  /-- The database broke off, and there was another attempt. -/
  | again {left : Nat} {r : Except Failure QueryResult} {told rest : List Exchange} (f : Fault)
      (h : AttemptStory lack sql values (.error (.fault f)) told) (hkind : f.kind = .operational)
      (delay : Float) (hrest : ReadStory left r rest) :
      ReadStory (left + 1) r (told ++ ⟨.sleep delay, ()⟩ :: rest)

end Stories

section Driving

variable {lack : Failure → Prop} {sql : String} {values : Value} {left : Nat}
  {r : Except Failure QueryResult} {told : List Exchange}

/-- An attempt to read only asks the database. -/
theorem AttemptStory.isDriving (h : AttemptStory lack sql values r told) :
    ∀ x ∈ told, x.request.isDriving = true := by
  cases h with
  | unconnected f told h => exact h.isDriving
  | lent c x told h b =>
    refine List.forall_mem_cons.mpr ⟨rfl, List.forall_mem_append.mpr ⟨h.isDriving, ?_⟩⟩
    simp [Request.isDriving]

/-- So do all attempts, apart from the pauses. -/
theorem ReadStory.isDriving (h : ReadStory lack sql values left r told) :
    ∀ x ∈ told, x.request.isDriving = true := by
  induction h with
  | last h => exact h.isDriving
  | again f h hkind delay hrest ih =>
    exact List.forall_mem_append.mpr ⟨h.isDriving, List.forall_mem_cons.mpr ⟨rfl, ih⟩⟩

end Driving

/-- Only a fault of the operational kind leads to another attempt to read. -/
theorem readPolicy_accepts {f : Failure} (h : Pool.readPolicy.accepts f = true) :
    ∃ g, f = .fault g ∧ g.kind = .operational := by
  have hclass : FailureClass.has (.kind .operational) f = true := by
    simpa [Pool.readPolicy, retriesOn] using (Bool.and_eq_true_iff.mp h).2
  cases f with
  | error e => cases hclass
  | refusal title issues => cases hclass
  | fault g =>
    exact ⟨g, rfl, by simpa [FailureClass.has, FaultKind.isA, FaultKind.special] using hclass⟩

namespace Action.Tells

variable {m : Manner} {place : Place}

/-- One attempt to read is told by its story. -/
theorem readOnce (settings : DatabaseSettings) (sql : String) (values : Value) :
    (Pool.readOnce settings sql values).Tells m place
      (AttemptStory (Pool.Missing m settings) sql values) := by
  unfold Pool.readOnce Pool.executeAlone
  refine logged (bind (connectPool settings) ?_ ?_)
  · intro c t hc
    cases hc
    refine ending (executeOn c sql values) fun r told hr => ?_
    exact answered rfl fun b _ => .lent c r told hr b
  · exact fun f t hf => .unconnected f t hf

/-- Attempts to read that are retried are told by a story with as many attempts left. -/
theorem readRetried {settings : DatabaseSettings} {sql : String} {values : Value}
    {left attempt : Nat} {delay : Float} {told : List Exchange} {r : Except Failure QueryResult}
    (h : Retried id "_read" Pool.readPolicy (Pool.readOnce settings sql values) place left attempt
      delay told r) (hm : ∀ x ∈ told, m.Admits x) :
    ReadStory (Pool.Missing m settings) sql values left r (told.filter Exchange.isLoud) := by
  have hattempt : (Pool.readOnce settings sql values).Tells m place
      (AttemptStory (Pool.Missing m settings) sql values) := readOnce settings sql values
  induction h with
  | settled h hr => exact .last (hattempt.goes h hm)
  | exhausted h hf =>
    rw [List.forall_mem_append] at hm
    rw [List.filter_append]
    exact .last (by simpa [Exchange.isLoud, Request.isQuiet] using hattempt.goes h hm.1)
  | again h hf hrest ih =>
    rw [List.forall_mem_append, List.forall_mem_append] at hm
    obtain ⟨g, rfl, hkind⟩ := readPolicy_accepts hf
    rw [List.filter_append, List.filter_append]
    exact .again g (hattempt.goes h hm.1) hkind _ (ih hm.2.2)

/-- A statement that only reads is tried three times at most. -/
theorem queryReading (e : Engine) {sql : String} (values : Value)
    (hsql : Sql.isRead sql = true) :
    (e.query sql values).Tells m place
      (ReadStory (Pool.Missing m e.settings) sql values 2) := by
  unfold Engine.query
  refine traced fun elsewhere => ?_
  rw [hsql]
  exact ofGoes fun _ _ hgoes hm => readRetried (goes_retrying_iff.mp hgoes) hm

end Action.Tells

end SqlComposer
