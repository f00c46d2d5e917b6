import SqlComposer.Proofs.Composition
import SqlComposer.Proofs.Conditions

/-!
# Conditions that are listed

The conditions that a caller lists are written one after the other with `AND` between them and
without parentheses. `Condition.joinedAll` is what a database then reads: a condition with `OR`
at its top gives its last alternative to the condition after it and its first to the one before.

So what is written is always implied by what is listed, and it means the same if no listed
condition has `OR` at its top, or if only one is listed. Otherwise it can hold where a listed
condition fails, and it does so for some assignment if no atom occurs twice.
-/

set_option autoImplicit false

namespace SqlComposer.Sql

/-! ## Truth -/

/-- Which atoms are true. -/
abbrev Assignment := List Lexeme → Bool

namespace Condition

/-- Whether a condition is true. -/
def holds (v : Assignment) : Condition → Bool
  | .atom text => v text
  | .not c => !holds v c
  | .and c d => holds v c && holds v d
  | .or c d => holds v c || holds v d
  | .group c => holds v c

/-- The atoms of a condition, from left to right. -/
def atoms : Condition → List (List Lexeme)
  | .atom text => [text]
  | .not c => atoms c
  | .and c d => atoms c ++ atoms d
  | .or c d => atoms c ++ atoms d
  | .group c => atoms c

/-- Whether a condition has `OR` at its top, outside parentheses. -/
def isOr : Condition → Bool
  | .or _ _ => true
  | _ => false

/-- The operands of an `OR` at the top of a condition. -/
def alternatives : Condition → List Condition
  | .or c d => c :: alternatives d
  | c => [c]

/-- A conjunction before another, as it is read. -/
def andThen : Condition → Condition → Condition
  | .and c d, e => .and c (andThen d e)
  | c, e => .and c e

/-- A condition before another with `AND` between them, as it is read. -/
def joined : Condition → Condition → Condition
  | .or c d, e => .or c (joined d e)
  | c, .or d e => .or (andThen c d) e
  | c, d => andThen c d

/-- Conditions with `AND` between them, as they are read. -/
def joinedAll : Condition → List Condition → Condition
  | c, [] => c
  | c, d :: ds => joined c (joinedAll d ds)

theorem joined_or_left (c d e : Condition) : joined (.or c d) e = .or c (joined d e) := rfl

theorem joined_or_right {c : Condition} (hc : c.isOr = false) (d e : Condition) :
    joined c (.or d e) = .or (andThen c d) e := by
  cases c with
  | or => exact nomatch hc
  | _ => rfl

theorem joined_of_not_or {c d : Condition} (hc : c.isOr = false) (hd : d.isOr = false) :
    joined c d = andThen c d := by
  cases c with
  | or => exact nomatch hc
  | _ =>
    cases d with
    | or => exact nomatch hd
    | _ => rfl

theorem holds_andThen (v : Assignment) (c d : Condition) :
    (andThen c d).holds v = (c.holds v && d.holds v) := by
  induction c with
  | and c e _ ih => simp [andThen, holds, ih, Bool.and_assoc]
  | _ => rfl

theorem atoms_andThen (c d : Condition) : (andThen c d).atoms = c.atoms ++ d.atoms := by
  induction c with
  | and c e _ ih => simp [andThen, atoms, ih]
  | _ => rfl

theorem atoms_joined (c d : Condition) : (joined c d).atoms = c.atoms ++ d.atoms := by
  induction c with
  | or c e _ ih => simp [joined_or_left, atoms, ih]
  | _ =>
    cases d with
    | or d e => simp [joined, atoms, atoms_andThen]
    | _ => exact atoms_andThen _ _

theorem isOr_joined (c d : Condition) : (joined c d).isOr = (c.isOr || d.isOr) := by
  cases c with
  | or => rfl
  | _ => cases d <;> rfl

/-- What is read is true if both conditions are. -/
theorem holds_joined {v : Assignment} {c d : Condition} (hc : c.holds v = true)
    (hd : d.holds v = true) : (joined c d).holds v = true := by
  induction c with
  | or c e _ ih =>
    rw [joined_or_left]
    rcases Bool.or_eq_true_iff.mp hc with hc | he
    · exact Bool.or_eq_true_iff.mpr (Or.inl hc)
    · exact Bool.or_eq_true_iff.mpr (Or.inr (ih he))
  | _ =>
    cases d with
    | or d e =>
      rw [joined_or_right rfl]
      rcases Bool.or_eq_true_iff.mp hd with hd | he
      · exact Bool.or_eq_true_iff.mpr (Or.inl (by rw [holds_andThen, hc, hd]; rfl))
      · exact Bool.or_eq_true_iff.mpr (Or.inr he)
    | _ =>
      rw [joined_of_not_or rfl rfl, holds_andThen, hc, hd]
      rfl

theorem atoms_joinedAll (c : Condition) (cs : List Condition) :
    (joinedAll c cs).atoms = c.atoms ++ cs.flatMap atoms := by
  induction cs generalizing c with
  | nil => simp [joinedAll]
  | cons d ds ih => rw [joinedAll, atoms_joined, ih, List.flatMap_cons]

theorem isOr_joinedAll (c : Condition) (cs : List Condition) :
    (joinedAll c cs).isOr = (c.isOr || cs.any isOr) := by
  induction cs generalizing c with
  | nil => simp [joinedAll]
  | cons d ds ih => rw [joinedAll, isOr_joined, ih, List.any_cons]

/-- What is read is true if all conditions are. -/
theorem holds_joinedAll {v : Assignment} {c : Condition} {cs : List Condition}
    (h : ∀ d ∈ c :: cs, d.holds v = true) : (joinedAll c cs).holds v = true := by
  induction cs generalizing c with
  | nil => exact h c List.mem_cons_self
  | cons d ds ih =>
    exact holds_joined (h c List.mem_cons_self) (ih fun e he => h e (List.mem_cons_of_mem c he))

/-- Without `OR` at the top, what is read is true exactly if all conditions are. -/
theorem holds_joinedAll_of_not_or (v : Assignment) {c : Condition} {cs : List Condition}
    (h : ∀ d ∈ c :: cs, d.isOr = false) :
    (joinedAll c cs).holds v = (c :: cs).all (·.holds v) := by
  induction cs generalizing c with
  | nil => simp [joinedAll]
  | cons d ds ih =>
    have hrest : ∀ e ∈ d :: ds, e.isOr = false := fun e he => h e (List.mem_cons_of_mem c he)
    have hor : (joinedAll d ds).isOr = false := by
      rw [isOr_joinedAll, hrest d List.mem_cons_self, Bool.false_or, List.any_eq_false]
      intro e he
      rw [hrest e (List.mem_cons_of_mem d he)]
      exact Bool.false_ne_true
    rw [joinedAll, joined_of_not_or (h c List.mem_cons_self) hor, holds_andThen, ih hrest]
    rfl

/-- A condition is true exactly if one of its alternatives is. -/
theorem holds_iff_alternatives (v : Assignment) (c : Condition) :
    c.holds v = true ↔ ∃ a ∈ c.alternatives, a.holds v = true := by
  induction c with
  | or c d _ ih => simp [holds, alternatives, ih]
  | _ => simp [alternatives]

/-! ## Assignments to separate atoms -/

/-- Truth depends on the atoms only. -/
theorem holds_congr {v w : Assignment} {c : Condition} (h : ∀ a ∈ c.atoms, v a = w a) :
    c.holds v = c.holds w := by
  induction c with
  | atom text => exact h text (List.mem_singleton.mpr rfl)
  | not c ih => rw [holds, holds, ih h]
  | group c ih => exact ih h
  | and c d ihc ihd =>
    rw [holds, holds, ihc fun a ha => h a (List.mem_append_left _ ha),
      ihd fun a ha => h a (List.mem_append_right _ ha)]
  | or c d ihc ihd =>
    rw [holds, holds, ihc fun a ha => h a (List.mem_append_left _ ha),
      ihd fun a ha => h a (List.mem_append_right _ ha)]

/-- Assignments to separate atoms can be had at once. -/
theorem exists_assignment {left right : List (List Lexeme)} (h : (left ++ right).Nodup)
    (v w : Assignment) :
    ∃ u : Assignment, (∀ a ∈ left, u a = v a) ∧ ∀ a ∈ right, u a = w a := by
  refine ⟨fun a => if a ∈ left then v a else w a, ?_, ?_⟩
  · intro a ha
    exact if_pos ha
  · intro a ha
    have hleft : a ∉ left := fun hleft => (List.nodup_append.mp h).2.2 a hleft a ha rfl
    exact if_neg hleft

/-- A condition whose atoms are distinct can be made true and can be made false. -/
theorem exists_holds {c : Condition} (h : c.atoms.Nodup) (b : Bool) :
    ∃ v : Assignment, c.holds v = b := by
  induction c generalizing b with
  | atom text => exact ⟨fun _ => b, rfl⟩
  | not c ih =>
    obtain ⟨v, hv⟩ := ih h (!b)
    exact ⟨v, by rw [holds, hv, Bool.not_not]⟩
  | group c ih => exact ih h b
  | and c d ihc ihd =>
    obtain ⟨hc, hd, -⟩ := List.nodup_append.mp h
    obtain ⟨v, hv⟩ := ihc hc b
    obtain ⟨w, hw⟩ := ihd hd b
    obtain ⟨u, huc, hud⟩ := exists_assignment h v w
    exact ⟨u, by rw [holds, holds_congr huc, holds_congr hud, hv, hw, Bool.and_self]⟩
  | or c d ihc ihd =>
    obtain ⟨hc, hd, -⟩ := List.nodup_append.mp h
    obtain ⟨v, hv⟩ := ihc hc b
    obtain ⟨w, hw⟩ := ihd hd b
    obtain ⟨u, huc, hud⟩ := exists_assignment h v w
    exact ⟨u, by rw [holds, holds_congr huc, holds_congr hud, hv, hw, Bool.or_self]⟩

/-- A condition can be made true or false without a change to other atoms. -/
theorem exists_holds_apart {c : Condition} {others : List (List Lexeme)}
    (h : (c.atoms ++ others).Nodup) (b : Bool) (w : Assignment) :
    ∃ u : Assignment, c.holds u = b ∧ ∀ a ∈ others, u a = w a := by
  obtain ⟨v, hv⟩ := exists_holds (List.nodup_append.mp h).1 b
  obtain ⟨u, huv, huw⟩ := exists_assignment h v w
  exact ⟨u, (holds_congr huv).trans hv, huw⟩

/-- With two conditions or more, one of them with `OR` at its top, what is read can be true where
a condition is false, as long as no atom occurs twice. An alternative at the outside needs no
condition on its other side, and alternatives further inside only need what stands between. -/
theorem exists_stray {c : Condition} {cs : List Condition} (hcs : cs ≠ [])
    (hatoms : ((c :: cs).flatMap atoms).Nodup) (hor : (c :: cs).any isOr = true) :
    ∃ v : Assignment, (joinedAll c cs).holds v = true ∧ ∃ d ∈ c :: cs, d.holds v = false := by
  induction cs generalizing c with
  | nil => exact absurd rfl hcs
  | cons d ds ih =>
    rw [List.flatMap_cons] at hatoms
    have hrest : ((d :: ds).flatMap atoms).Nodup := (List.nodup_append.mp hatoms).2.1
    have hfirst : d.atoms.Nodup := (List.nodup_append.mp hrest).1
    have hlater {e : Condition} (he : e ∈ d :: ds) {u w : Assignment}
        (hu : ∀ a ∈ (d :: ds).flatMap atoms, u a = w a) : e.holds u = e.holds w :=
      holds_congr fun a ha => hu a (List.mem_flatMap.mpr ⟨e, he, ha⟩)
    rw [joinedAll]
    cases c with
    | or a b =>
      -- The first alternative stands alone.
      have ha : (a.atoms ++ (d :: ds).flatMap atoms).Nodup :=
        hatoms.sublist ((List.sublist_append_left a.atoms b.atoms).append_right _)
      obtain ⟨w, hw⟩ := exists_holds hfirst false
      obtain ⟨u, hu, huw⟩ := exists_holds_apart ha true w
      refine ⟨u, ?_, d, by simp, (hlater List.mem_cons_self huw).trans hw⟩
      rw [joined_or_left, holds, hu, Bool.true_or]
    | _ =>
      replace hor : (d :: ds).any isOr = true := hor
      cases ds with
      | nil =>
        cases d with
        | or a b =>
          -- The last alternative stands alone.
          obtain ⟨w, hw⟩ := exists_holds (List.nodup_append.mp hfirst).2.1 true
          obtain ⟨u, hu, huw⟩ := exists_holds_apart hatoms false w
          have hb : b.holds u = b.holds w := holds_congr fun x hx => huw x (by simp [atoms, hx])
          refine ⟨u, ?_, _, List.mem_cons_self, hu⟩
          rw [joinedAll, joined_or_right rfl, holds, hb, hw, Bool.or_true]
        | _ => exact nomatch hor
      | cons e es =>
        obtain ⟨w, hw, f, hf, hfalse⟩ := ih (by simp) hrest hor
        obtain ⟨u, hu, huw⟩ := exists_holds_apart hatoms true w
        have hsuffix : (joinedAll d (e :: es)).holds u = (joinedAll d (e :: es)).holds w :=
          holds_congr fun a ha => huw a (by rwa [atoms_joinedAll] at ha)
        refine ⟨u, ?_, f, List.mem_cons_of_mem _ hf, (hlater hf huw).trans hfalse⟩
        exact holds_joined hu (hsuffix.trans hw)

/-! ## What is written and what is listed -/

/-- What it means that a condition stands for listed ones. -/
structure Joins (c : Condition) (listed : List Condition) : Prop where
  /-- It is implied by them: nothing that satisfies all of them is lost. -/
  implied : ∀ v : Assignment, (∀ d ∈ listed, d.holds v = true) → c.holds v = true
  /-- It means that all of them hold exactly if each of its alternatives does. -/
  exact : (∀ v : Assignment, c.holds v = true ↔ ∀ d ∈ listed, d.holds v = true)
    ↔ ∀ a ∈ c.alternatives, ∀ v : Assignment, a.holds v = true → ∀ d ∈ listed, d.holds v = true
  /-- So it does if there is only one, or if none has `OR` at its top. -/
  conjunction : (listed.length = 1 ∨ ∀ d ∈ listed, d.isOr = false) →
    ∀ v : Assignment, c.holds v = true ↔ ∀ d ∈ listed, d.holds v = true
  /-- In no other case does it if no atom occurs twice. -/
  only : (listed.flatMap atoms).Nodup →
    (∀ v : Assignment, c.holds v = true ↔ ∀ d ∈ listed, d.holds v = true) →
    listed.length = 1 ∨ ∀ d ∈ listed, d.isOr = false

theorem joinedAll_joins (c : Condition) (cs : List Condition) :
    Joins (joinedAll c cs) (c :: cs) := by
  have himplied (v : Assignment) (h : ∀ d ∈ c :: cs, d.holds v = true) :
      (joinedAll c cs).holds v = true := holds_joinedAll h
  refine ⟨himplied, ⟨?_, ?_⟩, ?_, ?_⟩
  · intro h a ha v hv
    exact (h v).mp ((holds_iff_alternatives v _).mpr ⟨a, ha, hv⟩)
  · intro h v
    refine ⟨fun hv => ?_, himplied v⟩
    obtain ⟨a, ha, hv⟩ := (holds_iff_alternatives v _).mp hv
    exact h a ha v hv
  · rintro (hone | hplain) v
    · obtain rfl : cs = [] := List.length_eq_zero_iff.mp (Nat.succ_inj.mp hone)
      simp [joinedAll]
    · rw [holds_joinedAll_of_not_or v hplain, List.all_eq_true]
  · intro hatoms h
    by_cases hone : cs = []
    · exact Or.inl (by rw [hone]; rfl)
    · refine Or.inr fun d hd => Bool.eq_false_iff.mpr fun hor => ?_
      obtain ⟨v, hv, e, he, hfalse⟩ := exists_stray hone hatoms (List.any_eq_true.mpr ⟨d, hd, hor⟩)
      rw [(h v).mp hv e he] at hfalse
      exact nomatch hfalse

end Condition

/-! ## Reading what is written -/

/-- A conjunction has no `OR` at its top. -/
theorem Reads.isOr_eq_false {ls : List Lexeme} {c : Condition} (h : Reads .conjunction ls c) :
    c.isOr = false := by
  cases h with
  | operand h => cases h <;> rfl
  | and => rfl

/-- Conjunctions with `AND` between them are one. -/
theorem Reads.andThen {ls ms : List Lexeme} {c d : Condition} (h : Reads .conjunction ls c)
    (h' : Reads .conjunction ms d) : Reads .conjunction (ls ++ .and :: ms) (c.andThen d) := by
  generalize hlevel : Level.conjunction = level at h
  induction h with
  | operand h =>
    have hand := h.and h'
    cases h <;> exact hand
  | and h hrest _ ih =>
    rw [List.append_assoc]
    exact h.and (ih rfl)
  | _ => exact nomatch hlevel

/-- Two conditions with `AND` between them are read as joined. -/
theorem Reads.joined {ls ms : List Lexeme} {c d : Condition} (h : Reads .disjunction ls c)
    (h' : Reads .disjunction ms d) : Reads .disjunction (ls ++ .and :: ms) (c.joined d) := by
  generalize hlevel : Level.disjunction = level at h
  induction h with
  | conjunction h =>
    cases h' with
    | conjunction h' =>
      rw [Condition.joined_of_not_or h.isOr_eq_false h'.isOr_eq_false]
      exact (h.andThen h').conjunction
    | or h' h'' =>
      rw [Condition.joined_or_right h.isOr_eq_false, ← List.cons_append, ← List.append_assoc]
      exact (h.andThen h').or h''
  | or h hrest _ ih =>
    rw [Condition.joined_or_left, List.append_assoc]
    exact h.or (ih rfl)
  | _ => exact nomatch hlevel

/-- Texts and the conditions they are read as, one by one. -/
inductive ReadAll : List String → List Condition → Prop where
  | nil : ReadAll [] []
  | cons {t : String} {c : Condition} {ts : List String} {cs : List Condition}
    (h : ReadAs t c) (h' : ReadAll ts cs) : ReadAll (t :: ts) (c :: cs)

/-- Texts that can be read can be read at once. -/
theorem ReadAll.of_forall {ts : List String} (h : ∀ t ∈ ts, ∃ c, ReadAs t c) :
    ∃ cs, ReadAll ts cs := by
  induction ts with
  | nil => exact ⟨[], .nil⟩
  | cons t ts ih =>
    obtain ⟨c, hc⟩ := h t List.mem_cons_self
    obtain ⟨cs, hcs⟩ := ih fun u hu => h u (List.mem_cons_of_mem t hu)
    exact ⟨c :: cs, .cons hc hcs⟩

/-- Listed texts with `AND` between them are read as their conditions joined. -/
theorem ReadAs.joinedAll {t : String} {ts : List String} {c : Condition} {cs : List Condition}
    (h : ReadAs t c) (h' : ReadAll ts cs) :
    ReadAs (" AND ".intercalate (t :: ts)) (Condition.joinedAll c cs) := by
  induction h' generalizing t c with
  | nil =>
    rw [String.intercalate_singleton]
    exact h
  | @cons u d us ds hu hus ih =>
    have hrest := ih hu
    have hand : QuoteClosed " AND " := by decide
    rw [String.intercalate_cons_cons]
    refine ⟨(h.quoteClosed.append hand).append hrest.quoteClosed, ?_⟩
    rw [lexemes_and h.quoteClosed]
    exact h.reads.joined hrest.reads

/-- What a text says that is composed of listed ones: how these are read, how the text is read,
and how far it says that all of them hold. -/
def Conjoined (listed : List String) (text : String) : Prop :=
  ∃ cs c, ReadAll listed cs ∧ ReadAs text c ∧ (∀ d, ReadAs text d → d = c) ∧ c.Joins cs

/-- Listed texts that are conditions make a condition. -/
theorem conjoined {listed : List String} (hne : listed ≠ [])
    (h : ∀ t ∈ listed, ∃ c, ReadAs t c) : Conjoined listed (" AND ".intercalate listed) := by
  obtain ⟨cs, hcs⟩ := ReadAll.of_forall h
  cases hcs with
  | nil => exact absurd rfl hne
  | @cons t c ts cs hc hcs =>
    have hread := hc.joinedAll hcs
    exact ⟨c :: cs, _, .cons hc hcs, hread, fun d hd => hd.unique hread,
      Condition.joinedAll_joins c cs⟩

end SqlComposer.Sql
