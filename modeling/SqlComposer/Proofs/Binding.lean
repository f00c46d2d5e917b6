import SqlComposer.Sql.Binding
import SqlComposer.Proofs.Composition

/-!
# What binding does

`bindPositional` reads a statement once, taking a value for each placeholder on the way, and can
run out of values. Here its result is said in terms of the number of placeholders alone: it
succeeds exactly if there are as many values, and then the named statement is `namedFrom` of the
text and the values stand under their names in order.

Binding a composed query puts values in slots first. Own values are there already, so it can only
fail on an index that the caller's values do not reach.
-/

set_option autoImplicit false

namespace SqlComposer.Sql

/-- The named form of a text that is scanned from a region on, after `index` placeholders. -/
def namedFrom : Region → (index : Nat) → List Char → List Char
  | _, _, [] => []
  | r, index, c :: cs =>
    if r = .outside ∧ c = '?' then
      ':' :: ((paramName index).toList ++ namedFrom .outside (index + 1) cs)
    else keptChar r c cs.head? ++ namedFrom (r.step c) index cs

/-- Values under the names of the placeholders from `index` on. -/
def namedValues : (index : Nat) → List Value → List (String × Value)
  | _, [] => []
  | index, v :: vs => (paramName index, v) :: namedValues (index + 1) vs

/-- The `k`-th of some named values is the `k`-th value under the `k`-th name. -/
theorem getElem?_namedValues (index : Nat) (vs : List Value) (k : Nat) :
    (namedValues index vs)[k]? = vs[k]?.map fun v => (paramName (index + k), v) := by
  induction vs generalizing index k with
  | nil => rfl
  | cons v vs ih =>
    cases k with
    | zero => rfl
    | succ k =>
      rw [namedValues, List.getElem?_cons_succ, List.getElem?_cons_succ, ih, Nat.add_right_comm,
        Nat.add_assoc]

theorem length_namedValues (index : Nat) (vs : List Value) :
    (namedValues index vs).length = vs.length := by
  induction vs generalizing index with
  | nil => rfl
  | cons v vs ih => rw [namedValues, List.length_cons, List.length_cons, ih]

/-- Binding takes one value for each placeholder, in order, and leaves the rest. -/
theorem bindFrom_eq (r : Region) (index : Nat) (vs : List Value) (cs : List Char) :
    bindFrom r index vs cs =
      if countFrom r cs ≤ vs.length then
        some (namedFrom r index cs, namedValues index (vs.take (countFrom r cs)),
          vs.drop (countFrom r cs))
      else none := by
  induction cs generalizing r index vs with
  | nil => simp [bindFrom, countFrom, namedFrom, namedValues]
  | cons c cs ih =>
    by_cases hmark : r = .outside ∧ c = '?'
    · obtain ⟨rfl, rfl⟩ := hmark
      have hcount : countFrom .outside ('?' :: cs) = countFrom .outside cs + 1 := by
        simp [countFrom, Region.step, isQuote, Nat.add_comm]
      rw [hcount]
      cases vs with
      | nil => simp [bindFrom]
      | cons v vs =>
        simp only [bindFrom, namedFrom, and_self, if_true, ih, List.length_cons,
          Nat.add_le_add_iff_right]
        split <;> rfl
    · have hcount : countFrom r (c :: cs) = countFrom (r.step c) cs := by
        simp [countFrom, hmark]
      rw [hcount]
      simp only [bindFrom, namedFrom, if_neg hmark, ih]
      split <;> rfl

/-- A statement is bound by as many values as it has placeholders. -/
theorem bindPositional_of_length {sql : String} {values : List Value}
    (h : values.length = countPlaceholders sql) :
    bindPositional sql values
      = .ok ⟨String.ofList (namedFrom .outside 0 sql.toList), namedValues 0 values⟩ := by
  have hcount : countFrom .outside sql.toList = values.length := h.symm
  unfold bindPositional
  rw [bindFrom_eq, if_pos (Nat.le_of_eq hcount), hcount, List.take_length, List.drop_length]

end SqlComposer.Sql

namespace SqlComposer

open SqlComposer.Sql

/-- The index of the caller's value that a slot takes, if it takes one. -/
def Slot.callerIndex? : Slot → Option Int
  | .caller index => some index
  | .own _ => none

/-- The value that goes into a slot. -/
def Slot.fill (values : List Value) : Slot → Value
  | .own v => v
  | .caller index => values[index.toNat]?.getD .null

/-- Whether a slot can be filled from a number of values of the caller, counted from the front. -/
def Slot.Within (n : Nat) : Slot → Prop
  | .own _ => True
  | .caller index => 0 ≤ index ∧ index < n

namespace CompiledQuery

theorem slotValue_of_within {values : List Value} {slot : Slot} (h : slot.Within values.length) :
    slotValue values slot = .ok (slot.fill values) := by
  cases slot with
  | own v => rfl
  | caller index =>
    obtain ⟨hlow, hhigh⟩ := h
    have hfront : ¬ index < 0 := by omega
    have hindex : index.toNat < values.length := by omega
    simp [slotValue, Slot.fill, hfront, List.getElem?_eq_getElem hindex]

/-- A query whose slots are all within reach is bound by exactly the number of values it takes. -/
theorem bind_of_within {c : CompiledQuery} {values : List Value}
    (hlength : (values.length : Int) = c.callers)
    (hslots : ∀ slot ∈ c.slots, slot.Within values.length) :
    c.bind values = .ok (c.slots.map (Slot.fill values)) := by
  unfold bind
  rw [if_neg (not_not_intro hlength)]
  generalize c.slots = slots at hslots
  induction slots with
  | nil => rfl
  | cons slot slots ih =>
    have hslot := hslots slot List.mem_cons_self
    have hrest := ih fun s hs => hslots s (List.mem_cons_of_mem slot hs)
    rw [List.mapM_cons, slotValue_of_within hslot, hrest]
    rfl

/-- A query given another number of values than it takes is not bound. -/
theorem bind_of_ne {c : CompiledQuery} {values : List Value}
    (h : (values.length : Int) ≠ c.callers) :
    ∃ e, c.bind values = .error (.error e) ∧ e.code = .placeholderMismatch := by
  unfold bind
  rw [if_pos h]
  exact ⟨_, rfl, rfl⟩

end CompiledQuery

namespace Layout

/-- The caller's values that the slots of a piece take, in order. -/
theorem callers_of_piece (first : Nat) (p : Piece) :
    ((p.slots first).filterMap Slot.callerIndex?).Pairwise (· < ·)
      ∧ ∀ i ∈ (p.slots first).filterMap Slot.callerIndex?,
        (first : Int) ≤ i ∧ i < (first + p.callers : Nat) := by
  cases p with
  | fixed t => simp [Piece.slots]
  | caller t =>
    have hindices : (BindPlan.callerSlots first (countPlaceholders t)).filterMap Slot.callerIndex?
        = (List.range (countPlaceholders t)).map fun i => ((first + i : Nat) : Int) := by
      unfold BindPlan.callerSlots
      rw [List.filterMap_map, ← List.filterMap_eq_map]
      rfl
    simp only [Piece.slots, Piece.callers, hindices]
    constructor
    · rw [List.pairwise_map]
      exact List.pairwise_lt_range.imp (by intro a b hab; omega)
    · intro i hi
      obtain ⟨j, hj, rfl⟩ := List.mem_map.mp hi
      have := List.mem_range.mp hj
      omega
  | own values =>
    have hnone : (values.map Slot.own).filterMap Slot.callerIndex? = [] := by
      rw [List.filterMap_map]
      exact List.filterMap_eq_nil_iff.mpr fun _ _ => rfl
    simp [Piece.slots, hnone]
  | omitted n => simp [Piece.slots]

/-- The slots of a layout take values of the caller in order, all of those it speaks for. -/
theorem callers_of_slots (first : Nat) (l : Layout) :
    ((slots first l).filterMap Slot.callerIndex?).Pairwise (· < ·)
      ∧ ∀ i ∈ (slots first l).filterMap Slot.callerIndex?,
        (first : Int) ≤ i ∧ i < (first + callers l : Nat) := by
  induction l generalizing first with
  | nil => simp
  | cons p l ih =>
    obtain ⟨hordered, hbounds⟩ := callers_of_piece first p
    obtain ⟨hordered', hbounds'⟩ := ih (first + p.callers)
    rw [slots_cons, List.filterMap_append]
    refine ⟨List.pairwise_append.mpr ⟨hordered, hordered', ?_⟩, ?_⟩
    · intro i hi j hj
      have := hbounds i hi
      have := hbounds' j hj
      omega
    · intro i hi
      simp only [callers]
      rcases List.mem_append.mp hi with hi | hi
      · have := hbounds i hi
        omega
      · have := hbounds' i hi
        omega

/-- Each slot of a layout can be filled from the values it speaks for. -/
theorem within_of_slots {l : Layout} {slot : Slot} (h : slot ∈ slots 0 l) :
    slot.Within (callers l) := by
  cases slot with
  | own v => trivial
  | caller i =>
    have hmem : i ∈ (slots 0 l).filterMap Slot.callerIndex? := List.mem_filterMap.mpr ⟨_, h, rfl⟩
    have hbounds := (callers_of_slots 0 l).2 i hmem
    constructor <;> omega

end Layout

/-- The slots of a composed query are within reach of the values it takes. -/
theorem Query.composed_within {q : Query} {mode : Mode} {values : List Value}
    (hlength : (values.length : Int) = (q.composed mode).callers) :
    ∀ slot ∈ (q.composed mode).slots, slot.Within values.length := by
  intro slot hslot
  rw [show values.length = Layout.callers (q.layout mode) from Int.ofNat_inj.mp hlength]
  exact Layout.within_of_slots hslot

end SqlComposer
