import SqlComposer.Sql.Quoting
import SqlComposer.Sql.Rejection

/-!
# Where the values of a query come from

Each placeholder of a composed query gets its value either from the caller, by position, or from
the query itself. A bind plan lists the placeholders composed so far as slots, and counts how
many values of the caller have been spoken for. The count can run ahead of the slots: text that
is looked at but not emitted gives up its slots and keeps its caller values reserved.
-/

set_option autoImplicit false

namespace SqlComposer

open SqlComposer.Sql

/-- The source of one placeholder's value. -/
inductive Slot where
  /-- The caller's value at an index; negative indices count from the end. -/
  | caller (index : Int)
  /-- A value of the query itself. -/
  | own (value : Value)

/-- The slots of the text emitted so far and the number of caller values spoken for. -/
structure BindPlan where
  slots : List Slot
  callers : Nat

namespace BindPlan

/-- Nothing emitted. -/
def empty : BindPlan := ⟨[], 0⟩

/-- `n` slots for the caller values from `first` on. -/
def callerSlots (first n : Nat) : List Slot := (List.range n).map fun i => .caller (first + i : Nat)

/-- One more slot for each of the next `n` caller values. -/
def addCallers (plan : BindPlan) (n : Nat) : BindPlan :=
  ⟨plan.slots ++ callerSlots plan.callers n, plan.callers + n⟩

/-- One more slot for each placeholder in emitted text. -/
def addText (plan : BindPlan) (text : String) : BindPlan := plan.addCallers (countPlaceholders text)

/-- One more slot for each of the query's own values. -/
def addValues (plan : BindPlan) (values : List Value) : BindPlan :=
  { plan with slots := plan.slots ++ values.map .own }

/-- The plan without the slots after the first `n`; caller values stay reserved. -/
def keepSlots (plan : BindPlan) (n : Nat) : BindPlan := { plan with slots := plan.slots.take n }

end BindPlan

/-- The state in which query text is composed. -/
abbrev Compose := StateT BindPlan (Except Rejection)

namespace Compose

/-- Emits text whose placeholders belong to the caller. -/
def text (s : String) : Compose String := fun plan => .ok (s, plan.addText s)

/-- Records own values for placeholders emitted elsewhere. -/
def values (vs : List Value) : Compose Unit := fun plan => .ok ((), plan.addValues vs)

/-- Accepts free text for a clause. -/
def checked (kind : FragmentKind) (fragment : String) : Compose String :=
  StateT.lift (checkFragment kind fragment)

/-- Runs a composition for its checks and its caller values only: its slots are given up. -/
def unemitted {α : Type} (act : Compose α) : Compose α := fun plan =>
  match act plan with
  | .ok (a, after) => .ok (a, after.keepSlots plan.slots.length)
  | .error r => .error r

end Compose

end SqlComposer
