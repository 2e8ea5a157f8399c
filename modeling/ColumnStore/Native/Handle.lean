/-!
# Handles

What a library hands out for an open database, a result or a statement: a token that only
the library can follow. It tells what kind of object it stands for, who keeps the object,
and the number it is kept under. Where a library may hand out no handle, or be given none,
an `Option` of a handle is passed.
-/

set_option autoImplicit false

namespace ColumnStore

/-- The kinds of objects a library hands out. -/
inductive Resource
  | database | result | statement
  deriving DecidableEq, Repr

/-- Who keeps an object. -/
inductive Keeper
  /-- The engine, which keeps what it made. -/
  | engine
  /-- A script that answers for a library with objects prepared in advance. -/
  | script
  deriving DecidableEq, Repr

/-- A token for an object. -/
structure Handle (resource : Resource) where
  keeper : Keeper
  number : Nat
  deriving DecidableEq, Repr

/-- Numbered objects. No number is used for a second object. -/
structure Registry (α : Type) where
  slots : List (Option α)

namespace Registry

variable {α : Type}

/-- No objects. -/
def empty : Registry α :=
  ⟨[]⟩

/-- The object with a number, unless there never was one or it was released. -/
def find? (registry : Registry α) (number : Nat) : Option α :=
  registry.slots[number]?.join

/-- The number the next object gets. -/
def nextNumber (registry : Registry α) : Nat :=
  registry.slots.length

/-- Keep an object under the next number. -/
def add (registry : Registry α) (object : α) : Registry α :=
  ⟨registry.slots ++ [some object]⟩

/-- Change the object with a number, if there is one. -/
def modify (registry : Registry α) (number : Nat) (change : α → α) : Registry α :=
  ⟨registry.slots.modify number (Option.map change)⟩

/-- Give up the object with a number. -/
def remove (registry : Registry α) (number : Nat) : Registry α :=
  ⟨registry.slots.set number none⟩

theorem find?_empty (number : Nat) : (empty : Registry α).find? number = none := by
  simp [empty, find?]

theorem find?_add_next (registry : Registry α) (object : α) :
    (registry.add object).find? registry.nextNumber = some object := by
  simp [add, find?, nextNumber]

theorem find?_add_of_ne (registry : Registry α) (object : α) {number : Nat}
    (other : number ≠ registry.nextNumber) :
    (registry.add object).find? number = registry.find? number := by
  unfold add find? nextNumber at *
  rcases Nat.lt_or_gt_of_ne other with inside | outside
  · simp [List.getElem?_append_left inside]
  · rw [List.getElem?_eq_none (by simp; omega), List.getElem?_eq_none (by omega)]

theorem find?_modify (registry : Registry α) (number other : Nat) (change : α → α) :
    (registry.modify number change).find? other =
      if number = other then (registry.find? other).map change else registry.find? other := by
  by_cases same : number = other
  · subst same
    cases found : registry.slots[number]? <;> simp [modify, find?, found]
  · simp [modify, find?, same]

theorem find?_remove (registry : Registry α) (number other : Nat) :
    (registry.remove number).find? other =
      if number = other then none else registry.find? other := by
  by_cases same : number = other
  · subst same
    by_cases inside : number < registry.slots.length <;> simp [remove, find?, inside]
  · simp [remove, find?, same]

end Registry

end ColumnStore
