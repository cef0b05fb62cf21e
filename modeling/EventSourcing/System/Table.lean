/-!
# Tables of live objects

Objects that can change are kept in tables and named by references, so that two
holders of one reference see each other's changes. A table answers for every
reference: one that was never filled holds the default object. `Table.get_set`
says what a change does to every reference.
-/

set_option autoImplicit false

namespace EventSourcing

inductive ObjectKind where
  | event
  | mapping
  | fault
  | parameter
  | definition
  | command
  | aggregate
  | store
  | clock
  | application
deriving DecidableEq, Repr

structure Ref (kind : ObjectKind) where
  index : Nat
deriving DecidableEq, Repr, Inhabited

structure Table (kind : ObjectKind) (Item : Type) where
  items : Array Item

namespace Table

variable {kind : ObjectKind} {Item : Type}

def empty : Table kind Item := ⟨#[]⟩

def nextRef (table : Table kind Item) : Ref kind := ⟨table.items.size⟩

/-- The table with a new object under `nextRef`. -/
def push (table : Table kind Item) (item : Item) : Table kind Item :=
  ⟨table.items.push item⟩

def get [Inhabited Item] (table : Table kind Item) (ref : Ref kind) : Item :=
  table.items.getD ref.index default

def set [Inhabited Item] (table : Table kind Item) (ref : Ref kind) (item : Item) :
    Table kind Item :=
  if inside : ref.index < table.items.size then ⟨table.items.set ref.index item inside⟩
  else
    ⟨(table.items ++ Array.replicate (ref.index - table.items.size) default).push item⟩

/-- A change is seen under its own reference and under no other. -/
theorem get_set [Inhabited Item] (table : Table kind Item) (ref other : Ref kind) (item : Item) :
    (table.set ref item).get other = if ref = other then item else table.get other := by
  obtain ⟨index⟩ := ref
  obtain ⟨place⟩ := other
  simp only [get, set, Array.getD_eq_getD_getElem?, Ref.mk.injEq]
  split
  · simp only [Array.getElem?_set]
    split <;> simp_all
  · rename_i outside
    simp only [Array.getElem?_push, Array.size_append, Array.size_replicate,
      Array.getElem?_append, Array.getElem?_replicate]
    have size : table.items.size + (index - table.items.size) = index := by omega
    rw [size]
    by_cases same : index = place
    · simp [same]
    · simp only [if_neg same, if_neg (Ne.symm same)]
      by_cases below : place < table.items.size
      · simp [below]
      · have past : table.items[place]? = none := Array.getElem?_eq_none (by omega)
        simp only [below, if_false, past]
        split <;> simp

/-- A new object is found under its reference, and no other reference changes,
unless it is to an object not made yet. -/
theorem get_push [Inhabited Item] (table : Table kind Item) (other : Ref kind) (item : Item) :
    (table.push item).get other = if table.nextRef = other then item else table.get other := by
  obtain ⟨place⟩ := other
  simp only [get, push, nextRef, Array.getD_eq_getD_getElem?, Ref.mk.injEq, Array.getElem?_push]
  by_cases same : table.items.size = place
  · simp [same]
  · simp [same, Ne.symm same]

end Table

end EventSourcing
