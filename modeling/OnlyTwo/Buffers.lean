import Mathlib.Data.List.Basic

/-!
Byte arrays that are shared by reference and overwritten in place. A reference is the place of
its array; allocation never gives out a place twice, and nothing is freed. What an operation
leaves alone is said by `Keeps`, so that a caller follows its own references through a chain of
operations without looking at the memory.
-/

namespace OnlyTwo

structure Buffers (Cell : Type) where
  cells : List Cell
  deriving DecidableEq

namespace Buffers

variable {Cell : Type}

def empty : Buffers Cell := ⟨[]⟩

def size (memory : Buffers Cell) : Nat := memory.cells.length

def read? (memory : Buffers Cell) (ref : Nat) : Option Cell := memory.cells[ref]?

def alloc (memory : Buffers Cell) (cell : Cell) : Buffers Cell × Nat :=
  (⟨memory.cells ++ [cell]⟩, memory.size)

def modify (memory : Buffers Cell) (ref : Nat) (change : Cell → Cell) : Buffers Cell :=
  ⟨memory.cells.modify ref change⟩

theorem read?_lt {memory : Buffers Cell} {ref : Nat} {cell : Cell}
    (found : memory.read? ref = some cell) : ref < memory.size :=
  (List.getElem?_eq_some_iff.mp found).1

theorem read?_alloc (memory : Buffers Cell) (cell : Cell) :
    (memory.alloc cell).1.read? (memory.alloc cell).2 = some cell := by
  simp [alloc, read?, size]

theorem read?_alloc_new (memory : Buffers Cell) (cell : Cell) :
    memory.read? (memory.alloc cell).2 = none := by
  simp [alloc, read?, size]

theorem read?_alloc_of_some {memory : Buffers Cell} {ref : Nat} {held : Cell}
    (found : memory.read? ref = some held) (cell : Cell) :
    (memory.alloc cell).1.read? ref = some held := by
  rw [read?, alloc, List.getElem?_append_left (read?_lt found)]
  exact found

theorem read?_modify_ne (memory : Buffers Cell) {ref other : Nat} (change : Cell → Cell)
    (different : other ≠ ref) : (memory.modify ref change).read? other = memory.read? other := by
  simp [modify, read?, Ne.symm different]

/-- The arrays behind these references are as they were. -/
def Keeps (mine : Nat → Prop) (before after : Buffers Cell) : Prop :=
  ∀ ref cell, mine ref → before.read? ref = some cell → after.read? ref = some cell

variable {mine : Nat → Prop} {first second third : Buffers Cell}

theorem Keeps.refl (mine : Nat → Prop) (memory : Buffers Cell) : Keeps mine memory memory :=
  fun _ _ _ found => found

theorem Keeps.trans (early : Keeps mine first second) (late : Keeps mine second third) :
    Keeps mine first third :=
  fun ref cell held found => late ref cell held (early ref cell held found)

theorem Keeps.mono {fewer : Nat → Prop} (keeps : Keeps mine first second)
    (within : ∀ ref, fewer ref → mine ref) : Keeps fewer first second :=
  fun ref cell held found => keeps ref cell (within ref held) found

theorem Keeps.alloc (mine : Nat → Prop) (memory : Buffers Cell) (cell : Cell) :
    Keeps mine memory (memory.alloc cell).1 :=
  fun _ _ _ found => read?_alloc_of_some found cell

/-- Overwriting an array changes no other one. -/
theorem Keeps.modify (memory : Buffers Cell) (change : Cell → Cell) {spent : Nat}
    (unheld : ¬ mine spent) : Keeps mine memory (memory.modify spent change) := by
  intro ref cell held found
  have different : ref ≠ spent := by
    rintro rfl
    exact unheld held
  rw [read?_modify_ne memory change different]
  exact found

end Buffers

end OnlyTwo
