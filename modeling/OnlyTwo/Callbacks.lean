import OnlyTwo.InsertionMap

/-!
Callbacks that an event loop holds back: armed timers and suspended calls. Each
is kept under a ticket that was never used before. Cancelling a missing or
spent ticket does nothing, and the loop may run any callback it holds at any
later moment: delays only order runs, so a model that ignores them has every
run of the real loop.
-/

namespace OnlyTwo

structure Callbacks (Task : Type) where
  held : InsertionMap Nat Task
  next : Nat
  bounded : ∀ ticket ∈ held.keys, ticket < next
  deriving DecidableEq

namespace Callbacks

variable {Task : Type}

def empty : Callbacks Task := ⟨.empty, 0, by simp⟩

instance : Inhabited (Callbacks Task) := ⟨empty⟩

def get? (callbacks : Callbacks Task) (ticket : Nat) : Option Task := callbacks.held.get? ticket

def add (callbacks : Callbacks Task) (task : Task) : Callbacks Task × Nat :=
  (⟨callbacks.held.set callbacks.next task, callbacks.next + 1, by
      intro ticket member
      rcases (InsertionMap.mem_keys_set _ _ _ _).mp member with rfl | old
      · exact Nat.lt_succ_self _
      · exact Nat.lt_succ_of_lt (callbacks.bounded ticket old)⟩,
    callbacks.next)

def remove (callbacks : Callbacks Task) (ticket : Nat) : Callbacks Task :=
  ⟨callbacks.held.delete ticket, callbacks.next, by
    intro other member
    exact callbacks.bounded other ((InsertionMap.mem_keys_delete _ _ _).mp member).2⟩

def cancel (callbacks : Callbacks Task) : Option Nat → Callbacks Task
  | none => callbacks
  | some ticket => callbacks.remove ticket

/-- The callback under a ticket, and the table once it has run. -/
def take (callbacks : Callbacks Task) (ticket : Nat) : Option (Task × Callbacks Task) :=
  (callbacks.get? ticket).map fun task => (task, callbacks.remove ticket)

@[simp] theorem get?_empty (ticket : Nat) : (empty : Callbacks Task).get? ticket = none := rfl

theorem get?_lt {callbacks : Callbacks Task} {ticket : Nat} {task : Task}
    (found : callbacks.get? ticket = some task) : ticket < callbacks.next :=
  callbacks.bounded ticket (InsertionMap.mem_keys_of_get? found)

theorem get?_add (callbacks : Callbacks Task) (task : Task) (ticket : Nat) :
    (callbacks.add task).1.get? ticket =
      if ticket = callbacks.next then some task else callbacks.get? ticket :=
  InsertionMap.get?_set _ _ _ _

theorem get?_remove (callbacks : Callbacks Task) (ticket other : Nat) :
    (callbacks.remove ticket).get? other =
      if other = ticket then none else callbacks.get? other :=
  InsertionMap.get?_delete _ _ _

theorem get?_of_remove {callbacks : Callbacks Task} {ticket other : Nat} {task : Task}
    (found : (callbacks.remove ticket).get? other = some task) :
    callbacks.get? other = some task := by
  rw [get?_remove] at found
  split at found
  · cases found
  · exact found

theorem get?_of_cancel {callbacks : Callbacks Task} {spent : Option Nat} {ticket : Nat}
    {task : Task} (found : (callbacks.cancel spent).get? ticket = some task) :
    callbacks.get? ticket = some task := by
  cases spent with
  | none => exact found
  | some other => exact get?_of_remove found

theorem take_eq_some {callbacks after : Callbacks Task} {ticket : Nat} {task : Task} :
    callbacks.take ticket = some (task, after) ↔
      callbacks.get? ticket = some task ∧ after = callbacks.remove ticket := by
  simp only [take, Option.map_eq_some_iff, Prod.mk.injEq]
  constructor
  · rintro ⟨_, found, rfl, rfl⟩
    exact ⟨found, rfl⟩
  · rintro ⟨found, rfl⟩
    exact ⟨task, found, rfl, rfl⟩

end Callbacks

end OnlyTwo
