import Mathlib.Algebra.Order.Ring.Int
import Mathlib.Data.List.Forall2
import Mathlib.Data.List.TakeWhile
import OnlyTwo.Machine

/-!
`VoiceFreshnessQueue` of client/src/features/audio/VoiceQueue.ts. The clock is an argument
of each operation that reads it, and an operation returns the queue with the number that
the source returns. Limits may change between any two calls. Every call splits what was
queued in three: what it drops, what it returns, what stays, in this order.
-/

namespace OnlyTwo

structure QueueItem (Value : Type) where
  value : Value
  queuedAt : Nat
  deriving DecidableEq, Repr

structure VoiceFreshnessQueue (Value : Type) where
  items : List (QueueItem Value)
  maxFrames : Nat
  maxAgeMs : Nat
  deriving DecidableEq, Repr

namespace VoiceFreshnessQueue

variable {Value : Type}

section Operations

structure Counted (Value : Type) where
  queue : VoiceFreshnessQueue Value
  dropped : Nat

structure FreshQueueShift (Value : Type) where
  queue : VoiceFreshnessQueue Value
  value : Option Value
  dropped : Nat

/-- The loop of `trimOverflow`, with its count. -/
def trimLoop (maxFrames : Nat) : List (QueueItem Value) → Nat → List (QueueItem Value) × Nat
  | [], dropped => ([], dropped)
  | item :: rest, dropped =>
      if maxFrames < (item :: rest).length then trimLoop maxFrames rest (dropped + 1)
      else (item :: rest, dropped)

def trimOverflow (self : VoiceFreshnessQueue Value) : Counted Value :=
  let kept := trimLoop self.maxFrames self.items 0
  ⟨{ self with items := kept.1 }, kept.2⟩

def setLimits (self : VoiceFreshnessQueue Value) (maxFrames maxAgeMs : Nat) : Counted Value :=
  trimOverflow { self with maxFrames := max 1 maxFrames, maxAgeMs := max 1 maxAgeMs }

def create (maxFrames maxAgeMs : Nat) : VoiceFreshnessQueue Value :=
  ({ items := [], maxFrames, maxAgeMs : VoiceFreshnessQueue Value }.setLimits maxFrames
    maxAgeMs).queue

def push (self : VoiceFreshnessQueue Value) (value : Value) (now : Nat) : Counted Value :=
  trimOverflow { self with items := self.items ++ [⟨value, now⟩] }

/-- The loop of `shiftFresh`, with its count. -/
def staleLoop (maxAgeMs now : Nat) :
    List (QueueItem Value) → Nat → List (QueueItem Value) × Nat
  | [], dropped => ([], dropped)
  | item :: rest, dropped =>
      if maxAgeMs < now - item.queuedAt then staleLoop maxAgeMs now rest (dropped + 1)
      else (item :: rest, dropped)

def shiftFresh (self : VoiceFreshnessQueue Value) (now : Nat) : FreshQueueShift Value :=
  let kept := staleLoop self.maxAgeMs now self.items 0
  match kept.1 with
  | [] => ⟨{ self with items := [] }, none, kept.2⟩
  | item :: rest => ⟨{ self with items := rest }, some item.value, kept.2⟩

def clear (self : VoiceFreshnessQueue Value) : Counted Value :=
  ⟨{ self with items := [] }, self.items.length⟩

def size (self : VoiceFreshnessQueue Value) : Nat := self.items.length

theorem trimLoop_eq (maxFrames : Nat) (items : List (QueueItem Value)) (dropped : Nat) :
    trimLoop maxFrames items dropped =
      (items.drop (items.length - maxFrames), dropped + (items.length - maxFrames)) := by
  induction items generalizing dropped with
  | nil => simp [trimLoop]
  | cons item rest ih =>
      rw [trimLoop]
      split
      · rename_i excess
        rw [List.length_cons] at excess ⊢
        have one : rest.length + 1 - maxFrames = rest.length - maxFrames + 1 := by omega
        rw [ih, one, List.drop_succ_cons, Nat.add_right_comm, Nat.add_assoc]
      · rename_i fits
        rw [Nat.sub_eq_zero_of_le (Nat.not_lt.mp fits)]
        rfl

theorem staleLoop_eq (maxAgeMs now : Nat) (items : List (QueueItem Value)) (dropped : Nat) :
    staleLoop maxAgeMs now items dropped =
      (items.dropWhile (fun item => maxAgeMs < now - item.queuedAt),
        dropped + (items.takeWhile (fun item => maxAgeMs < now - item.queuedAt)).length) := by
  induction items generalizing dropped with
  | nil => simp [staleLoop]
  | cons item rest ih =>
      rw [staleLoop]
      split
      · rename_i stale
        simp only [ih, List.dropWhile_cons, List.takeWhile_cons, decide_eq_true stale, if_true,
          List.length_cons, Nat.add_assoc, Nat.add_comm 1]
      · rename_i fresh
        simp only [List.dropWhile_cons, List.takeWhile_cons, decide_eq_false fresh,
          Bool.false_eq_true, if_false, List.length_nil, Nat.add_zero]

end Operations

section Calls

inductive Call (Value : Type) where
  | push (value : Value) (now : Nat)
  | shiftFresh (now : Nat)
  | setLimits (maxFrames maxAgeMs : Nat)
  | clear

/-- A value as it is returned, with the clock and the limit at that moment. -/
structure Returned (Value : Type) where
  value : Value
  now : Nat
  maxAgeMs : Nat

inductive Mark (Value : Type) where
  | pushed (item : QueueItem Value)
  | returned (value : Returned Value)
  | dropped (count : Nat)

def step (self : VoiceFreshnessQueue Value) :
    Call Value → VoiceFreshnessQueue Value × List (Mark Value)
  | .push value now =>
      ((self.push value now).queue,
        [.pushed ⟨value, now⟩, .dropped (self.push value now).dropped])
  | .shiftFresh now =>
      ((self.shiftFresh now).queue,
        .dropped (self.shiftFresh now).dropped ::
          ((self.shiftFresh now).value.map fun value =>
            Mark.returned ⟨value, now, self.maxAgeMs⟩).toList)
  | .setLimits maxFrames maxAgeMs =>
      ((self.setLimits maxFrames maxAgeMs).queue,
        [.dropped (self.setLimits maxFrames maxAgeMs).dropped])
  | .clear => (self.clear.queue, [.dropped self.clear.dropped])

def machine : Machine (VoiceFreshnessQueue Value) (Call Value) (Mark Value) :=
  ⟨fun self call => some (self.step call)⟩

def Mark.push? : Mark Value → Option (QueueItem Value)
  | .pushed item => some item
  | _ => none

def Mark.return? : Mark Value → Option (Returned Value)
  | .returned value => some value
  | _ => none

def Mark.count : Mark Value → Nat
  | .dropped count => count
  | _ => 0

def pushes (history : List (Mark Value)) : List (QueueItem Value) :=
  history.filterMap Mark.push?

def returns (history : List (Mark Value)) : List (Returned Value) :=
  history.filterMap Mark.return?

/-- The sum of the reported drops. -/
def drops (history : List (Mark Value)) : Nat := (history.map Mark.count).sum

/-- Why a call may drop an item. -/
inductive Cause (before after : VoiceFreshnessQueue Value) (item : QueueItem Value) :
    Call Value → Prop where
  | age {now : Nat} (stale : before.maxAgeMs < now - item.queuedAt) :
      Cause before after item (.shiftFresh now)
  -- the queue is left full, so not one item more went than had to
  | overflow {value : Value} {now : Nat} (full : after.size = after.maxFrames) :
      Cause before after item (.push value now)
  | limit {maxFrames maxAgeMs : Nat} (full : after.size = after.maxFrames) :
      Cause before after item (.setLimits maxFrames maxAgeMs)
  | clear : Cause before after item .clear

/-- The value of the item, returned while it was fresh. -/
def Fresh (item : QueueItem Value) (returned : Returned Value) : Prop :=
  item.value = returned.value ∧ returned.now - item.queuedAt ≤ returned.maxAgeMs

/-- What a call does: it drops `gone`, returns `taken`, and the rest stays. -/
structure Split (before : VoiceFreshnessQueue Value) (call : Call Value)
    (after : VoiceFreshnessQueue Value) (marks : List (Mark Value))
    (gone taken : List (QueueItem Value)) : Prop where
  parts : before.items ++ pushes marks = gone ++ taken ++ after.items
  caused : ∀ item ∈ gone, Cause before after item call
  counted : drops marks = gone.length
  fresh : List.Forall₂ Fresh taken (returns marks)
  current : ∀ returned ∈ returns marks, returned.maxAgeMs = before.maxAgeMs
  fits : after.size ≤ after.maxFrames

theorem trimOverflow_parts (self : VoiceFreshnessQueue Value) :
    ∃ gone, self.items = gone ++ self.trimOverflow.queue.items ∧
      self.trimOverflow.dropped = gone.length ∧
      self.trimOverflow.queue.maxFrames = self.maxFrames ∧
      self.trimOverflow.queue.size ≤ self.maxFrames ∧
      (gone ≠ [] → self.trimOverflow.queue.size = self.maxFrames) := by
  simp only [trimOverflow, trimLoop_eq, size, List.length_drop]
  refine ⟨self.items.take (self.items.length - self.maxFrames),
    (List.take_append_drop _ _).symm, ?_, trivial, by omega, ?_⟩
  · rw [List.length_take]
    omega
  · intro some
    have positive := List.length_pos_of_ne_nil some
    rw [List.length_take] at positive
    omega

theorem trimOverflow_subset (self : VoiceFreshnessQueue Value) :
    self.trimOverflow.queue.items ⊆ self.items := by
  obtain ⟨gone, parts, _⟩ := self.trimOverflow_parts
  exact fun item member => parts ▸ List.mem_append_right gone member

theorem shiftFresh_parts (self : VoiceFreshnessQueue Value) (now : Nat) :
    ∃ gone taken, self.items = gone ++ taken ++ (self.shiftFresh now).queue.items ∧
      (∀ item ∈ gone, self.maxAgeMs < now - item.queuedAt) ∧
      (self.shiftFresh now).dropped = gone.length ∧
      taken.map QueueItem.value = (self.shiftFresh now).value.toList ∧
      (∀ item ∈ taken, now - item.queuedAt ≤ self.maxAgeMs) ∧
      (self.shiftFresh now).queue.maxFrames = self.maxFrames := by
  have stale : ∀ item ∈ self.items.takeWhile (fun item => self.maxAgeMs < now - item.queuedAt),
      self.maxAgeMs < now - item.queuedAt := fun item member => by
    simpa using List.mem_takeWhile_imp member
  have whole := (List.takeWhile_append_dropWhile
    (p := fun item : QueueItem Value => self.maxAgeMs < now - item.queuedAt)
    (l := self.items)).symm
  simp only [shiftFresh, staleLoop_eq, Nat.zero_add]
  split
  · rename_i empty
    rw [empty] at whole
    exact ⟨_, [], by simpa using whole, stale, rfl, rfl, nofun, rfl⟩
  · rename_i item rest listed
    have head : ¬ self.maxAgeMs < now - item.queuedAt := by
      have first := List.head?_dropWhile_not
        (fun item : QueueItem Value => decide (self.maxAgeMs < now - item.queuedAt)) self.items
      rw [listed] at first
      simpa using first
    rw [listed] at whole
    refine ⟨_, [item], by simpa using whole, stale, rfl, rfl, ?_, rfl⟩
    intro one member
    rw [List.mem_singleton.mp member]
    exact Nat.not_lt.mp head

theorem trimOverflow_split (self opened : VoiceFreshnessQueue Value) (call : Call Value)
    (marks : List (Mark Value)) (items : self.items ++ pushes marks = opened.items)
    (none : returns marks = []) (counted : drops marks = opened.trimOverflow.dropped)
    (cause : opened.trimOverflow.queue.size = opened.trimOverflow.queue.maxFrames →
      ∀ item, Cause self opened.trimOverflow.queue item call) :
    ∃ gone, Split self call opened.trimOverflow.queue marks gone [] := by
  obtain ⟨gone, parts, dropped, limit, fits, full⟩ := opened.trimOverflow_parts
  refine ⟨gone, ?_, ?_, counted.trans dropped, ?_, ?_, limit ▸ fits⟩
  · rw [items, List.append_nil]
    exact parts
  · intro item member
    exact cause ((full (List.ne_nil_of_mem member)).trans limit.symm) item
  · rw [none]
    exact List.Forall₂.nil
  · rw [none]
    nofun

theorem step_split {self : VoiceFreshnessQueue Value} (fits : self.size ≤ self.maxFrames)
    (call : Call Value) :
    ∃ gone taken, Split self call (self.step call).1 (self.step call).2 gone taken := by
  cases call with
  | push value now =>
      obtain ⟨gone, split⟩ := trimOverflow_split self
        { self with items := self.items ++ [⟨value, now⟩] } (.push value now)
        (self.step (.push value now)).2 rfl rfl (Nat.zero_add _)
        (fun full _ => Cause.overflow full)
      exact ⟨gone, [], split⟩
  | shiftFresh now =>
      obtain ⟨gone, taken, parts, stale, dropped, values, fresh, limit⟩ :=
        self.shiftFresh_parts now
      have pushed : pushes (self.step (.shiftFresh now)).2 = [] := by
        simp only [step]
        cases (self.shiftFresh now).value <;> rfl
      have shifted : returns (self.step (.shiftFresh now)).2 =
          taken.map fun item => ⟨item.value, now, self.maxAgeMs⟩ := by
        -- What the call returns is the items it has taken, at the age limit of the call.
        have passed : taken.map (fun item => Returned.mk item.value now self.maxAgeMs) =
            (taken.map QueueItem.value).map fun value => ⟨value, now, self.maxAgeMs⟩ := by
          rw [List.map_map]
          rfl
        simp only [step]
        rw [passed, values]
        cases (self.shiftFresh now).value <;> rfl
      have reported : drops (self.step (.shiftFresh now)).2 =
          (self.shiftFresh now).dropped := by
        simp only [step]
        cases (self.shiftFresh now).value <;> rfl
      refine ⟨gone, taken, ?_, fun item member => Cause.age (stale item member),
        reported.trans dropped, ?_, ?_, ?_⟩
      · rw [pushed, List.append_nil]
        exact parts
      · rw [shifted, List.forall₂_map_right_iff, List.forall₂_same]
        exact fun item member => ⟨rfl, fresh item member⟩
      · rw [shifted]
        intro returned member
        obtain ⟨_, _, rfl⟩ := List.mem_map.mp member
        rfl
      · have shorter := congrArg List.length parts
        simp only [List.length_append] at shorter
        change (self.shiftFresh now).queue.items.length ≤
          (self.shiftFresh now).queue.maxFrames
        rw [limit]
        have size : self.items.length ≤ self.maxFrames := fits
        omega
  | setLimits maxFrames maxAgeMs =>
      obtain ⟨gone, split⟩ := trimOverflow_split self
        { self with maxFrames := max 1 maxFrames, maxAgeMs := max 1 maxAgeMs }
        (.setLimits maxFrames maxAgeMs) (self.step (.setLimits maxFrames maxAgeMs)).2 (List.append_nil _) rfl rfl
        (fun full _ => Cause.limit full)
      exact ⟨gone, [], split⟩
  | clear =>
      refine ⟨self.items, [], ?_, fun _ _ => Cause.clear, rfl, List.Forall₂.nil, nofun,
        Nat.zero_le _⟩
      simp [step, clear, pushes, Mark.push?]

/-- The account of a run: what was returned and what is queued, in the order of the pushes. -/
structure Conserved (queue : VoiceFreshnessQueue Value) (history : List (Mark Value)) : Prop where
  fits : queue.size ≤ queue.maxFrames
  order : ∃ taken, (taken ++ queue.items).Sublist (pushes history) ∧
    List.Forall₂ Fresh taken (returns history)
  total : (pushes history).length = (returns history).length + drops history + queue.size

theorem create_conserved (maxFrames maxAgeMs : Nat) :
    Conserved (create maxFrames maxAgeMs : VoiceFreshnessQueue Value) [] := by
  have empty : (create maxFrames maxAgeMs : VoiceFreshnessQueue Value).items = [] := rfl
  have small : (create maxFrames maxAgeMs : VoiceFreshnessQueue Value).size = 0 :=
    congrArg List.length empty
  refine ⟨small.trans_le (Nat.zero_le _), ⟨[], ?_, List.Forall₂.nil⟩, ?_⟩
  · rw [empty]
    exact List.Sublist.slnil
  · rw [small]
    rfl

@[simp] theorem pushes_append (first second : List (Mark Value)) :
    pushes (first ++ second) = pushes first ++ pushes second := List.filterMap_append

@[simp] theorem returns_append (first second : List (Mark Value)) :
    returns (first ++ second) = returns first ++ returns second := List.filterMap_append

@[simp] theorem drops_append (first second : List (Mark Value)) :
    drops (first ++ second) = drops first + drops second := by
  simp [drops]

theorem Conserved.next {before after : VoiceFreshnessQueue Value} {call : Call Value}
    {history marks : List (Mark Value)} {gone taken : List (QueueItem Value)}
    (conserved : Conserved before history) (split : Split before call after marks gone taken) :
    Conserved after (history ++ marks) := by
  obtain ⟨earlier, order, fresh⟩ := conserved.order
  refine ⟨split.fits, ⟨earlier ++ taken, ?_, ?_⟩, ?_⟩
  · have whole := order.append (List.Sublist.refl (pushes marks))
    rw [List.append_assoc, split.parts, ← pushes_append] at whole
    refine List.Sublist.trans ?_ whole
    rw [List.append_assoc, List.append_assoc]
    exact (List.Sublist.refl _).append (List.sublist_append_right gone _)
  · rw [returns_append]
    exact List.rel_append fresh split.fresh
  · have lengths := congrArg List.length split.parts
    have same := split.fresh.length_eq
    have counted := split.counted
    have total := conserved.total
    simp only [List.length_append, size] at lengths total ⊢
    rw [pushes_append, returns_append, drops_append, List.length_append, List.length_append]
    omega

theorem run_conserved {maxFrames maxAgeMs : Nat} {queue : VoiceFreshnessQueue Value}
    {history : List (Mark Value)} {allowed : VoiceFreshnessQueue Value → Call Value → Prop}
    (run : Machine.Run machine allowed (create maxFrames maxAgeMs) queue history) :
    Conserved queue history := by
  refine run.invariant Conserved (create_conserved maxFrames maxAgeMs) ?_
  intro before past call after marks conserved _ stepped
  obtain ⟨gone, taken, split⟩ := step_split conserved.fits call
  rw [Option.some.inj stepped] at split
  exact conserved.next split

/-- Whatever the clock does and however the limits change: the values come out in the order
of the pushes, each fresh under the limit of that moment; the queue keeps its size; every
push is returned, reported as dropped or still queued; and a call drops from the oldest
end only, for age, to make room, or because it clears the queue. -/
theorem freshness_queue_accounts {maxFrames maxAgeMs : Nat} {queue : VoiceFreshnessQueue Value}
    {history : List (Mark Value)}
    (run : Machine.Run machine Machine.Unrestricted (create maxFrames maxAgeMs) queue history) :
    (∃ taken, (taken ++ queue.items).Sublist (pushes history) ∧
        List.Forall₂ Fresh taken (returns history)) ∧
      queue.size ≤ queue.maxFrames ∧
      (pushes history).length = (returns history).length + drops history + queue.size ∧
      ∀ call after marks, queue.step call = (after, marks) →
        ∃ gone taken, queue.items ++ pushes marks = gone ++ taken ++ after.items ∧
          drops marks = gone.length ∧ (∀ item ∈ gone, Cause queue after item call) ∧
          List.Forall₂ Fresh taken (returns marks) ∧
          ∀ returned ∈ returns marks, returned.maxAgeMs = queue.maxAgeMs := by
  have conserved := run_conserved run
  refine ⟨conserved.order, conserved.fits, conserved.total, ?_⟩
  intro call after marks stepped
  obtain ⟨gone, taken, split⟩ := step_split conserved.fits call
  rw [stepped] at split
  exact ⟨gone, taken, split.parts, split.counted, split.caused, split.fresh, split.current⟩

/-- One frame goes for room, two for age, and a tighter limit takes another. -/
theorem mixed_drops_accounted : ∃ (queue : VoiceFreshnessQueue Nat) (history : List (Mark Nat)),
    Machine.Run machine Machine.Unrestricted (create 3 20) queue history ∧ queue.size = 1 ∧
      drops history = 4 ∧ (returns history).map Returned.value = [4] ∧
      (pushes history).length = (returns history).length + drops history + queue.size := by
  have ran : ((machine.execute (create 3 20) [.push 1 0, .push 2 10, .push 3 20, .push 4 30,
      .shiftFresh 45, .push 5 46, .push 6 47, .setLimits 1 20]).map fun result =>
        (result.1.size, drops result.2, (returns result.2).map Returned.value)) =
          some (1, 4, [4]) := by
    decide
  obtain ⟨⟨queue, history⟩, executed, reached⟩ := Option.map_eq_some_iff.mp ran
  have run := Machine.execute_run _ (Machine.along_unrestricted _ _) executed
  obtain ⟨size, rest⟩ := Prod.mk.inj reached
  obtain ⟨dropped, values⟩ := Prod.mk.inj rest
  exact ⟨queue, history, run, size, dropped, values, (freshness_queue_accounts run).2.2.1⟩

end Calls

end VoiceFreshnessQueue

end OnlyTwo
