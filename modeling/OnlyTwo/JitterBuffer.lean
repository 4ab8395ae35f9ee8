import OnlyTwo.InsertionMap
import OnlyTwo.Machine
import Mathlib.Algebra.Order.Ring.Int

/-!
`JitterBuffer` of client/src/features/audio/JitterBuffer.ts. A frame reaches the buffer
with a safe integer as its number, on which `+ 1` and the comparisons are those of the
integers. `expected` moves in three places; every one of them leaves it at or below all
that is still buffered, and that is what the order of the popped frames rests on.
-/

namespace OnlyTwo

structure JitterBuffer (Frame : Type) where
  frames : InsertionMap Int Frame
  expected : Option Int
  maxFrames : Nat

namespace JitterBuffer

variable {Frame : Type}

def create (maxFrames : Nat) : JitterBuffer Frame := ⟨InsertionMap.empty, none, maxFrames⟩

def clear (self : JitterBuffer Frame) : JitterBuffer Frame :=
  { self with frames := InsertionMap.empty, expected := none }

def size (self : JitterBuffer Frame) : Nat := self.frames.size

/-- One round of the `while` loop of `push`. -/
def evictOldest (self : JitterBuffer Frame) : JitterBuffer Frame :=
  match self.frames.keys.min? with
  | none => self
  | some oldest => { self with
      frames := self.frames.delete oldest
      expected := if self.expected = some oldest then some (oldest + 1) else self.expected }

/-- The loop; each round takes a frame away, so their number bounds it. -/
def evict : Nat → JitterBuffer Frame → JitterBuffer Frame
  | 0, self => self
  | rounds + 1, self =>
      if self.maxFrames < self.frames.size then evict rounds self.evictOldest else self

section Calls
variable (seq : Frame → Int)

def push (self : JitterBuffer Frame) (frame : Frame) : JitterBuffer Frame :=
  if self.expected.any (seq frame < ·) then self
  else
    let frames := self.frames.set (seq frame) frame
    evict frames.size { self with frames }

def pop (self : JitterBuffer Frame) : JitterBuffer Frame × Option Frame :=
  match self.frames.keys.min? with
  | none => (self, none)
  | some oldest =>
      let expected := self.expected.getD oldest
      match self.frames.get? expected with
      | some exact => ({ self with
          frames := self.frames.delete expected, expected := some (expected + 1) }, some exact)
      | none =>
          match self.frames.get? oldest with
          | some frame => ({ self with
              frames := self.frames.delete oldest, expected := some (oldest + 1) }, some frame)
          | none => ({ self with expected := some (max expected oldest) }, none)

inductive Call (Frame : Type) where
  | push (frame : Frame)
  | pop

def step (self : JitterBuffer Frame) : Call Frame → JitterBuffer Frame × List Frame
  | .push frame => (self.push seq frame, [])
  | .pop => (self.pop.1, self.pop.2.toList)

/-- The calls between two `clear`s; the outputs are the popped frames. -/
def machine : Machine (JitterBuffer Frame) (Call Frame) Frame :=
  ⟨fun self call => some (self.step seq call)⟩

end Calls

/-! What is buffered, apart from when it got there. -/
section Order
variable {seq : Frame → Int}

structure Ordered (seq : Frame → Int) (buffer : JitterBuffer Frame) : Prop where
  keyed : ∀ key frame, buffer.frames.get? key = some frame → seq frame = key
  ahead : ∀ expected ∈ buffer.expected, ∀ key ∈ buffer.frames.keys, expected ≤ key

theorem clear_ordered (self : JitterBuffer Frame) : Ordered seq self.clear := ⟨nofun, nofun⟩

/-- The oldest frame leaves; everything else stays and is younger. -/
theorem keys_after_oldest {frames : InsertionMap Int Frame} {oldest : Int}
    (least : frames.keys.min? = some oldest) :
    ∀ key ∈ (frames.delete oldest).keys, oldest + 1 ≤ key := by
  intro key member
  obtain ⟨different, present⟩ := (frames.mem_keys_delete oldest key).mp member
  have below := (List.min?_eq_some_iff.mp least).2 key present
  omega

theorem get?_of_delete {frames : InsertionMap Int Frame} {gone key : Int} {frame : Frame}
    (found : (frames.delete gone).get? key = some frame) : frames.get? key = some frame := by
  rw [InsertionMap.get?_delete] at found
  split at found
  · cases found
  · exact found

theorem size_delete_min {frames : InsertionMap Int Frame} {oldest : Int}
    (least : frames.keys.min? = some oldest) :
    (frames.delete oldest).size + 1 = frames.size := by
  have present := (List.min?_eq_some_iff.mp least).1
  have length : (frames.keys.filter (· ≠ oldest)).length + 1 = frames.keys.length := by
    have erased : frames.keys.erase oldest = frames.keys.filter (· ≠ oldest) := by
      rw [frames.keys_nodup.erase_eq_filter]
      refine List.filter_congr fun key _ => ?_
      rw [decide_not]
      rfl
    rw [← erased, List.length_erase_of_mem present]
    exact Nat.succ_pred_eq_of_pos (List.length_pos_of_mem present)
  rw [← InsertionMap.length_keys, ← InsertionMap.length_keys, InsertionMap.keys_delete]
  exact length

/-- What a round of the eviction keeps: order, and no step back of `expected`. -/
structure Evicted (seq : Frame → Int) (before after : JitterBuffer Frame) : Prop where
  ordered : Ordered seq after
  limit : after.maxFrames = before.maxFrames
  onward : ∀ expected ∈ before.expected, ∃ later ∈ after.expected, expected ≤ later

theorem Evicted.refl {self : JitterBuffer Frame} (ordered : Ordered seq self) :
    Evicted seq self self :=
  ⟨ordered, rfl, fun expected known => ⟨expected, known, le_rfl⟩⟩

theorem Evicted.trans {first second third : JitterBuffer Frame}
    (left : Evicted seq first second) (right : Evicted seq second third) :
    Evicted seq first third := by
  refine ⟨right.ordered, right.limit.trans left.limit, ?_⟩
  intro expected known
  obtain ⟨middle, now, low⟩ := left.onward expected known
  obtain ⟨later, last, high⟩ := right.onward middle now
  exact ⟨later, last, low.trans high⟩

theorem evictOldest_evicted {self : JitterBuffer Frame} (ordered : Ordered seq self) :
    Evicted seq self self.evictOldest := by
  unfold evictOldest
  split
  · exact Evicted.refl ordered
  · rename_i oldest least
    have younger := keys_after_oldest least
    have keyed : ∀ key frame, (self.frames.delete oldest).get? key = some frame →
        seq frame = key := fun key frame found => ordered.keyed key frame (get?_of_delete found)
    by_cases reached : self.expected = some oldest
    · -- the evicted frame was the expected one, so `expected` steps over it
      simp only [if_pos reached]
      refine ⟨⟨keyed, ?_⟩, rfl, ?_⟩
      · rintro expected ⟨⟩
        exact younger
      · rw [reached]
        rintro expected ⟨⟩
        exact ⟨oldest + 1, rfl, by omega⟩
    · simp only [if_neg reached]
      refine ⟨⟨keyed, ?_⟩, rfl, fun expected known => ⟨expected, known, le_rfl⟩⟩
      intro expected known key member
      exact ordered.ahead expected known key
        ((self.frames.mem_keys_delete oldest key).mp member).2

theorem evict_evicted (rounds : Nat) {self : JitterBuffer Frame} (ordered : Ordered seq self) :
    Evicted seq self (evict rounds self) := by
  induction rounds generalizing self with
  | zero => exact Evicted.refl ordered
  | succ rounds ih =>
      rw [evict]
      split
      · have first := evictOldest_evicted ordered
        exact first.trans (ih first.ordered)
      · exact Evicted.refl ordered

theorem min?_of_size {frames : InsertionMap Int Frame} (some : 0 < frames.size) :
    ∃ oldest, frames.keys.min? = Option.some oldest := by
  refine Option.isSome_iff_exists.mp (List.isSome_min?_of_ne_nil ?_)
  intro empty
  rw [← InsertionMap.length_keys, empty] at some
  exact Nat.lt_irrefl 0 some

theorem size_evictOldest {self : JitterBuffer Frame} (some : 0 < self.frames.size) :
    self.evictOldest.frames.size + 1 = self.frames.size := by
  obtain ⟨oldest, least⟩ := min?_of_size some
  simp only [evictOldest, least]
  exact size_delete_min least

/-- With a round for every frame the loop ends because enough has gone. -/
theorem evict_fits (rounds : Nat) {self : JitterBuffer Frame} (fuel : self.frames.size ≤ rounds) :
    (evict rounds self).frames.size ≤ (evict rounds self).maxFrames := by
  induction rounds generalizing self with
  | zero => exact fuel.trans (Nat.zero_le _)
  | succ rounds ih =>
      rw [evict]
      split
      · rename_i excess
        have shrunk := size_evictOldest (Nat.zero_lt_of_lt excess)
        exact ih (by omega)
      · rename_i fits
        exact Nat.not_lt.mp fits

theorem push_evicted {self : JitterBuffer Frame} (ordered : Ordered seq self) (frame : Frame) :
    Evicted seq self (self.push seq frame) := by
  unfold push
  split
  · exact Evicted.refl ordered
  · rename_i timely
    have stored : Ordered seq { self with frames := self.frames.set (seq frame) frame } := by
      refine ⟨?_, ?_⟩
      · intro key held found
        rw [InsertionMap.get?_set] at found
        split at found
        · rename_i same
          cases found
          exact same.symm
        · exact ordered.keyed key held found
      · intro expected known key member
        rcases (self.frames.mem_keys_set (seq frame) key frame).mp member with rfl | older
        · simp only [Option.mem_def] at known
          simpa [known] using timely
        · exact ordered.ahead expected known key older
    have evicted := evict_evicted (self.frames.set (seq frame) frame).size stored
    exact ⟨evicted.ordered, evicted.limit, evicted.onward⟩

theorem push_fits {self : JitterBuffer Frame} (fits : self.frames.size ≤ self.maxFrames)
    (frame : Frame) : (self.push seq frame).frames.size ≤ (self.push seq frame).maxFrames := by
  unfold push
  split
  · exact fits
  · exact evict_fits _ le_rfl

/-- A pop takes the least buffered number out and leaves `expected` behind it. -/
structure Popped (seq : Frame → Int) (before after : JitterBuffer Frame) (frame : Frame) :
    Prop where
  held : before.frames.get? (seq frame) = some frame
  least : before.frames.keys.min? = some (seq frame)
  after : after = { before with
    frames := before.frames.delete (seq frame), expected := some (seq frame + 1) }

theorem pop_popped {self : JitterBuffer Frame} (ordered : Ordered seq self)
    (some : 0 < self.frames.size) :
    ∃ frame, self.pop = ((self.pop).1, Option.some frame) ∧ Popped seq self self.pop.1 frame := by
  obtain ⟨oldest, least⟩ := min?_of_size some
  obtain ⟨present, below⟩ := List.min?_eq_some_iff.mp least
  obtain ⟨first, found⟩ := Option.isSome_iff_exists.mp ((self.frames.has_iff oldest).mpr present)
  simp only [pop, least]
  cases exact : self.frames.get? (self.expected.getD oldest) with
  | some frame =>
      -- a buffered `expected` is the least number, since nothing is below it
      have reached : self.expected.getD oldest = oldest := by
        have buffered := InsertionMap.mem_keys_of_get? exact
        have above := below _ buffered
        cases known : self.expected with
        | none => rfl
        | some expected =>
            have under := ordered.ahead expected known oldest present
            rw [known] at above
            exact le_antisymm under above
      rw [reached] at exact ⊢
      have number := ordered.keyed oldest frame exact
      exact ⟨frame, rfl, by rw [number]; exact exact, by rw [number]; exact least, by rw [number]⟩
  | none =>
      simp only [found]
      have number := ordered.keyed oldest first found
      exact ⟨first, rfl, by rw [number]; exact found, by rw [number]; exact least, by rw [number]⟩

theorem Popped.ordered {before after : JitterBuffer Frame} {frame : Frame}
    (popped : Popped seq before after frame) (ordered : Ordered seq before) :
    Ordered seq after := by
  rw [popped.after]
  refine ⟨fun key held found => ordered.keyed key held (get?_of_delete found), ?_⟩
  rintro expected ⟨⟩
  exact keys_after_oldest popped.least

theorem pop_empty {self : JitterBuffer Frame} (empty : self.frames.size = 0) :
    self.pop = (self, none) := by
  have none : self.frames.keys.min? = none := by
    rw [List.min?_eq_none_iff, ← List.length_eq_zero_iff, InsertionMap.length_keys]
    exact empty
  rw [pop, none]

end Order

/-! A run between two clears. -/
section Runs
variable {seq : Frame → Int}

/-- The popped frames stay in order because `expected` is past all of them. -/
structure Playing (seq : Frame → Int) (start buffer : JitterBuffer Frame) (popped : List Frame) :
    Prop where
  ordered : Ordered seq buffer
  limit : buffer.maxFrames = start.maxFrames
  fits : buffer.frames.size ≤ buffer.maxFrames
  past : ∀ frame ∈ popped, ∃ expected ∈ buffer.expected, seq frame < expected
  increasing : popped.Pairwise (seq · < seq ·)

theorem Playing.push {start self : JitterBuffer Frame} {popped : List Frame}
    (playing : Playing seq start self popped) (frame : Frame) :
    Playing seq start (self.push seq frame) popped := by
  have evicted := push_evicted playing.ordered frame
  refine ⟨evicted.ordered, evicted.limit.trans playing.limit, push_fits playing.fits frame, ?_,
    playing.increasing⟩
  intro earlier member
  obtain ⟨expected, known, below⟩ := playing.past earlier member
  obtain ⟨later, now, low⟩ := evicted.onward expected known
  exact ⟨later, now, lt_of_lt_of_le below low⟩

/-- Everything popped so far is below all that is buffered. -/
theorem Playing.below {start self : JitterBuffer Frame} {popped : List Frame}
    (playing : Playing seq start self popped) {earlier : Frame} (member : earlier ∈ popped)
    {key : Int} (buffered : key ∈ self.frames.keys) : seq earlier < key := by
  obtain ⟨expected, known, below⟩ := playing.past earlier member
  exact lt_of_lt_of_le below (playing.ordered.ahead expected known key buffered)

theorem Playing.pop {start self after : JitterBuffer Frame} {popped : List Frame} {frame : Frame}
    (playing : Playing seq start self popped) (took : Popped seq self after frame) :
    Playing seq start after (popped ++ [frame]) := by
  have behind : ∀ earlier ∈ popped, seq earlier < seq frame := fun earlier member =>
    playing.below member (InsertionMap.mem_keys_of_get? took.held)
  have ordered := took.ordered playing.ordered
  have shape := took.after
  subst shape
  refine ⟨ordered, playing.limit, (InsertionMap.size_delete_le _ _).trans playing.fits, ?_, ?_⟩
  · intro earlier member
    refine ⟨seq frame + 1, rfl, ?_⟩
    rcases List.mem_append.mp member with old | new
    · exact (behind earlier old).trans (by omega)
    · rw [List.mem_singleton.mp new]
      omega
  · refine List.pairwise_append.mpr ⟨playing.increasing, List.pairwise_singleton _ _, ?_⟩
    intro earlier member last new
    rw [List.mem_singleton.mp new]
    exact behind earlier member

theorem run_playing {start self : JitterBuffer Frame} {popped : List Frame}
    {allowed : JitterBuffer Frame → Call Frame → Prop}
    (run : Machine.Run (machine seq) allowed start.clear self popped) :
    Playing seq start self popped := by
  refine run.invariant (fun self popped => Playing seq start self popped)
    ⟨clear_ordered start, rfl, Nat.zero_le _, nofun, List.Pairwise.nil⟩ ?_
  intro before past call after outputs playing _ stepped
  cases call with
  | push frame =>
      cases stepped
      simpa using playing.push frame
  | pop =>
      cases stepped
      rcases Nat.eq_zero_or_pos before.frames.size with empty | some
      · simpa [pop_empty empty] using playing
      · obtain ⟨frame, result, took⟩ := pop_popped playing.ordered some
        have again := playing.pop took
        rw [result]
        exact again

/-- Between two clears, whatever is pushed and whenever: the popped numbers increase, the
buffer keeps its limit, and a pop of a buffer that holds something returns the frame with
the least number, which is above every number popped before. -/
theorem popped_in_order {start self : JitterBuffer Frame} {popped : List Frame}
    (run : Machine.Run (machine seq) Machine.Unrestricted start.clear self popped) :
    popped.Pairwise (seq · < seq ·) ∧
      self.size ≤ start.maxFrames ∧
      (0 < self.size → ∃ frame, self.pop.2 = some frame ∧ frame ∈ self.frames.values ∧
        (∀ other ∈ self.frames.values, seq frame ≤ seq other) ∧
        ∀ earlier ∈ popped, seq earlier < seq frame) ∧
      (self.size = 0 → self.pop.2 = none) := by
  have playing := run_playing run
  refine ⟨playing.increasing, playing.limit ▸ playing.fits, ?_, ?_⟩
  · intro some
    obtain ⟨frame, result, took⟩ := pop_popped playing.ordered some
    refine ⟨frame, by rw [result], InsertionMap.mem_values_of_get? took.held, ?_, ?_⟩
    · intro other member
      obtain ⟨⟨key, held⟩, listed, rfl⟩ := List.mem_map.mp member
      have found := (self.frames.get?_eq_some_iff key held).mpr listed
      have number := playing.ordered.keyed key held found
      rw [number]
      exact (List.min?_eq_some_iff.mp took.least).2 key (InsertionMap.mem_keys_of_get? found)
    · intro earlier member
      exact playing.below member (InsertionMap.mem_keys_of_get? took.held)
  · intro empty
    rw [pop_empty empty]

/-- Frame `3` comes too late, frame `6` never comes, and `8` is evicted by the limit. -/
theorem popped_across_gap : ∃ buffer : JitterBuffer Int,
    [5, 7, 9].Pairwise (fun earlier later : Int => earlier < later) ∧ buffer.size = 2 ∧
      ∃ frame, buffer.pop.2 = some frame ∧ ∀ other ∈ buffer.frames.values, frame ≤ other := by
  have ran : ((machine id).execute (create 2).clear
      [.push 5, .pop, .push 3, .push 7, .pop, .push 10, .push 8, .push 9, .pop, .push 12]).map
        (fun result => (result.1.size, result.2)) = some (2, [5, 7, 9]) := by rfl
  obtain ⟨⟨buffer, popped⟩, executed, reached⟩ := Option.map_eq_some_iff.mp ran
  obtain ⟨size, rfl⟩ := Prod.mk.inj reached
  have run := Machine.execute_run _ (Machine.along_unrestricted _ _) executed
  obtain ⟨increasing, _, least, _⟩ := popped_in_order run
  obtain ⟨frame, result, _, first, _⟩ := least (by rw [size]; decide)
  exact ⟨buffer, increasing, size, frame, result, first⟩

end Runs

end JitterBuffer

end OnlyTwo
