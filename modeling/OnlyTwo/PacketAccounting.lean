import OnlyTwo.PacketFlow

/-!
The counters of the packet scheduler. `machine` runs the operations of the
class in any order. `shed` drops the oldest packets of a lane, and
`enqueue_cases` says everything the loop of `enqueue` can do with it. `Accounted`
holds of every run, under any profile and whenever the profile changes; a run
that keeps its profile from a moment with empty lanes also stays within the
budgets.
-/

namespace OnlyTwo.Transport

open Bytes AppMessages

namespace PacketScheduler

inductive Operation where
  | enqueue (packet : QueuedPacket)
  | next
  | clear
  | clearVolatile
  | setProfile (profile : TransportLimits)
  deriving DecidableEq, Repr

/-- What an operation returns; for the clearing operations, the packets that a
lane lost. -/
inductive Answer where
  | enqueued (packet : QueuedPacket) (result : EnqueueResult)
  | returned (packet : Option QueuedPacket)
  | emptied (lane : LaneName) (packets : List QueuedPacket)
  deriving DecidableEq, Repr

def operate (scheduler : PacketScheduler) : Operation → PacketScheduler × List Answer
  | .enqueue packet =>
      let (after, result) := scheduler.enqueue packet
      (after, [.enqueued packet result])
  | .next =>
      match scheduler.next with
      | none => (scheduler, [.returned none])
      | some (packet, after) => (after, [.returned (some packet)])
  | .clear => (scheduler.clear, laneNames.map fun lane => .emptied lane (scheduler.packets lane))
  | .clearVolatile => (scheduler.clearVolatile, [.emptied .voice (scheduler.packets .voice)])
  | .setProfile profile => (scheduler.setProfile profile, [])

def machine : Machine PacketScheduler Operation Answer where
  step scheduler operation := some (scheduler.operate operation)

variable {scheduler before after : PacketScheduler} {lane : LaneName} {packet : QueuedPacket}

section Fields
variable (scheduler)

@[simp] theorem setQueue_profile (queue : LaneQueue) (lane : LaneName) :
    (scheduler.setQueue queue lane).profile = scheduler.profile := by
  cases lane <;> rfl

@[simp] theorem setQueue_totalPackets (queue : LaneQueue) (lane : LaneName) :
    (scheduler.setQueue queue lane).totalPackets = scheduler.totalPackets := by
  cases lane <;> rfl

@[simp] theorem setQueue_totalBytes (queue : LaneQueue) (lane : LaneName) :
    (scheduler.setQueue queue lane).totalBytes = scheduler.totalBytes := by
  cases lane <;> rfl

@[simp] theorem shift_profile (lane : LaneName) (removed : QueuedPacket)
    (rest : List QueuedPacket) : (scheduler.shift lane removed rest).profile = scheduler.profile :=
  setQueue_profile _ _ lane

@[simp] theorem push_profile (packet : QueuedPacket) :
    (scheduler.push packet).profile = scheduler.profile :=
  setQueue_profile _ _ packet.lane

@[simp] theorem clearLane_profile (lane : LaneName) :
    (scheduler.clearLane lane).profile = scheduler.profile :=
  setQueue_profile _ _ lane

@[simp] theorem clear_profile : scheduler.clear.profile = scheduler.profile := by
  simp [clear, laneNames]

@[simp] theorem setProfile_packets (profile : TransportLimits) (lane : LaneName) :
    (scheduler.setProfile profile).packets lane = scheduler.packets lane := by
  cases lane <;> rfl

end Fields

section Shedding

/-- The given number of oldest packets of a lane go. -/
def shed (scheduler : PacketScheduler) (lane : LaneName) : Nat → PacketScheduler
  | 0 => scheduler
  | count + 1 =>
      match scheduler.packets lane with
      | [] => scheduler
      | removed :: rest => (scheduler.shift lane removed rest).shed lane count

@[simp] theorem shed_zero (scheduler : PacketScheduler) (lane : LaneName) :
    scheduler.shed lane 0 = scheduler := rfl

theorem shed_cons {removed : QueuedPacket} {rest : List QueuedPacket} (count : Nat)
    (held : scheduler.packets lane = removed :: rest) :
    scheduler.shed lane (count + 1) = (scheduler.shift lane removed rest).shed lane count := by
  simp [shed, held]

/-- A property that `shift` keeps is kept by dropping any number of packets. -/
theorem shed_induction (property : PacketScheduler → Prop) (count : Nat)
    (shifts : ∀ state removed rest, state.packets lane = removed :: rest → property state →
      property (state.shift lane removed rest))
    (holds : property scheduler) : property (scheduler.shed lane count) := by
  induction count generalizing scheduler with
  | zero => exact holds
  | succ count ih =>
      cases held : scheduler.packets lane with
      | nil => simpa [shed, held] using holds
      | cons removed rest =>
          rw [shed_cons count held]
          exact ih (shifts scheduler removed rest held holds)

@[simp] theorem shed_profile (scheduler : PacketScheduler) (lane : LaneName) (count : Nat) :
    (scheduler.shed lane count).profile = scheduler.profile :=
  shed_induction (fun state => state.profile = scheduler.profile) count
    (fun _ _ _ _ same => (shift_profile _ _ _ _).trans same) rfl

theorem shed_packets (scheduler : PacketScheduler) (lane other : LaneName) (count : Nat) :
    (scheduler.shed lane count).packets other =
      if other = lane then (scheduler.packets lane).drop count else scheduler.packets other := by
  induction count generalizing scheduler with
  | zero =>
      by_cases same : other = lane
      · simp [shed, same]
      · simp [shed, same]
  | succ count ih =>
      cases held : scheduler.packets lane with
      | nil =>
          by_cases same : other = lane
          · simp [shed, held, same]
          · simp [shed, held, same]
      | cons removed rest =>
          rw [shed_cons count held, ih]
          by_cases same : other = lane
          · simp [same, shift_packets]
          · simp [same, shift_packets]

/-- Dropping one packet after `count` others. -/
theorem shift_shed {removed : QueuedPacket} {rest : List QueuedPacket} (count : Nat)
    (held : (scheduler.packets lane).drop count = removed :: rest) :
    (scheduler.shed lane count).shift lane removed rest = scheduler.shed lane (count + 1) := by
  induction count generalizing scheduler with
  | zero =>
      rw [List.drop_zero] at held
      rw [shed_cons 0 held]
      rfl
  | succ count ih =>
      cases packets : scheduler.packets lane with
      | nil => simp [packets] at held
      | cons head tail =>
          rw [packets, List.drop_succ_cons] at held
          rw [shed_cons count packets, shed_cons (count + 1) packets]
          apply ih
          simpa [shift_packets] using held

/-- The three ends of `enqueue`. -/
inductive Enqueued (scheduler : PacketScheduler) (packet : QueuedPacket) :
    PacketScheduler × EnqueueResult → Prop where
  | oversized : scheduler.profile.maxFrameBytes < packet.bytes.length →
      Enqueued scheduler packet (scheduler, ⟨false, 0, some .frameTooLarge⟩)
  | accepted (dropped : Nat) :
      packet.bytes.length ≤ scheduler.profile.maxFrameBytes →
      dropped ≤ (scheduler.packets packet.lane).length →
      (0 < dropped → (scheduler.profile.lanes packet.lane).dropPolicy = .dropOldest) →
      (scheduler.shed packet.lane dropped).overflows packet = false →
      Enqueued scheduler packet ((scheduler.shed packet.lane dropped).push packet, ⟨true, dropped, none⟩)
  | full (dropped : Nat) :
      packet.bytes.length ≤ scheduler.profile.maxFrameBytes →
      dropped ≤ (scheduler.packets packet.lane).length →
      ((scheduler.profile.lanes packet.lane).dropPolicy ≠ .dropOldest → dropped = 0) →
      ((scheduler.profile.lanes packet.lane).dropPolicy = .dropOldest →
        dropped = (scheduler.packets packet.lane).length) →
      (scheduler.shed packet.lane dropped).overflows packet = true →
      Enqueued scheduler packet
        (scheduler.shed packet.lane dropped, ⟨false, dropped, some .queueFull⟩)

/-- The loop after it has dropped `count` packets. -/
theorem makeRoom_shed (fits : packet.bytes.length ≤ scheduler.profile.maxFrameBytes)
    (left : List QueuedPacket) (count : Nat)
    (dropping : 0 < count → (scheduler.profile.lanes packet.lane).dropPolicy = .dropOldest)
    (held : (scheduler.packets packet.lane).drop count = left)
    (bound : count ≤ (scheduler.packets packet.lane).length) :
    Enqueued scheduler packet
      ((scheduler.shed packet.lane count).makeRoom packet count left) := by
  induction left generalizing count with
  | nil =>
      simp only [makeRoom]
      split
      · rename_i overflow
        refine .full count fits bound (fun keeps => ?_) (fun _ => ?_) overflow
        · by_contra some
          exact keeps (dropping (Nat.pos_of_ne_zero some))
        · exact le_antisymm bound (List.drop_eq_nil_iff.mp held)
      · rename_i room
        exact .accepted count fits bound dropping (Bool.eq_false_iff.mpr room)
  | cons removed rest ih =>
      simp only [makeRoom, shed_profile]
      split
      · rename_i overflow
        split
        · rename_i drops
          -- There was a packet to drop, so the lane is not yet empty.
          have shorter : count < (scheduler.packets packet.lane).length := by
            by_contra beyond
            rw [List.drop_of_length_le (not_lt.mp beyond)] at held
            cases held
          have next : (scheduler.packets packet.lane).drop (count + 1) = rest := by
            rw [← List.tail_drop, held, List.tail_cons]
          rw [shift_shed count held]
          exact ih (count + 1) (fun _ => drops) next shorter
        · rename_i keeps
          -- Only `drop-oldest` drops, so a lane of another policy is as it was found.
          have none : count = 0 := by
            by_contra some
            exact keeps (dropping (Nat.pos_of_ne_zero some))
          exact .full count fits bound (fun _ => none) (fun drops => absurd drops keeps) overflow
      · rename_i room
        exact .accepted count fits bound dropping (Bool.eq_false_iff.mpr room)

theorem enqueue_cases (scheduler : PacketScheduler) (packet : QueuedPacket) :
    Enqueued scheduler packet (scheduler.enqueue packet) := by
  unfold enqueue
  split
  · rename_i oversized
    exact .oversized oversized
  · rename_i fits
    exact makeRoom_shed (not_lt.mp fits) _ 0 (fun some => absurd some (lt_irrefl 0)) rfl
      (Nat.zero_le _)

end Shedding

section Counters

def bytesOf (packets : List QueuedPacket) : Nat :=
  (packets.map fun packet => packet.bytes.length).sum

def queuedPackets (scheduler : PacketScheduler) : Nat :=
  (laneNames.map fun lane => (scheduler.packets lane).length).sum

def queuedBytes (scheduler : PacketScheduler) : Nat :=
  (laneNames.map fun lane => bytesOf (scheduler.packets lane)).sum

/-- The counters are the sums they stand for. -/
structure Accounted (scheduler : PacketScheduler) : Prop where
  lanes : ∀ lane, (scheduler.queues lane).bytes = bytesOf (scheduler.packets lane)
  totalPackets : scheduler.totalPackets = scheduler.queuedPackets
  totalBytes : scheduler.totalBytes = scheduler.queuedBytes

@[simp] theorem bytesOf_nil : bytesOf [] = 0 := rfl

@[simp] theorem bytesOf_cons (packet : QueuedPacket) (rest : List QueuedPacket) :
    bytesOf (packet :: rest) = packet.bytes.length + bytesOf rest := rfl

@[simp] theorem bytesOf_append (first second : List QueuedPacket) :
    bytesOf (first ++ second) = bytesOf first + bytesOf second := by
  simp [bytesOf]

theorem queuedPackets_eq (scheduler : PacketScheduler) :
    scheduler.queuedPackets = scheduler.control.packets.length + scheduler.voice.packets.length +
      scheduler.text.packets.length + scheduler.file.packets.length := by
  simp only [queuedPackets, laneNames, List.map_cons, List.map_nil, List.sum_cons, List.sum_nil,
    packets, queues]
  omega

theorem queuedBytes_eq (scheduler : PacketScheduler) :
    scheduler.queuedBytes = bytesOf scheduler.control.packets + bytesOf scheduler.voice.packets +
      bytesOf scheduler.text.packets + bytesOf scheduler.file.packets := by
  simp only [queuedBytes, laneNames, List.map_cons, List.map_nil, List.sum_cons, List.sum_nil,
    packets, queues]
  omega

/-- A lane is replaced and the totals move by the difference. -/
theorem Accounted.replace {totalPackets totalBytes : Int} {queue : LaneQueue}
    (accounted : scheduler.Accounted) (lane : LaneName) (own : queue.bytes = bytesOf queue.packets)
    (packets : totalPackets + (scheduler.packets lane).length =
      scheduler.totalPackets + queue.packets.length)
    (bytes : totalBytes + bytesOf (scheduler.packets lane) =
      scheduler.totalBytes + bytesOf queue.packets) :
    Accounted ({ scheduler with
      totalPackets := totalPackets
      totalBytes := totalBytes }.setQueue queue lane) := by
  have oldPackets := accounted.totalPackets
  have oldBytes := accounted.totalBytes
  rw [queuedPackets_eq] at oldPackets
  rw [queuedBytes_eq] at oldBytes
  constructor
  · intro other
    rw [queues_setQueue, packets_setQueue]
    by_cases same : other = lane
    · simpa [same] using own
    · rw [if_neg same, if_neg same]
      have held := accounted.lanes other
      cases other <;> exact held
  · rw [setQueue_totalPackets, queuedPackets_eq]
    cases lane <;> simp only [PacketScheduler.packets, queues, setQueue] at packets ⊢ <;> omega
  · rw [setQueue_totalBytes, queuedBytes_eq]
    cases lane <;> simp only [PacketScheduler.packets, queues, setQueue] at bytes ⊢ <;> omega

theorem create_accounted (profile : TransportLimits) : (create profile).Accounted := by
  constructor
  · intro lane
    cases lane <;> rfl
  · rfl
  · rfl

theorem Accounted.shift {removed : QueuedPacket} {rest : List QueuedPacket}
    (accounted : scheduler.Accounted) (held : scheduler.packets lane = removed :: rest) :
    (scheduler.shift lane removed rest).Accounted := by
  have bytes := accounted.lanes lane
  rw [held, bytesOf_cons] at bytes
  apply accounted.replace
  · simp only [bytes]
    omega
  · simp only [held, List.length_cons]
    omega
  · simp only [held, bytesOf_cons]
    omega

theorem Accounted.push (accounted : scheduler.Accounted) (packet : QueuedPacket) :
    (scheduler.push packet).Accounted := by
  have bytes := accounted.lanes packet.lane
  apply accounted.replace
  · simp only [bytes, packets, bytesOf_append, bytesOf_cons, bytesOf_nil]
    omega
  · simp only [packets, List.length_append, List.length_cons, List.length_nil]
    omega
  · simp only [packets, bytesOf_append, bytesOf_cons, bytesOf_nil]
    omega

theorem Accounted.clearLane (accounted : scheduler.Accounted) (lane : LaneName) :
    (scheduler.clearLane lane).Accounted := by
  have bytes := accounted.lanes lane
  apply accounted.replace
  · rfl
  · simp only [packets, List.length_nil]
    omega
  · simp only [bytes, bytesOf_nil]
    omega

theorem Accounted.clear (accounted : scheduler.Accounted) : scheduler.clear.Accounted :=
  (((accounted.clearLane .control).clearLane .voice).clearLane .text).clearLane .file

theorem Accounted.shed (accounted : scheduler.Accounted) (lane : LaneName) (count : Nat) :
    (scheduler.shed lane count).Accounted :=
  shed_induction Accounted count (fun _ _ _ held holds => holds.shift held) accounted

theorem Enqueued.accounted {ended : PacketScheduler × EnqueueResult}
    (enqueued : Enqueued scheduler packet ended) (accounted : scheduler.Accounted) :
    ended.1.Accounted := by
  cases enqueued with
  | oversized => exact accounted
  | accepted dropped => exact (accounted.shed packet.lane dropped).push packet
  | full dropped => exact accounted.shed packet.lane dropped

/-- The lane and packet of an answer of `next`. -/
theorem next_shift (served : scheduler.next = some (packet, after)) :
    ∃ lane rest, scheduler.nextLane = some lane ∧ scheduler.packets lane = packet :: rest ∧
      after = scheduler.shift lane packet rest := by
  unfold next at served
  split at served
  · cases served
  · rename_i lane chosen
    split at served
    · cases served
    · rename_i head rest held
      cases served
      exact ⟨lane, rest, chosen, held, rfl⟩

theorem Accounted.operate (accounted : scheduler.Accounted) (operation : Operation) :
    (scheduler.operate operation).1.Accounted := by
  cases operation with
  | enqueue packet => exact (enqueue_cases scheduler packet).accounted accounted
  | next =>
      simp only [PacketScheduler.operate]
      split
      · exact accounted
      · rename_i packet after served
        obtain ⟨lane, rest, _, held, rfl⟩ := next_shift served
        exact accounted.shift held
  | clear => exact accounted.clear
  | clearVolatile => exact accounted.clearLane .voice
  | setProfile profile => exact ⟨accounted.lanes, accounted.totalPackets, accounted.totalBytes⟩

end Counters

section Budgets

/-- Every lane and the whole outbox keep to the limits of the profile. -/
structure WithinBudget (scheduler : PacketScheduler) : Prop where
  lanePackets : ∀ lane,
    (scheduler.packets lane).length ≤ (scheduler.profile.lanes lane).maxPackets
  laneBytes : ∀ lane, (scheduler.queues lane).bytes ≤ (scheduler.profile.lanes lane).maxBytes
  packets : scheduler.totalPackets ≤ scheduler.profile.outbox.maxPackets
  bytes : scheduler.totalBytes ≤ scheduler.profile.outbox.maxBytes

theorem overflows_eq_false :
    scheduler.overflows packet = false ↔
      (scheduler.packets packet.lane).length < (scheduler.profile.lanes packet.lane).maxPackets ∧
      (scheduler.queues packet.lane).bytes + packet.bytes.length ≤
        (scheduler.profile.lanes packet.lane).maxBytes ∧
      scheduler.totalPackets < scheduler.profile.outbox.maxPackets ∧
      scheduler.totalBytes + packet.bytes.length ≤ scheduler.profile.outbox.maxBytes := by
  simp only [overflows, wouldOverflow, Bool.or_eq_false_iff, decide_eq_false_iff_not, not_le,
    not_lt, and_assoc, packets]

theorem WithinBudget.shift {removed : QueuedPacket} {rest : List QueuedPacket}
    (within : scheduler.WithinBudget) (held : scheduler.packets lane = removed :: rest) :
    (scheduler.shift lane removed rest).WithinBudget := by
  have lanePackets := within.lanePackets lane
  have laneBytes := within.laneBytes lane
  have packets := within.packets
  have bytes := within.bytes
  rw [held, List.length_cons] at lanePackets
  constructor
  · intro other
    rw [shift_packets, shift_profile]
    by_cases same : other = lane
    · rw [if_pos same, same]
      omega
    · rw [if_neg same]
      exact within.lanePackets other
  · intro other
    rw [PacketScheduler.shift, queues_setQueue, setQueue_profile]
    by_cases same : other = lane
    · rw [if_pos same, same]
      simp only
      omega
    · rw [if_neg same]
      have other := within.laneBytes other
      exact other
  · simp only [PacketScheduler.shift, setQueue_totalPackets, setQueue_profile]
    omega
  · simp only [PacketScheduler.shift, setQueue_totalBytes, setQueue_profile]
    omega

theorem WithinBudget.push (within : scheduler.WithinBudget)
    (room : scheduler.overflows packet = false) : (scheduler.push packet).WithinBudget := by
  obtain ⟨lanePackets, laneBytes, packets, bytes⟩ := overflows_eq_false.mp room
  constructor
  · intro other
    rw [push_packets, push_profile]
    by_cases same : other = packet.lane
    · rw [if_pos same, same, List.length_append, List.length_singleton]
      omega
    · rw [if_neg same, List.append_nil]
      exact within.lanePackets other
  · intro other
    rw [PacketScheduler.push, queues_setQueue, setQueue_profile]
    by_cases same : other = packet.lane
    · rw [if_pos same, same]
      exact laneBytes
    · rw [if_neg same]
      have other := within.laneBytes other
      exact other
  · simp only [PacketScheduler.push, setQueue_totalPackets, setQueue_profile]
    omega
  · simp only [PacketScheduler.push, setQueue_totalBytes, setQueue_profile]
    omega

theorem WithinBudget.shed (within : scheduler.WithinBudget) (lane : LaneName) (count : Nat) :
    (scheduler.shed lane count).WithinBudget :=
  shed_induction WithinBudget count (fun _ _ _ held holds => holds.shift held) within

theorem Enqueued.withinBudget {ended : PacketScheduler × EnqueueResult}
    (enqueued : Enqueued scheduler packet ended) (within : scheduler.WithinBudget) :
    ended.1.WithinBudget := by
  cases enqueued with
  | oversized => exact within
  | accepted dropped _ _ _ room => exact (within.shed packet.lane dropped).push room
  | full dropped => exact within.shed packet.lane dropped

theorem Accounted.bytes_nonneg (accounted : scheduler.Accounted) (lane : LaneName) :
    0 ≤ (scheduler.queues lane).bytes := by
  rw [accounted.lanes lane]
  omega

theorem WithinBudget.clearLane (within : scheduler.WithinBudget) (accounted : scheduler.Accounted)
    (lane : LaneName) : (scheduler.clearLane lane).WithinBudget := by
  have packets := within.packets
  have bytes := within.bytes
  have counted := accounted.bytes_nonneg lane
  constructor
  · intro other
    rw [clearLane_packets, clearLane_profile]
    by_cases same : other = lane
    · rw [if_pos same]
      exact Nat.zero_le _
    · rw [if_neg same]
      exact within.lanePackets other
  · intro other
    rw [PacketScheduler.clearLane, queues_setQueue, setQueue_profile]
    by_cases same : other = lane
    · rw [if_pos same]
      exact Int.natCast_nonneg _
    · rw [if_neg same]
      have other := within.laneBytes other
      exact other
  · simp only [PacketScheduler.clearLane, setQueue_totalPackets, setQueue_profile]
    omega
  · simp only [PacketScheduler.clearLane, setQueue_totalBytes, setQueue_profile]
    omega

theorem WithinBudget.clear (within : scheduler.WithinBudget) (accounted : scheduler.Accounted) :
    scheduler.clear.WithinBudget := by
  have control := within.clearLane accounted .control
  have voice := control.clearLane (accounted.clearLane .control) .voice
  have text := voice.clearLane ((accounted.clearLane .control).clearLane .voice) .text
  exact text.clearLane (((accounted.clearLane .control).clearLane .voice).clearLane .text) .file

/-- Empty lanes keep to any budget. -/
theorem withinBudget_of_empty (accounted : scheduler.Accounted)
    (empty : ∀ lane, scheduler.packets lane = []) : scheduler.WithinBudget := by
  constructor
  · intro lane
    simp [empty lane]
  · intro lane
    simp [accounted.lanes lane, empty lane]
  · rw [accounted.totalPackets]
    simp [queuedPackets, empty, laneNames]
  · rw [accounted.totalBytes]
    simp [queuedBytes, empty, laneNames]

/-- Operations that leave the profile as it is. -/
def KeepsProfile (scheduler : PacketScheduler) : Operation → Prop
  | .setProfile profile => profile = scheduler.profile
  | _ => True

theorem WithinBudget.operate (within : scheduler.WithinBudget) (accounted : scheduler.Accounted)
    {operation : Operation} (keeps : scheduler.KeepsProfile operation) :
    (scheduler.operate operation).1.WithinBudget := by
  cases operation with
  | enqueue packet => exact (enqueue_cases scheduler packet).withinBudget within
  | next =>
      simp only [PacketScheduler.operate]
      split
      · exact within
      · rename_i packet after served
        obtain ⟨lane, rest, _, held, rfl⟩ := next_shift served
        exact within.shift held
  | clear => exact within.clear accounted
  | clearVolatile => exact within.clearLane accounted .voice
  | setProfile profile =>
      cases keeps
      exact within

end Budgets

section Runs
variable {profile : TransportLimits} {history : List Answer}

theorem run_accounted {allowed : PacketScheduler → Operation → Prop}
    (accounted : before.Accounted) (run : machine.Run allowed before after history) :
    after.Accounted := by
  apply run.state_invariant Accounted accounted
  intro state operation next outputs holds _ stepped
  have kept := holds.operate operation
  rw [Option.some.inj stepped] at kept
  exact kept

theorem run_withinBudget (accounted : before.Accounted) (within : before.WithinBudget)
    (run : machine.Run KeepsProfile before after history) : after.WithinBudget := by
  have both : after.Accounted ∧ after.WithinBudget := by
    apply run.state_invariant (fun state => state.Accounted ∧ state.WithinBudget) ⟨accounted, within⟩
    intro state operation next outputs holds keeps stepped
    have counted := holds.1.operate operation
    have bounded := holds.2.operate holds.1 keeps
    rw [Option.some.inj stepped] at counted bounded
    exact ⟨counted, bounded⟩
  exact both.2

/-- Every counter is the sum it stands for after any operations under any
profiles, and from any moment with empty lanes on the limits hold for as long as
the profile stays. -/
theorem counters_exact (run : machine.Run Machine.Unrestricted (create profile) before history) :
    ((∀ lane, (before.queues lane).bytes = bytesOf (before.packets lane)) ∧
      before.totalPackets = before.queuedPackets ∧ before.totalBytes = before.queuedBytes ∧
      0 ≤ before.totalPackets ∧ 0 ≤ before.totalBytes) ∧
    ((∀ lane, before.packets lane = []) →
      ∀ after later, machine.Run KeepsProfile before after later → after.WithinBudget) := by
  have accounted := run_accounted (create_accounted profile) run
  constructor
  · have packets := accounted.totalPackets
    have bytes := accounted.totalBytes
    refine ⟨accounted.lanes, packets, bytes, ?_, ?_⟩
    · rw [packets]
      exact Int.natCast_nonneg _
    · rw [bytes]
      exact Int.natCast_nonneg _
  · intro empty after later further
    exact run_withinBudget accounted (withinBudget_of_empty accounted empty) further

/-- A packet is sent, and the profile changes before the lanes are emptied. -/
def sampleOperations : List Operation :=
  [.enqueue ⟨.text, [1, 2, 3]⟩, .enqueue ⟨.voice, [4]⟩, .next,
    .setProfile (transportLimits .lowData), .clear]

/-- The scheduler these operations leave accounts for them, and stays within the
new limits when it takes a packet. -/
theorem sample_counters :
    ∃ state history,
      machine.Run Machine.Unrestricted (create (transportLimits .balanced)) state history ∧
      state.profile = transportLimits .lowData ∧ state.totalPackets = state.queuedPackets ∧
      (state.enqueue ⟨.file, [5, 6]⟩).1.WithinBudget := by
  have ran : (machine.execute (create (transportLimits .balanced)) sampleOperations).map
      Prod.fst = some (create (transportLimits .lowData)) := by
    decide +kernel
  obtain ⟨⟨state, history⟩, executed, rfl⟩ := Option.map_eq_some_iff.mp ran
  have run := Machine.execute_run _ (Machine.along_unrestricted _ _) executed
  have counted := counters_exact run
  have empty : ∀ lane, (create (transportLimits .lowData)).packets lane = [] := by
    intro lane
    cases lane <;> rfl
  have admitted : KeepsProfile (create (transportLimits .lowData)) (.enqueue ⟨.file, [5, 6]⟩) :=
    trivial
  have further : machine.Run KeepsProfile (create (transportLimits .lowData))
      ((create (transportLimits .lowData)).enqueue ⟨.file, [5, 6]⟩).1 _ :=
    .next .refl admitted rfl
  exact ⟨_, history, run, rfl, counted.1.2.1, counted.2 empty _ _ further⟩

end Runs

end PacketScheduler

end OnlyTwo.Transport
