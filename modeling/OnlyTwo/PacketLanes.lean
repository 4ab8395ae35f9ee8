import OnlyTwo.LaneQueues
import OnlyTwo.PacketAccounting

/-!
The packet scheduler as four FIFO lanes. Under the profiles of `PROFILES` the
lanes other than voice never drop, a frame always fits the voice lane, and the
byte budgets of the lanes together fit the outbox (`Tiered`); so an `enqueue`
that fails has dropped nothing, and every operation is a step of the lanes of
`OnlyTwo.Lanes`. The packet limits do not add up in this way, and the last section
says when the outbox refuses a control packet that its own lane has room for.
-/

namespace OnlyTwo.Transport

open Bytes AppMessages

namespace PacketScheduler

/-- Control, then voice, then text, then file. -/
def Above (first second : LaneName) : Prop :=
  laneNames.idxOf first < laneNames.idxOf second

instance (first second : LaneName) : Decidable (Above first second) :=
  inferInstanceAs (Decidable (_ < _))

/-- What the profiles have in common. -/
structure Tiered (profile : TransportLimits) : Prop where
  lasting : ∀ lane, lane ≠ .voice → (profile.lanes lane).dropPolicy = .fail
  voiceFirst : profile.voice.priority < profile.control.priority
  textFirst : profile.text.priority < profile.voice.priority
  fileLast : profile.file.priority < profile.text.priority
  voiceFits : profile.maxFrameBytes ≤ profile.voice.maxBytes
  voicePackets : 0 < profile.voice.maxPackets
  shares : profile.control.maxBytes + profile.voice.maxBytes + profile.text.maxBytes +
    profile.file.maxBytes ≤ profile.outbox.maxBytes

theorem transportLimits_tiered (id : TransportProfileId) : Tiered (transportLimits id) := by
  constructor
  · intro lane other
    cases id <;> cases lane <;> first | rfl | exact absurd rfl other
  all_goals cases id <;> decide

variable {scheduler before after : PacketScheduler} {lane : LaneName} {packet : QueuedPacket}

section Serving

theorem mem_laneNames (lane : LaneName) : lane ∈ laneNames := by
  cases lane <;> decide

/-- No lane is served exactly when all are empty, whatever the profile. -/
theorem nextLane_none : scheduler.nextLane = none ↔ ∀ lane, scheduler.packets lane = [] := by
  unfold nextLane
  rw [List.head?_eq_none_iff, ← List.length_eq_zero_iff, List.length_insertionSort,
    List.length_eq_zero_iff, List.filter_eq_nil_iff]
  constructor
  · intro none lane
    have waits := none lane (mem_laneNames lane)
    simpa [packets] using waits
  · intro empty lane _
    have waits := empty lane
    simpa [packets] using waits

theorem nextLane_holds (chosen : scheduler.nextLane = some lane) : scheduler.packets lane ≠ [] := by
  have member := List.mem_of_head? chosen
  rw [List.mem_insertionSort, List.mem_filter] at member
  simpa [packets] using member.2

theorem next_none : scheduler.next = none ↔ ∀ lane, scheduler.packets lane = [] := by
  rw [← nextLane_none]
  unfold next
  cases chosen : scheduler.nextLane with
  | none => simp
  | some lane =>
      have waits := nextLane_holds chosen
      simp only [packets] at waits
      cases held : (scheduler.queues lane).packets with
      | nil => exact absurd held waits
      | cons packet rest => simp [held]

theorem nextLane_find (tiered : Tiered scheduler.profile) :
    scheduler.nextLane = laneNames.find? fun lane => !(scheduler.queues lane).packets.isEmpty := by
  have sorted : laneNames.Pairwise fun first second =>
      (scheduler.profile.lanes second).priority ≤ (scheduler.profile.lanes first).priority := by
    have voice := tiered.voiceFirst
    have text := tiered.textFirst
    have file := tiered.fileLast
    simp only [laneNames, List.pairwise_cons, List.mem_cons, List.not_mem_nil, or_false,
      forall_eq_or_imp, forall_eq, TransportLimits.lanes]
    refine ⟨⟨?_, ?_, ?_⟩, ⟨?_, ?_⟩, ?_, by simp⟩ <;> omega
  unfold nextLane
  rw [(sorted.filter _).insertionSort_eq, List.head?_filter]

/-- The lane served is above every other lane that waits. -/
theorem nextLane_above (tiered : Tiered scheduler.profile) (chosen : scheduler.nextLane = some lane)
    {other : LaneName} (different : other ≠ lane) (waits : scheduler.packets other ≠ []) :
    Above lane other := by
  rw [nextLane_find tiered, List.find?_eq_some_iff_append] at chosen
  obtain ⟨_, earlier, later, split, empty⟩ := chosen
  have idle : other ∉ earlier := by
    intro member
    have gone := empty other member
    exact waits (by simpa [packets] using gone)
  unfold Above
  have nodup : laneNames.Nodup := by decide
  rw [split] at nodup ⊢
  have fresh : lane ∉ earlier := by
    intro member
    exact (List.disjoint_of_nodup_append nodup) member List.mem_cons_self
  rw [List.idxOf_append_of_notMem idle, List.idxOf_append_of_notMem fresh, List.idxOf_cons_self,
    List.idxOf_cons_ne _ different.symm]
  omega

end Serving

section Refusal

theorem shed_totalPackets (accounted : scheduler.Accounted) (lane : LaneName) (count : Nat)
    (bound : count ≤ (scheduler.packets lane).length) :
    (scheduler.shed lane count).totalPackets = scheduler.totalPackets - count := by
  rw [(accounted.shed lane count).totalPackets, accounted.totalPackets, queuedPackets_eq,
    queuedPackets_eq]
  have after := scheduler.shed_packets lane
  simp only [packets] at after bound
  have control := congrArg List.length (after .control count)
  have voice := congrArg List.length (after .voice count)
  have text := congrArg List.length (after .text count)
  have file := congrArg List.length (after .file count)
  cases lane <;> simp [queues] at control voice text file bound <;> omega

/-- With no voice packet left, the other lanes leave room for any frame. -/
theorem room_without_voice (tiered : Tiered scheduler.profile) (accounted : scheduler.Accounted)
    (within : scheduler.WithinBudget) (voice : packet.lane = .voice)
    (fits : packet.bytes.length ≤ scheduler.profile.maxFrameBytes)
    (empty : scheduler.packets .voice = [])
    (room : scheduler.totalPackets < scheduler.profile.outbox.maxPackets) :
    scheduler.overflows packet = false := by
  have own := accounted.lanes .voice
  rw [empty, bytesOf_nil] at own
  have bytes := accounted.totalBytes
  rw [queuedBytes_eq] at bytes
  have none : bytesOf scheduler.voice.packets = 0 := by
    have held : scheduler.voice.packets = [] := empty
    rw [held, bytesOf_nil]
  have control := within.laneBytes .control
  have text := within.laneBytes .text
  have file := within.laneBytes .file
  rw [accounted.lanes] at control text file
  simp only [TransportLimits.lanes, packets, queues] at control text file
  have frame := tiered.voiceFits
  have shares := tiered.shares
  rw [overflows_eq_false, voice, empty, own]
  simp only [TransportLimits.lanes, List.length_nil]
  refine ⟨tiered.voicePackets, ?_, room, ?_⟩
  · omega
  · omega

/-- An `enqueue` that fails has dropped nothing. -/
theorem enqueue_refused (tiered : Tiered scheduler.profile) (accounted : scheduler.Accounted)
    (within : scheduler.WithinBudget) (refused : (scheduler.enqueue packet).2.ok = false) :
    (scheduler.enqueue packet).1 = scheduler ∧ (scheduler.enqueue packet).2.dropped = 0 := by
  have ended := enqueue_cases scheduler packet
  generalize scheduler.enqueue packet = result at ended refused ⊢
  cases ended with
  | oversized => exact ⟨rfl, rfl⟩
  | accepted => cases refused
  | full dropped fits bound keeps drops overflow =>
      suffices none : dropped = 0 by
        subst none
        exact ⟨rfl, rfl⟩
      by_cases voice : packet.lane = .voice
      · by_contra some
        -- The voice lane held a packet, so without its packets the outbox has room.
        have all : dropped = (scheduler.packets packet.lane).length := by
          by_contra fewer
          exact some (keeps fun policy => fewer (drops policy))
        have total := shed_totalPackets accounted packet.lane dropped bound
        have limit := within.packets
        have empty : (scheduler.shed packet.lane dropped).packets .voice = [] := by
          rw [shed_packets, if_pos voice.symm, all, List.drop_length]
        have room := room_without_voice (by simpa using tiered)
          (accounted.shed packet.lane dropped) (within.shed packet.lane dropped) voice
          (by simpa using fits) empty (by rw [shed_profile]; omega)
        rw [room] at overflow
        cases overflow
      · apply keeps
        rw [tiered.lasting packet.lane voice]
        decide

end Refusal

section Refinement

/-- An answer as a change of the lanes. -/
def Answer.change : Answer → Lanes.Change LaneName QueuedPacket
  | .enqueued packet result =>
      if result.ok then .accepted packet result.dropped else .refused packet
  | .returned none => .idle
  | .returned (some packet) => .served packet
  | .emptied lane packets => .discarded lane packets

/-- Four FIFO lanes, of which voice may drop its oldest packets. -/
def FourLanes : (LaneName → List QueuedPacket) → List (Lanes.Change LaneName QueuedPacket) →
    (LaneName → List QueuedPacket) → Prop :=
  Lanes.Steps QueuedPacket.lane (· = .voice) Above

theorem shift_update (lane : LaneName) (removed : QueuedPacket) (rest : List QueuedPacket) :
    (scheduler.shift lane removed rest).packets =
      Function.update scheduler.packets lane rest := by
  funext other
  rw [shift_packets, Function.update_apply]

theorem clearLane_update (lane : LaneName) :
    (scheduler.clearLane lane).packets = Function.update scheduler.packets lane [] := by
  funext other
  rw [clearLane_packets, Function.update_apply]

theorem shed_push_update (dropped : Nat) :
    ((scheduler.shed packet.lane dropped).push packet).packets =
      Function.update scheduler.packets packet.lane
        ((scheduler.packets packet.lane).drop dropped ++ [packet]) := by
  funext other
  rw [push_packets, shed_packets, Function.update_apply]
  by_cases same : other = packet.lane
  · simp [same]
  · simp [same]

theorem enqueue_lanes (tiered : Tiered scheduler.profile) (accounted : scheduler.Accounted)
    (within : scheduler.WithinBudget) (packet : QueuedPacket) :
    FourLanes scheduler.packets [(Answer.enqueued packet (scheduler.enqueue packet).2).change]
      (scheduler.enqueue packet).1.packets := by
  have unchanged : (scheduler.enqueue packet).2.ok = false → _ :=
    enqueue_refused tiered accounted within
  have ended := enqueue_cases scheduler packet
  generalize scheduler.enqueue packet = result at ended unchanged ⊢
  apply Lanes.Step.steps
  cases ended with
  | oversized => exact .refused packet
  | accepted dropped fits bound drops room =>
      rw [shed_push_update]
      refine .accepted packet dropped (fun some => ?_) bound
      by_contra lasting
      have policy := drops some
      rw [tiered.lasting packet.lane lasting] at policy
      cases policy
  | full dropped =>
      rw [(unchanged rfl).1]
      exact .refused packet

theorem next_lanes (tiered : Tiered scheduler.profile) :
    FourLanes scheduler.packets ((scheduler.operate .next).2.map Answer.change)
      (scheduler.operate .next).1.packets := by
  simp only [operate]
  split
  · rename_i none
    exact (Lanes.Step.idle (next_none.mp none)).steps
  · rename_i packet after served
    obtain ⟨lane, rest, chosen, held, rfl⟩ := next_shift served
    rw [shift_update]
    exact (Lanes.Step.served lane packet rest held fun other different waits =>
      nextLane_above tiered chosen different waits).steps

theorem clearLane_lanes (scheduler : PacketScheduler) (lane : LaneName) :
    FourLanes scheduler.packets [.discarded lane (scheduler.packets lane)]
      (scheduler.clearLane lane).packets := by
  rw [clearLane_update]
  exact (Lanes.Step.discarded lane).steps

theorem clear_lanes :
    FourLanes scheduler.packets ((scheduler.operate .clear).2.map Answer.change)
      scheduler.clear.packets := by
  have control := scheduler.clearLane_lanes .control
  have voice := (scheduler.clearLane .control).clearLane_lanes .voice
  have text := ((scheduler.clearLane .control).clearLane .voice).clearLane_lanes .text
  have file :=
    (((scheduler.clearLane .control).clearLane .voice).clearLane .text).clearLane_lanes .file
  exact ((control.append voice).append text).append file

/-- Every operation under a profile of the table is a step of the lanes. -/
theorem operate_lanes (tiered : Tiered scheduler.profile) (accounted : scheduler.Accounted)
    (within : scheduler.WithinBudget) {operation : Operation}
    (keeps : scheduler.KeepsProfile operation) :
    FourLanes scheduler.packets ((scheduler.operate operation).2.map Answer.change)
      (scheduler.operate operation).1.packets := by
  cases operation with
  | enqueue packet => exact enqueue_lanes tiered accounted within packet
  | next => exact next_lanes tiered
  | clear => exact clear_lanes
  | clearVolatile => exact scheduler.clearLane_lanes .voice
  | setProfile profile =>
      have same : (scheduler.setProfile profile).packets = scheduler.packets :=
        funext (scheduler.setProfile_packets profile)
      simp only [operate, same]
      exact .refl

theorem operate_profile {operation : Operation} (keeps : scheduler.KeepsProfile operation) :
    (scheduler.operate operation).1.profile = scheduler.profile := by
  cases operation with
  | enqueue packet =>
      have ended := enqueue_cases scheduler packet
      simp only [operate]
      generalize scheduler.enqueue packet = result at ended ⊢
      cases ended with
      | oversized => rfl
      | accepted => simp
      | full => simp
  | next =>
      simp only [operate]
      split
      · rfl
      · rename_i packet after served
        obtain ⟨lane, rest, _, _, rfl⟩ := next_shift served
        exact shift_profile _ _ _ _
  | clear => exact clear_profile scheduler
  | clearVolatile => exact clearLane_profile scheduler .voice
  | setProfile profile => exact keeps

/-- What a run under one profile of the table keeps. -/
structure Regular (profile : TransportLimits) (scheduler : PacketScheduler)
    (history : List Answer) : Prop where
  profile : scheduler.profile = profile
  accounted : scheduler.Accounted
  within : scheduler.WithinBudget
  lanes : FourLanes (fun _ => []) (history.map Answer.change) scheduler.packets

theorem run_regular {id : TransportProfileId} {history : List Answer}
    (run : machine.Run KeepsProfile (create (transportLimits id)) scheduler history) :
    Regular (transportLimits id) scheduler history := by
  have created : ∀ lane, (create (transportLimits id)).packets lane = [] := by
    intro lane
    cases lane <;> rfl
  apply run.invariant (Regular (transportLimits id))
  · constructor
    · rfl
    · exact create_accounted _
    · exact withinBudget_of_empty (create_accounted _) created
    · rw [funext created]
      exact .refl
  · intro before past operation after outputs holds keeps stepped
    have tiered : Tiered before.profile := holds.profile ▸ transportLimits_tiered id
    have profile := operate_profile keeps
    have accounted := holds.accounted.operate operation
    have within := holds.within.operate holds.accounted keeps
    have lanes := operate_lanes tiered holds.accounted holds.within keeps
    rw [Option.some.inj stepped] at profile accounted within lanes
    refine ⟨profile.trans holds.profile, accounted, within, ?_⟩
    rw [List.map_append]
    exact holds.lanes.append lanes

/-- In every reachable state each operation is a step of four FIFO lanes with
strict priority; so is the whole run, what a lane other than voice accepted is what
it released and holds, and a refused packet leaves the scheduler as it was. -/
theorem scheduler_refines_lanes {id : TransportProfileId} {history : List Answer}
    (run : machine.Run KeepsProfile (create (transportLimits id)) scheduler history) :
    (∀ operation, scheduler.KeepsProfile operation →
      FourLanes scheduler.packets ((scheduler.operate operation).2.map Answer.change)
        (scheduler.operate operation).1.packets) ∧
    FourLanes (fun _ => []) (history.map Answer.change) scheduler.packets ∧
    (∀ lane, lane ≠ .voice →
      Lanes.accepted QueuedPacket.lane lane (history.map Answer.change) =
        Lanes.released QueuedPacket.lane lane (history.map Answer.change) ++
          scheduler.packets lane) ∧
    ∀ packet, (scheduler.enqueue packet).2.ok = false →
      (scheduler.enqueue packet).1 = scheduler := by
  have regular := run_regular run
  have tiered : Tiered scheduler.profile := regular.profile ▸ transportLimits_tiered id
  refine ⟨fun operation => ?_, regular.lanes, fun lane lasting => ?_, fun packet refused => ?_⟩
  · exact operate_lanes tiered regular.accounted regular.within
  · have ledger := regular.lanes.conserves (by simp [Lanes.Filed]) lasting
    simpa using ledger
  · exact (enqueue_refused tiered regular.accounted regular.within refused).1

/-- Two voice packets and a text packet, one of them served. -/
theorem sample_refinement :
    ∃ scheduler history,
      machine.Run KeepsProfile (create (transportLimits .balanced)) scheduler history ∧
      history.map Answer.change =
        [.accepted ⟨.text, [1]⟩ 0, .accepted ⟨.voice, [2]⟩ 0, .served ⟨.voice, [2]⟩] ∧
      Lanes.accepted QueuedPacket.lane .text (history.map Answer.change) =
        Lanes.released QueuedPacket.lane .text (history.map Answer.change) ++
          scheduler.packets .text := by
  have ran : (machine.execute (create (transportLimits .balanced))
      [.enqueue ⟨.text, [1]⟩, .enqueue ⟨.voice, [2]⟩, .next]).map
        (fun result => result.2.map Answer.change) =
      some [.accepted ⟨.text, [1]⟩ 0, .accepted ⟨.voice, [2]⟩ 0, .served ⟨.voice, [2]⟩] := by
    decide +kernel
  obtain ⟨⟨scheduler, history⟩, executed, changes⟩ := Option.map_eq_some_iff.mp ran
  have along : machine.Along KeepsProfile (create (transportLimits .balanced))
      [.enqueue ⟨.text, [1]⟩, .enqueue ⟨.voice, [2]⟩, .next] :=
    Machine.along_of_forall _ _ (by simp [KeepsProfile])
  have run := Machine.execute_run _ along executed
  exact ⟨scheduler, history, run, changes,
    (scheduler_refines_lanes run).2.2.1 .text (by decide)⟩

end Refinement

section Isolation

/-- A control packet that its own lane has room for. -/
def ControlRoom (scheduler : PacketScheduler) (packet : QueuedPacket) : Prop :=
  packet.lane = .control ∧ packet.bytes.length ≤ scheduler.profile.maxFrameBytes ∧
    (scheduler.packets .control).length < scheduler.profile.control.maxPackets ∧
    (scheduler.queues .control).bytes + packet.bytes.length ≤ scheduler.profile.control.maxBytes

instance (scheduler : PacketScheduler) (packet : QueuedPacket) :
    Decidable (scheduler.ControlRoom packet) :=
  inferInstanceAs (Decidable (_ ∧ _ ∧ _ ∧ _))

/-- A lane that does not drop accepts a frame exactly when nothing overflows. -/
theorem enqueue_ok (keeps : (scheduler.profile.lanes packet.lane).dropPolicy = .fail)
    (fits : packet.bytes.length ≤ scheduler.profile.maxFrameBytes) :
    (scheduler.enqueue packet).2.ok = true ↔ scheduler.overflows packet = false := by
  have ended := enqueue_cases scheduler packet
  generalize scheduler.enqueue packet = result at ended ⊢
  cases ended with
  | oversized large => exact absurd fits (not_le.mpr large)
  | accepted dropped _ _ drops room =>
      have none : dropped = 0 := by
        by_contra some
        have policy := drops (Nat.pos_of_ne_zero some)
        rw [keeps] at policy
        cases policy
      subst none
      simpa using room
  | full dropped _ _ none _ overflow =>
      have kept := none (by rw [keeps]; decide)
      subst kept
      simpa using overflow

/-- The byte budgets leave room for control in every lane filling; the packet limit
of the outbox decides. -/
theorem control_accepted {id : TransportProfileId} {history : List Answer}
    (run : machine.Run KeepsProfile (create (transportLimits id)) scheduler history)
    (room : scheduler.ControlRoom packet) :
    (scheduler.enqueue packet).2.ok = true ↔
      scheduler.queuedPackets < (transportLimits id).outbox.maxPackets := by
  have regular := run_regular run
  obtain ⟨control, fits, packets, bytes⟩ := room
  have tiered : Tiered scheduler.profile := regular.profile ▸ transportLimits_tiered id
  have keeps : (scheduler.profile.lanes packet.lane).dropPolicy = .fail := by
    apply tiered.lasting
    rw [control]
    decide
  rw [enqueue_ok keeps fits, overflows_eq_false, control, regular.accounted.totalPackets,
    regular.accounted.totalBytes, queuedBytes_eq, ← regular.profile]
  have shares := tiered.shares
  have voice := regular.within.laneBytes .voice
  have text := regular.within.laneBytes .text
  have file := regular.within.laneBytes .file
  have own := regular.accounted.lanes .control
  rw [own] at bytes
  rw [regular.accounted.lanes] at voice text file
  simp only [TransportLimits.lanes, PacketScheduler.packets, queues] at voice text file own bytes ⊢
  constructor
  · rintro ⟨_, _, total, _⟩
    omega
  · intro total
    refine ⟨packets, ?_, ?_, ?_⟩ <;> omega

/-- With its text lane below its own limit, the low-data profile accepts control. -/
theorem sample_control :
    (((create (transportLimits .lowData)).enqueue ⟨.text, [7]⟩).1.enqueue
      ⟨.control, [1]⟩).2.ok = true := by
  have admitted : KeepsProfile (create (transportLimits .lowData)) (.enqueue ⟨.text, [7]⟩) :=
    trivial
  have run : machine.Run KeepsProfile (create (transportLimits .lowData))
      ((create (transportLimits .lowData)).enqueue ⟨.text, [7]⟩).1 _ :=
    .next .refl admitted rfl
  exact (control_accepted run (by decide +kernel)).mpr (by decide +kernel)

/-- Text packets alone fill the outbox of the low-data profile: the empty control
lane is refused its first packet. -/
theorem control_starved :
    ∃ scheduler history,
      machine.Run KeepsProfile (create (transportLimits .lowData)) scheduler history ∧
      machine.execute (create (transportLimits .lowData))
        (List.replicate 192 (.enqueue ⟨.text, [7]⟩)) = some (scheduler, history) ∧
      scheduler.packets .control = [] ∧ scheduler.ControlRoom ⟨.control, [1]⟩ ∧
      (scheduler.enqueue ⟨.control, [1]⟩).2 = ⟨false, 0, some .queueFull⟩ := by
  have ran : (machine.execute (create (transportLimits .lowData))
      (List.replicate 192 (.enqueue ⟨.text, [7]⟩))).any (fun result =>
        decide (result.1.packets .control = [] ∧ result.1.ControlRoom ⟨.control, [1]⟩ ∧
          (result.1.enqueue ⟨.control, [1]⟩).2 = ⟨false, 0, some .queueFull⟩)) = true := by
    decide +kernel
  obtain ⟨⟨scheduler, history⟩, executed, holds⟩ := (Option.any_eq_true _ _).mp ran
  have along : machine.Along KeepsProfile (create (transportLimits .lowData))
      (List.replicate 192 (.enqueue ⟨.text, [7]⟩)) := by
    apply Machine.along_of_forall
    intro operation member state
    rw [List.eq_of_mem_replicate member]
    trivial
  have run := Machine.execute_run _ along executed
  exact ⟨scheduler, history, run, executed, of_decide_eq_true holds⟩

end Isolation

end PacketScheduler

end OnlyTwo.Transport
