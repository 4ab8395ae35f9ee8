import Mathlib.Data.List.Sort
import OnlyTwo.AppMessages

/-!
The outbound lanes of client/src/transport/PacketScheduler.ts, with the limits
that client/src/config/profiles.ts gives the transport. The byte counters are
integers, as the source subtracts from them without a check.
-/

namespace OnlyTwo.Transport

open Bytes AppMessages

export Profiles (DropPolicy LaneBudget OutboxLimits)

/-- What the transport reads of a profile; delays are left out. -/
structure TransportLimits where
  protocolVersion : Nat
  maxFrameBytes : Nat
  outbox : OutboxLimits
  control : LaneBudget
  voice : LaneBudget
  text : LaneBudget
  file : LaneBudget
  maxReconnectAttempts : Nat
  deriving DecidableEq, Repr

def TransportLimits.lanes (profile : TransportLimits) : LaneName → LaneBudget
  | .control => profile.control
  | .voice => profile.voice
  | .text => profile.text
  | .file => profile.file

def transportLimits (id : TransportProfileId) : TransportLimits :=
  let profile := Profiles.getProfile id
  { protocolVersion := profile.protocolVersion
    maxFrameBytes := profile.maxFrameBytes
    outbox := profile.outbox.toOutboxLimits
    control := profile.lanes.control
    voice := profile.lanes.voice
    text := profile.lanes.text
    file := profile.lanes.file
    maxReconnectAttempts := profile.reconnect.maxAttempts }

structure QueuedPacket where
  lane : LaneName
  bytes : Bytes
  deriving DecidableEq, Repr

structure LaneQueue where
  packets : List QueuedPacket
  bytes : Int
  deriving DecidableEq, Repr

inductive EnqueueError where
  | frameTooLarge
  | queueFull
  deriving DecidableEq, Repr

structure EnqueueResult where
  ok : Bool
  dropped : Nat
  reason : Option EnqueueError
  deriving DecidableEq, Repr

def laneNames : List LaneName := [.control, .voice, .text, .file]

structure PacketScheduler where
  profile : TransportLimits
  control : LaneQueue
  voice : LaneQueue
  text : LaneQueue
  file : LaneQueue
  totalPackets : Int
  totalBytes : Int
  deriving DecidableEq, Repr

namespace PacketScheduler

def create (profile : TransportLimits) : PacketScheduler where
  profile := profile
  control := ⟨[], 0⟩
  voice := ⟨[], 0⟩
  text := ⟨[], 0⟩
  file := ⟨[], 0⟩
  totalPackets := 0
  totalBytes := 0

def queues (scheduler : PacketScheduler) : LaneName → LaneQueue
  | .control => scheduler.control
  | .voice => scheduler.voice
  | .text => scheduler.text
  | .file => scheduler.file

def setQueue (scheduler : PacketScheduler) (queue : LaneQueue) : LaneName → PacketScheduler
  | .control => { scheduler with control := queue }
  | .voice => { scheduler with voice := queue }
  | .text => { scheduler with text := queue }
  | .file => { scheduler with file := queue }

def setProfile (scheduler : PacketScheduler) (profile : TransportLimits) : PacketScheduler :=
  { scheduler with profile := profile }

def wouldOverflow (scheduler : PacketScheduler) (queue : LaneQueue) (budget : LaneBudget)
    (nextBytes : Nat) : Bool :=
  decide (budget.maxPackets ≤ queue.packets.length) ||
    decide (budget.maxBytes < queue.bytes + nextBytes) ||
    decide (scheduler.profile.outbox.maxPackets ≤ scheduler.totalPackets) ||
    decide (scheduler.profile.outbox.maxBytes < scheduler.totalBytes + nextBytes)

/-- The oldest packet of a lane goes; `rest` is what is left of the lane. -/
def shift (scheduler : PacketScheduler) (lane : LaneName) (removed : QueuedPacket)
    (rest : List QueuedPacket) : PacketScheduler :=
  let size : Int := removed.bytes.length
  { scheduler with
    totalPackets := scheduler.totalPackets - 1
    totalBytes := scheduler.totalBytes - size }.setQueue
      ⟨rest, (scheduler.queues lane).bytes - size⟩ lane

def push (scheduler : PacketScheduler) (packet : QueuedPacket) : PacketScheduler :=
  let queue := scheduler.queues packet.lane
  let size : Int := packet.bytes.length
  { scheduler with
    totalPackets := scheduler.totalPackets + 1
    totalBytes := scheduler.totalBytes + size }.setQueue
      ⟨queue.packets ++ [packet], queue.bytes + size⟩ packet.lane

def overflows (scheduler : PacketScheduler) (packet : QueuedPacket) : Bool :=
  scheduler.wouldOverflow (scheduler.queues packet.lane) (scheduler.profile.lanes packet.lane)
    packet.bytes.length

/-- The loop of `enqueue`; the list holds the packets of the lane that are left. -/
def makeRoom (scheduler : PacketScheduler) (packet : QueuedPacket) (dropped : Nat) :
    List QueuedPacket → PacketScheduler × EnqueueResult
  | [] =>
      if scheduler.overflows packet then (scheduler, ⟨false, dropped, some .queueFull⟩)
      else (scheduler.push packet, ⟨true, dropped, none⟩)
  | removed :: rest =>
      if scheduler.overflows packet then
        if (scheduler.profile.lanes packet.lane).dropPolicy = .dropOldest then
          (scheduler.shift packet.lane removed rest).makeRoom packet (dropped + 1) rest
        else (scheduler, ⟨false, dropped, some .queueFull⟩)
      else (scheduler.push packet, ⟨true, dropped, none⟩)

def enqueue (scheduler : PacketScheduler) (packet : QueuedPacket) :
    PacketScheduler × EnqueueResult :=
  if scheduler.profile.maxFrameBytes < packet.bytes.length then
    (scheduler, ⟨false, 0, some .frameTooLarge⟩)
  else scheduler.makeRoom packet 0 (scheduler.queues packet.lane).packets

/-- The lane `next` serves: among those with packets, the first of the highest
priority, as the source's sort is stable. -/
def nextLane (scheduler : PacketScheduler) : Option LaneName :=
  ((laneNames.filter fun lane => !(scheduler.queues lane).packets.isEmpty).insertionSort
    fun first second => (scheduler.profile.lanes second).priority ≤
      (scheduler.profile.lanes first).priority).head?

def next (scheduler : PacketScheduler) : Option (QueuedPacket × PacketScheduler) :=
  match scheduler.nextLane with
  | none => none
  | some lane =>
      match (scheduler.queues lane).packets with
      | [] => none
      | packet :: rest => some (packet, scheduler.shift lane packet rest)

def clearLane (scheduler : PacketScheduler) (lane : LaneName) : PacketScheduler :=
  let queue := scheduler.queues lane
  { scheduler with
    totalPackets := scheduler.totalPackets - queue.packets.length
    totalBytes := scheduler.totalBytes - queue.bytes }.setQueue ⟨[], 0⟩ lane

def clearVolatile (scheduler : PacketScheduler) : PacketScheduler := scheduler.clearLane .voice

def clear (scheduler : PacketScheduler) : PacketScheduler := laneNames.foldl clearLane scheduler

end PacketScheduler

end OnlyTwo.Transport
