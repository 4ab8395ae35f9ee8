import OnlyTwo.SessionMoves
import OnlyTwo.VoiceFreshness

/-!
`queueOutboundVoice`, `pumpOutboundVoice` and what it awaits of `sendRawApp`, beside the event
loop of the session. The pump takes frames from its queue one at a time; it can be called again
before it has ended, so the calls that are suspended in it are a list. The `finally` of the pump
may call the pump, which is counted down from a bound: a pump that would go on calling itself has
no next state.
-/

namespace OnlyTwo.Session

open AppMessages VoiceFreshnessQueue SessionController

variable {Frame : Type}

section Calls

/-- `clearOutboundVoiceQueue` and the outbound half of `updateVoiceQueueLimits`. -/
inductive VoiceCall where
  | clear
  | setLimits (id : TransportProfileId)
  deriving DecidableEq, Repr

/-- `disconnect` and `prepareFreshCryptoEpoch` call `clearVoiceQueues` beside these. -/
def Outcall.voiceCall? : Outcall → Option VoiceCall
  | .disconnect _ => some .clear
  | .clearQueuedPackets => some .clear
  | .setProfile id => some (.setLimits id)
  | _ => none

/-- The functions of the user's own voice that clear the queue. -/
def Loop.voiceStops (self : Loop) : Event → Bool
  | .request .startVoice => self.session.secure ≠ none ∧ self.session.view.voice = .idle
  | .request .stopVoice => self.session.view.voice ≠ .idle
  | .request .toggleMute =>
      (self.session.view.voice = .active ∨ self.session.view.voice = .muted) ∧
        self.session.view.muted = false
  | .settle ticket (.error _) => self.calls.get? ticket = some .startingVoice
  | _ => false

def Loop.voiceCalls (self : Loop) (event : Event) : List VoiceCall :=
  (if self.voiceStops event then [.clear] else []) ++
    (self.outcalls event).filterMap Outcall.voiceCall?

end Calls

/-- A call of `sendRawApp` that a pump awaits: the frame, `secure` and `secureEpoch` as they were,
and `voiceQueueEpoch` at the start of the pump. -/
structure PumpCall (Frame : Type) where
  epoch : Nat
  frame : Frame
  secure : SecureChannel
  secureEpoch : Nat
  encrypting : Bool
  deriving DecidableEq, Repr

structure VoiceLoop (Frame : Type) where
  loop : Loop
  outboundVoice : VoiceFreshnessQueue Frame
  outboundVoicePumping : Bool
  voiceQueueEpoch : Nat
  pumps : List (PumpCall Frame)

/-- `pushed` and `handed` carry `voiceQueueEpoch`; `handed` is a call of `sendRawApp`, `sent` one of
`transport.send`, and `dropped` is reported as `before_encrypt`. -/
inductive VoiceMark (Frame : Type) where
  | pushed (epoch : Nat) (item : QueueItem Frame)
  | handed (epoch : Nat) (frame : Returned Frame)
  | dropped (count : Nat)
  | sent (frame : Frame)

/-- What `canSendVoiceNow` answers comes with the events that may ask it. -/
inductive VoiceEvent (Frame : Type) where
  | session (event : Event)
  | frame (frame : Frame) (canSend : Bool)
  | encrypted (index : Nat) (ok : Bool)
  | returned (index : Nat) (canSend : Bool)
  deriving DecidableEq

namespace VoiceLoop

abbrev Turn (Frame : Type) : Type := Option (VoiceLoop Frame × List (VoiceMark Frame))

def create : VoiceLoop Frame where
  loop := .create
  outboundVoice := .create (voiceQueueMaxFrames (getProfile .balanced))
    (getProfile .balanced).voice.maxQueuedLatencyMs
  outboundVoicePumping := false
  voiceQueueEpoch := 0
  pumps := []

def marked (marks : List (VoiceMark Frame)) (turn : Turn Frame) : Turn Frame :=
  turn.map fun turned => (turned.1, marks ++ turned.2)

/-- The state of voice as the loop and the `finally` of the pump test it. -/
def talks (self : VoiceLoop Frame) : Bool :=
  self.loop.session.view.voice ≠ .idle ∧ self.loop.session.view.muted = false

/-- The `finally` of `pumpOutboundVoice`; `again` is the pump it may call. -/
def pumpOver (again : VoiceLoop Frame → Nat → Turn Frame) (self : VoiceLoop Frame) (epoch : Nat) :
    Turn Frame :=
  let free := { self with outboundVoicePumping := false }
  if epoch = free.voiceQueueEpoch ∧ 0 < free.outboundVoice.size ∧ free.talks = true then
    again { free with outboundVoicePumping := true } free.voiceQueueEpoch
  else some (free, [])

/-- `pumpOutboundVoice` from the head of its loop to the next await. What `sendRawApp` checks
before its own await has just been checked here. -/
def pump (canSend : Bool) : Nat → VoiceLoop Frame → Nat → Turn Frame
  | 0, _, _ => none
  | calls + 1, self, epoch =>
      match self.loop.session.secure with
      | none => pumpOver (pump canSend calls) self epoch
      | some secure =>
          if epoch = self.voiceQueueEpoch ∧ self.talks = true then
            let next := self.outboundVoice.shiftFresh self.loop.session.now
            match next.value with
            | none => marked [.dropped next.dropped]
                (pumpOver (pump canSend calls) { self with outboundVoice := next.queue } epoch)
            | some frame =>
                if canSend then
                  some ({ self with
                      outboundVoice := next.queue
                      pumps := self.pumps ++
                        [⟨epoch, frame, secure, self.loop.session.secureEpoch, true⟩] },
                    [.dropped next.dropped,
                      .handed epoch ⟨frame, self.loop.session.now, self.outboundVoice.maxAgeMs⟩])
                else
                  let cleared := next.queue.clear
                  marked [.dropped next.dropped, .dropped (1 + cleared.dropped)]
                    (pumpOver (pump canSend calls) { self with outboundVoice := cleared.queue } epoch)
          else pumpOver (pump canSend calls) self epoch

def queueOutboundVoice (calls : Nat) (self : VoiceLoop Frame) (frame : Frame) (canSend : Bool) :
    Turn Frame :=
  if self.loop.session.secure = none ∨ self.talks = false then some (self, [])
  else
    let pushed := self.outboundVoice.push frame self.loop.session.now
    let queued := { self with outboundVoice := pushed.queue }
    marked [.pushed self.voiceQueueEpoch ⟨frame, self.loop.session.now⟩, .dropped pushed.dropped]
      (if queued.outboundVoicePumping then some (queued, [])
      else pump canSend calls { queued with outboundVoicePumping := true } queued.voiceQueueEpoch)

/-- `sendRawApp` from the encryption on. -/
def encrypted (self : VoiceLoop Frame) (index : Nat) (ok : Bool) : Turn Frame :=
  (self.pumps[index]?).bind fun call =>
    if call.encrypting then
      some ({ self with pumps := self.pumps.set index { call with encrypting := false } },
        if ok ∧ call.secureEpoch = self.loop.session.secureEpoch ∧
            some call.secure = self.loop.session.secure then [.sent call.frame] else [])
    else none

def returned (calls : Nat) (self : VoiceLoop Frame) (index : Nat) (canSend : Bool) : Turn Frame :=
  (self.pumps[index]?).bind fun call =>
    if call.encrypting then none
    else pump canSend calls { self with pumps := self.pumps.eraseIdx index } call.epoch

/-- A turn of the session, which may clear the queue or change its limits. -/
def call (self : VoiceLoop Frame) : VoiceCall → VoiceLoop Frame × List (VoiceMark Frame)
  | .clear =>
      ({ self with
          voiceQueueEpoch := self.voiceQueueEpoch + 1
          outboundVoice := self.outboundVoice.clear.queue },
        [.dropped self.outboundVoice.clear.dropped])
  | .setLimits id =>
      let limited := self.outboundVoice.setLimits (voiceQueueMaxFrames (getProfile id))
        (getProfile id).voice.maxQueuedLatencyMs
      ({ self with outboundVoice := limited.queue }, [.dropped limited.dropped])

def makeCalls : List VoiceCall → VoiceLoop Frame → VoiceLoop Frame × List (VoiceMark Frame)
  | [], self => (self, [])
  | first :: rest, self =>
      let made := self.call first
      let later := makeCalls rest made.1
      (later.1, made.2 ++ later.2)

def step (digest : Bytes → String) (calls : Nat) (self : VoiceLoop Frame) :
    VoiceEvent Frame → Turn Frame
  | .session event =>
      (self.loop.step digest event).map fun turned =>
        makeCalls (self.loop.voiceCalls event) { self with loop := turned.1 }
  | .frame frame canSend => self.queueOutboundVoice calls frame canSend
  | .encrypted index ok => self.encrypted index ok
  | .returned index canSend => self.returned calls index canSend

end VoiceLoop

def voiceMachine (Frame : Type) (digest : Bytes → String) (calls : Nat) :
    Machine (VoiceLoop Frame) (VoiceEvent Frame) (VoiceMark Frame) := ⟨VoiceLoop.step digest calls⟩

end OnlyTwo.Session
