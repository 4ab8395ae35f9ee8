import OnlyTwo.SessionLoop

/-!
What a turn of the session asks of the transport and of the crypto worker, in
the order of the source. Each list stands beside the function of the session
that makes these calls. Packets of `sendRawApp`, and requests that leave the
worker's identity alone (`ENCRYPT`, `DECRYPT`, `ESTABLISH_SESSION`, and the
`CONFIGURE` before it), are not among them.
-/

namespace OnlyTwo.Session

open Bytes FileProtocol FileSender FileReceiver Reliable AppMessages

/-- The requests for the worker that `disconnect`, `start` and
`prepareFreshCryptoEpoch` make. -/
inductive Chore where
  | reset
  | configure
  | generateIdentity
  deriving DecidableEq, Repr

/-- The request a preparation waits for, and the lifecycle it was started in. -/
def ControlStage.chore : ControlStage → Option (Chore × Nat)
  | .resetting preparation => some (.reset, preparation.lifecycle)
  | .configuring preparation => some (.configure, preparation.lifecycle)
  | .generating preparation => some (.generateIdentity, preparation.lifecycle)
  | _ => none

/-- The same for a call of `start`. -/
def LocalCall.chore : LocalCall → Option (Chore × Nat)
  | .configuring lifecycle => some (.configure, lifecycle)
  | .generating lifecycle => some (.generateIdentity, lifecycle)
  | _ => none

/-- `announce` is the `transport.send` of a handshake with this key, and what it
answers; nobody waits for a request that is not `awaited`. -/
inductive Outcall where
  | disconnect (forgetSlot : Bool)
  | clearQueuedPackets
  | setProfile (id : TransportProfileId)
  | connect (code : String)
  | endSession (sent : Bool)
  | announce (key : PublicKey) (accepted : Bool)
  | ask (chore : Chore) (awaited : Bool)
  deriving DecidableEq, Repr

namespace SessionController

/-- `disconnect`. -/
def tearDownCalls (forgetSlot : Bool) : List Outcall :=
  [.disconnect forgetSlot, .ask .reset false]

def startCalls (profileId : TransportProfileId) : List Outcall :=
  tearDownCalls false ++ [.setProfile profileId, .ask .configure true]

/-- `prepareFreshCryptoEpoch`, up to its first await. -/
def prepareCalls (self : SessionController) : List Outcall :=
  if self.epochPreparation ≠ none then [] else [.clearQueuedPackets, .ask .reset true]

/-- `sendHandshake` from the profile hash on. -/
def announcedCalls (self : SessionController) (locals : Announcement) : Reply → List Outcall
  | .flag accepted =>
      if locals.lifecycle ≠ self.lifecycleEpoch ∨ locals.epoch ≠ self.secureEpoch ∨
          some locals.key ≠ self.localPublicKey ∨ locals.profileId ≠ self.profile.id then []
      else [.announce locals.key accepted]
  | _ => []

def performCalls (self : SessionController) : Request → List Outcall
  | .setProfile id =>
      if self.view.phase ≠ .idle ∧ self.view.phase ≠ .ended then [] else [.setProfile id]
  | .endChatForBoth sent =>
      if self.view.phase = .idle ∨ self.view.phase = .ended then []
      else .endSession sent :: if self.endsAtOnce sent then tearDownCalls true else []
  | .disconnect => tearDownCalls false
  | .unload => tearDownCalls false
  | _ => []

def settleCalls (self : SessionController) (call : LocalCall) (reply : Reply) : List Outcall :=
  match call, reply with
  | .lookingUp _, .error _ => tearDownCalls false
  | .lookingUp _, .room _ profileId => startCalls profileId
  | .configuring _, .error _ => tearDownCalls false
  | .configuring _, .done => [.ask .generateIdentity true]
  | .generating _, .error _ => tearDownCalls false
  | .generating lifecycle, .key _ =>
      if lifecycle ≠ self.lifecycleEpoch then [] else [.connect self.view.roomCode]
  | .connecting _, .error _ => tearDownCalls false
  | .greeting locals, reply =>
      match self.announced locals reply with
      | some (.error _) => self.announcedCalls locals reply ++ tearDownCalls false
      | _ => self.announcedCalls locals reply
  | _, _ => []

def statusCalls (self : SessionController) : ConnectionStatus → List Outcall
  | .reconnecting => self.prepareCalls
  | .connected => if self.localPublicKey = none then self.prepareCalls else []
  | _ => []

def relayCalls (self : SessionController) : RelayEvent → List Outcall
  | .peerPresent =>
      if self.secure ≠ none ∨ self.peerPublicKey ≠ none ∨ self.localPublicKey = none then
        self.prepareCalls
      else []
  | .peerDisconnected => self.prepareCalls
  | .peerRejoined => self.prepareCalls
  | .sessionEnded => tearDownCalls true

def beginCalls (self : SessionController) : Work → List Outcall
  | .status lifecycle status =>
      if lifecycle = self.lifecycleEpoch then self.statusCalls status else []
  | .relay lifecycle event =>
      if lifecycle = self.lifecycleEpoch then self.relayCalls event else []
  | _ => []

def controlCalls (self : SessionController) (stage : ControlStage) (reply : Reply) :
    List Outcall :=
  match stage, reply with
  | .resetting preparation, _ =>
      if preparation.lifecycle ≠ self.lifecycleEpoch then [] else [.ask .configure true]
  | .configuring _, .done => [.ask .generateIdentity true]
  | .announcing _ locals, reply => self.announcedCalls locals reply
  | .greeting locals _, reply => self.announcedCalls locals reply
  | _, _ => []

def resumeCalls (self : SessionController) (reply : Reply) : InboundCall → List Outcall
  | .control stage => self.controlCalls stage reply
  | .handshake call =>
      match call.stage with
      | .replying locals => self.announcedCalls locals reply
      | _ => []
  | .message _ => []

end SessionController

def Loop.outcalls (self : Loop) : Event → List Outcall
  | .request request => self.session.performCalls request
  | .settle ticket reply =>
      match self.calls.get? ticket with
      | none => []
      | some call => self.session.settleCalls call reply
  | .begin =>
      match self.session.inbound with
      | [] => []
      | work :: _ => self.session.beginCalls work
  | .resume reply =>
      match self.running with
      | none => []
      | some call => self.session.resumeCalls reply call
  | .endSessionTimer => SessionController.tearDownCalls true
  | _ => []

end OnlyTwo.Session
