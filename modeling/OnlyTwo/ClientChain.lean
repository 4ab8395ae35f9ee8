import OnlyTwo.ClientQueue
import OnlyTwo.SocketStates

/-!
The request chain of the crypto client and what feeds it: what the calls of a turn
add to it, what the worker does with a request, and in which order requests of
different callers stand. Beside it, what a connection that is down may still tell
the session.
-/

namespace OnlyTwo.Client

open Bytes AppMessages
open Session (SessionController Loop Outcall Chore PublicKey Work)
open Transport (WebSocketConnection Buffered Envelope Output transportLimits)

section Worker

open CryptoWorker (Worker WebCrypto Entropy Request Reply)

variable {web : WebCrypto} {entropy : Entropy} {failure : Option String} {worker : Worker}
  {request : Request}

theorem establishSession_identity (peerRaw : Bytes) (profileHashValue : String) :
    (CryptoWorker.establishSession web worker peerRaw profileHashValue).1.identity =
      worker.identity := by
  simp only [CryptoWorker.establishSession]
  split
  · rfl
  · split
    · rfl
    · split
      · rfl
      · split <;> rfl

theorem encryptBinary_identity (payload : CryptoWorker.EncryptRequest) :
    (CryptoWorker.encryptBinary web entropy worker payload).1.identity = worker.identity := by
  unfold CryptoWorker.encryptBinary
  split
  · split <;> rfl
  · rfl

theorem decryptBinary_identity (payload : CryptoWorker.DecryptRequest) :
    (CryptoWorker.decryptBinary web worker payload).1.identity = worker.identity := by
  unfold CryptoWorker.decryptBinary
  split
  · split
    · rfl
    · split
      · rfl
      · split
        · unfold CryptoWorker.decryptCached
          split <;> rfl
        · split
          · rfl
          · simp only [CryptoWorker.decryptAhead]
            split <;> rfl
  · rfl

theorem answerRequest_keeps (keeps : keepsIdentity request = true) :
    (answerRequest web entropy failure worker request).1.identity = worker.identity := by
  cases request with
  | generateIdentity => cases keeps
  | reset => cases keeps
  | configure payload => rfl
  | establishSession peerPublicKey profileHashValue =>
      simp only [answerRequest, CryptoWorker.handle]
      split
      · rfl
      · exact establishSession_identity _ _
  | encrypt payload => exact encryptBinary_identity payload
  | decrypt payload => exact decryptBinary_identity payload
  | unknown type => rfl

/-- A public key is only answered for the pair that the worker has just made. -/
theorem answerRequest_publicKey {raw : Bytes}
    (answered : (answerRequest web entropy failure worker request).2 = .ok (.publicKey raw)) :
    (answerRequest web entropy failure worker request).1.identity.map web.publicKey = some raw := by
  have other : ∀ {Value : Type} (result : Except String Value) (wrap : Value → Reply),
      (∀ value, wrap value ≠ .publicKey raw) → result.map wrap ≠ .ok (.publicKey raw) := by
    intro Value result wrap differs same
    cases result with
    | error reason => cases same
    | ok value => exact differs value (Except.ok.inj same)
  cases request with
  | generateIdentity =>
      cases failure with
      | none =>
          cases answered
          rfl
      | some message => cases answered
  | establishSession peerPublicKey profileHashValue =>
      simp only [answerRequest, CryptoWorker.handle] at answered
      split at answered
      · cases answered
      · exact absurd answered (other _ _ (by simp))
  | encrypt payload => exact absurd answered (other _ _ (by simp))
  | decrypt payload => exact absurd answered (other _ _ (by simp))
  | _ => cases answered

end Worker

section Order

/-- Nobody waits for the request, and it leaves the key pair alone. -/
def Errand.plain (errand : Errand) : Prop :=
  errand.caller = .nobody ∧ keepsIdentity errand.request = true

/-- Behind a request of `caller` stand only requests that `allowed` allows. -/
def Followed (caller : Caller) (allowed : Errand → Prop) (chain : List Errand) : Prop :=
  chain.Pairwise fun earlier later => earlier.caller = caller → allowed later

variable {caller : Caller} {allowed : Errand → Prop} {chain rest added : List Errand}
  {errand : Errand}

theorem Followed.suffix (followed : Followed caller allowed chain) (ends : rest <:+ chain) :
    Followed caller allowed rest :=
  List.Pairwise.sublist ends.sublist followed

theorem Followed.append (followed : Followed caller allowed chain)
    (fits : ∀ errand ∈ added, allowed errand) : Followed caller allowed (chain ++ added) := by
  refine List.pairwise_append.mpr ⟨followed, ?_, fun _ _ later member _ => fits later member⟩
  exact List.pairwise_iff_forall_sublist.mpr fun pair _ => fits _ (pair.subset (by simp))

/-- The first request of a caller stands at the end. -/
theorem Followed.of_absent (absent : ∀ errand ∈ chain, errand.caller ≠ caller) (last : Errand) :
    Followed caller allowed (chain ++ [last]) := by
  refine List.pairwise_append.mpr ⟨?_, List.pairwise_singleton _ _, ?_⟩
  · exact List.pairwise_iff_forall_sublist.mpr fun pair same =>
      absurd same (absent _ (pair.subset (by simp)))
  · exact fun errand member _ _ same => absurd same (absent errand member)

theorem Followed.head (followed : Followed caller allowed (errand :: rest))
    (own : errand.caller = caller) (later : Errand) (member : later ∈ rest) : allowed later :=
  (List.pairwise_cons.mp followed).1 later member own

end Order

namespace Endpoint

section Calls

variable {surroundings : Surroundings} {outside : Outside} {caller : Caller}
  {profileId : TransportProfileId} {self : Endpoint} {outcalls : List Outcall} {called : Called}

/-- What a call adds to the request chain. -/
def asked (caller : Caller) (profileId : TransportProfileId) : Outcall → Option Errand
  | .ask chore awaited =>
      some ⟨choreRequest profileId chore, if awaited then caller else .nobody⟩
  | _ => none

def connects : Outcall → Bool
  | .connect _ => true
  | _ => false

def disconnects : Outcall → Bool
  | .disconnect _ => true
  | _ => false

/-- What the calls of a turn do to the client. -/
structure Ran (surroundings : Surroundings) (caller : Caller) (profileId : TransportProfileId)
    (start : Endpoint) (outcalls : List Outcall) (called : Called) : Prop where
  loop : called.endpoint.loop = start.loop
  worker : called.endpoint.worker = start.worker
  answer : called.endpoint.answer = start.answer
  chain : called.endpoint.chain = start.chain ++ outcalls.filterMap (asked caller profileId)
  orderly : start.transport.Orderly → called.endpoint.transport.Orderly
  down : (∀ outcall ∈ outcalls, connects outcall = false) →
    start.transport.Down ∨ (∃ outcall ∈ outcalls, disconnects outcall = true) →
    called.endpoint.transport.Down
  silent : (∀ outcall ∈ outcalls, connects outcall = false) → called.heard = []
  announced : ∀ key held, .announced key held ∈ called.notes →
    held = start.worker.identity.map surroundings.web.publicKey ∧
      ∃ accepted, .announce key accepted ∈ outcalls

/-- A call of the transport that says nothing, and is no `disconnect`. -/
theorem Ran.of_transport {outcall : Outcall} {transport : WebSocketConnection}
    (asks : asked caller profileId outcall = none) (lasting : disconnects outcall = false)
    (orderly : self.transport.Orderly → transport.Orderly)
    (down : self.transport.Down → transport.Down) :
    Ran surroundings caller profileId self [outcall]
      ⟨{ self with transport := transport }, [], []⟩ where
  loop := rfl
  worker := rfl
  answer := rfl
  chain := by simp [asks]
  orderly := orderly
  down _ ends := by
    rcases ends with already | ⟨other, member, closes⟩
    · exact down already
    · rw [List.mem_singleton.mp member, lasting] at closes
      cases closes
  silent _ := rfl
  announced _ _ member := by cases member

theorem call_ran {outcall : Outcall}
    (ran : self.call surroundings outside caller profileId outcall = some called) :
    Ran surroundings caller profileId self [outcall] called := by
  cases outcall with
  | disconnect forgetSlot =>
      cases ran
      exact ⟨rfl, rfl, rfl, by simp [asked], fun orderly => orderly.disconnect forgetSlot,
        fun _ _ => self.transport.disconnect_down forgetSlot, fun _ => rfl, by simp⟩
  | clearQueuedPackets =>
      cases ran
      exact .of_transport rfl rfl (fun orderly => orderly.of_same rfl rfl)
        (fun down => down.clearQueuedPackets)
  | setProfile id =>
      cases ran
      have stepped : self.transport.step (.setProfile (transportLimits id) outside.buffered) =
          some (self.transport.setProfile (transportLimits id) outside.buffered) := rfl
      exact .of_transport rfl rfl (fun orderly => orderly.step stepped)
        (fun down => (down.step ⟨rfl, rfl⟩ stepped).1)
  | connect code =>
      cases ran
      have stepped : self.transport.step (.connect code outside.slotToken outside.failure) =
          some (self.transport.connect code outside.slotToken outside.failure) := rfl
      refine ⟨rfl, rfl, rfl, by simp [asked], fun orderly => orderly.step stepped,
        fun quiet => ?_, fun quiet => ?_, by simp⟩
      · cases quiet _ List.mem_cons_self
      · cases quiet _ List.mem_cons_self
  | endSession sent =>
      simp only [call] at ran
      split at ran
      · cases ran
        exact .of_transport rfl rfl
          (fun orderly => orderly.untouched self.transport.endSession_untouched)
          (fun down => down.endSession.1)
      · cases ran
  | announce key accepted =>
      simp only [call] at ran
      split at ran
      · cases ran
        refine ⟨rfl, rfl, rfl, by simp [asked, send], ?_, ?_, fun _ => rfl, ?_⟩
        · exact fun orderly =>
            orderly.untouched (self.transport.send_untouched outside.buffered _)
        · rintro _ (down | ⟨outcall, member, ends⟩)
          · exact (down.send _).1
          · cases List.mem_singleton.mp member
            cases ends
        · intro other held member
          rcases List.mem_cons.mp member with same | sent
          · cases same
            exact ⟨rfl, accepted, by simp⟩
          · exact absurd sent send_announced
      · cases ran
  | ask chore awaited =>
      cases ran
      refine ⟨rfl, rfl, rfl, by simp [asked], id, ?_, fun _ => rfl, by simp⟩
      rintro _ (down | ⟨outcall, member, ends⟩)
      · exact down
      · cases List.mem_singleton.mp member
        cases ends

theorem Ran.trans {first : List Outcall} {one two : Called}
    (began : Ran surroundings caller profileId self first one)
    (went : Ran surroundings caller profileId one.endpoint outcalls two) :
    Ran surroundings caller profileId self (first ++ outcalls)
      ⟨two.endpoint, one.notes ++ two.notes, one.heard ++ two.heard⟩ where
  loop := went.loop.trans began.loop
  worker := went.worker.trans began.worker
  answer := went.answer.trans began.answer
  chain := by rw [went.chain, began.chain, List.filterMap_append, List.append_assoc]
  orderly orderly := went.orderly (began.orderly orderly)
  down quiet ends := by
    refine went.down (fun outcall member => quiet outcall (by simp [member])) ?_
    have started := began.down (fun outcall member => quiet outcall (by simp [member]))
    rcases ends with down | ⟨outcall, member, closes⟩
    · exact Or.inl (started (Or.inl down))
    · rcases List.mem_append.mp member with early | late
      · exact Or.inl (started (Or.inr ⟨outcall, early, closes⟩))
      · exact Or.inr ⟨outcall, late, closes⟩
  silent quiet := by
    have one := began.silent (fun outcall member => quiet outcall (by simp [member]))
    have two := went.silent (fun outcall member => quiet outcall (by simp [member]))
    simp [one, two]
  announced key held member := by
    rcases List.mem_append.mp member with early | late
    · obtain ⟨same, accepted, said⟩ := began.announced key held early
      exact ⟨same, accepted, by simp [said]⟩
    · obtain ⟨same, accepted, said⟩ := went.announced key held late
      rw [began.worker] at same
      exact ⟨same, accepted, by simp [said]⟩

theorem calls_ran (ran : self.calls surroundings outside caller profileId outcalls = some called) :
    Ran surroundings caller profileId self outcalls called := by
  induction outcalls generalizing self called with
  | nil =>
      cases ran
      refine ⟨rfl, rfl, rfl, by simp, id, ?_, fun _ => rfl, by simp⟩
      rintro _ (down | ⟨_, member, _⟩)
      · exact down
      · cases member
  | cons outcall rest ih =>
      simp only [calls] at ran
      split at ran
      · cases ran
      · rename_i first took
        obtain ⟨later, went, rfl⟩ := Option.map_eq_some_iff.mp ran
        exact (call_ran took).trans (ih went)

end Calls

section Hearing

variable {surroundings : Surroundings} {before middle after : Loop}

/-- The loop after some reports of the transport: they wait for their turn. -/
structure Heard (before after : Loop) : Prop where
  core : after.session.core = { before.session.core with duties := after.session.duties }
  running : after.running = before.running
  calls : after.calls = before.calls
  duties : ∀ work ∈ after.session.duties, work ∈ before.session.duties ∨
    work.lifecycle = some before.session.lifecycleEpoch

theorem Heard.lifecycle (heard : Heard before after) :
    after.session.lifecycleEpoch = before.session.lifecycleEpoch :=
  congrArg Session.Core.lifecycleEpoch heard.core

theorem Heard.of_core (same : after.session.core = before.session.core)
    (running : after.running = before.running) (calls : after.calls = before.calls) :
    Heard before after := by
  have duties : after.session.duties = before.session.duties := congrArg Session.Core.duties same
  refine ⟨?_, running, calls, fun work member => Or.inl (duties ▸ member)⟩
  rw [same, duties]
  rfl

theorem Heard.trans (first : Heard before middle) (second : Heard middle after) :
    Heard before after where
  core := by rw [second.core, first.core]
  running := second.running.trans first.running
  calls := second.calls.trans first.calls
  duties work member := by
    rcases second.duties work member with earlier | now
    · exact first.duties work earlier
    · exact Or.inr (first.lifecycle ▸ now)

theorem enqueueInbound_heard (loop : Loop) {work : Work}
    (current : work.lifecycle = some loop.session.lifecycleEpoch) :
    Heard loop { loop with session := loop.session.enqueueInbound work } := by
  refine ⟨rfl, rfl, rfl, fun other member => ?_⟩
  simp only [SessionController.duties, SessionController.enqueueInbound, List.filter_append,
    List.mem_append] at member
  rcases member with earlier | new
  · exact Or.inl earlier
  · have same := List.mem_singleton.mp (List.mem_filter.mp new).1
    exact Or.inr (same ▸ current)

theorem hear_heard (loop : Loop) (output : Output) : Heard loop (hear surroundings loop output) := by
  cases output with
  | status status =>
      simp only [hear, SessionController.transportChanged]
      split
      · exact .of_core rfl rfl rfl
      · have noted : Heard loop
            { loop with session := { loop.session with transportStatus := status } } :=
          .of_core rfl rfl rfl
        exact noted.trans (enqueueInbound_heard _ rfl)
  | relay event => exact enqueueInbound_heard loop rfl
  | envelope env => exact .of_core (loop.session.core_routeEnvelope _) rfl rfl
  | _ => exact .of_core rfl rfl rfl

theorem foldl_heard (loop : Loop) (outputs : List Output) :
    Heard loop (outputs.foldl (hear surroundings) loop) := by
  induction outputs generalizing loop with
  | nil => exact .of_core rfl rfl rfl
  | cons output rest ih => exact (hear_heard loop output).trans (ih _)

/-- The reports of a connection that is down. -/
def hushed (output : Output) : Bool := output.quiet || output = .relay .sessionEnded

/-- They give the session no reason to prepare an epoch. -/
theorem foldl_hushed (loop : Loop) {outputs : List Output}
    (quiet : ∀ output ∈ outputs, hushed output = true) :
    (outputs.foldl (hear surroundings) loop).session.duties = loop.session.duties := by
  induction outputs generalizing loop with
  | nil => rfl
  | cons output rest ih =>
      have first : (hear surroundings loop output).session.duties = loop.session.duties := by
        have calm := quiet output (by simp)
        cases output with
        | status status => cases calm
        | envelope env => cases calm
        | relay event =>
            simp only [hushed, Output.quiet, Bool.false_or, decide_eq_true_eq,
              Output.relay.injEq] at calm
            subst calm
            exact congrArg Session.Core.duties (loop.session.core_enqueueInbound rfl)
        | _ => rfl
      rw [List.foldl_cons, ih _ (fun other member => quiet other (by simp [member]))]
      exact first

end Hearing

section Hushed

open Transport.WebSocketConnection

variable {transport after : WebSocketConnection} {event : Transport.Event} {outputs : List Output}

/-- A late close of the last socket may tell of the end of the session. -/
theorem onClose_hushed (down : transport.Down) (id : Nat) (socket : Transport.Socket) (code : Nat)
    (reason : String) : (transport.onClose id socket code reason).1.Down ∧
      ∀ output ∈ (transport.onClose id socket code reason).2, hushed output = true := by
  have quiet : ∀ {turn : Transport.Turn}, Silent turn →
      turn.1.Down ∧ ∀ output ∈ turn.2, hushed output = true := by
    rintro turn ⟨kept, silent⟩
    exact ⟨kept, fun output member => by simp [hushed, silent output member]⟩
  by_cases harmless : transport.epoch = socket.currentEpoch → socket.opened = true →
      ¬ (code = Transport.sessionEndedCode ∨ reason = Transport.sessionEndedReason)
  · exact quiet (down.onClose harmless)
  · simp only [not_forall, not_not] at harmless
    obtain ⟨latest, opened, ended⟩ := harmless
    have same : (if transport.ws = some id then { transport with ws := none } else transport) =
        transport := by
      simp [down.dropped]
    have closed : ({ transport with intentionalClose := true } : WebSocketConnection
        ).clearQueuedPackets.Down := ⟨rfl, down.dropped, down.offline⟩
    have turned : transport.onClose id socket code reason =
        (({ transport with intentionalClose := true } : WebSocketConnection).clearQueuedPackets,
          [.relay .sessionEnded]) := by
      unfold onClose
      rw [if_neg (not_not.mpr latest), same, opened]
      simp [ended, andThen, closed.setStatus]
    rw [turned]
    exact ⟨closed, by simp [hushed]⟩

/-- What the browser may still do to a connection that is down. Its sockets have
ended, so none opens and none has a message. -/
theorem down_hushed (down : transport.Down) (orderly : transport.Orderly)
    (fires : browserFires transport event = true)
    (stepped : transport.step event = some (after, outputs)) :
    after.Down ∧ ∀ output ∈ outputs, hushed output = true := by
  -- The connection has dropped every socket, and a dropped socket was closed.
  have ended : ∀ (id : Nat) (socket : Transport.Socket),
      transport.sockets[id]? = some socket → socket.ended = true :=
    fun id socket known => orderly id socket known (by simp [down.dropped])
  have quiet : transport.Undisturbed event →
      after.Down ∧ ∀ output ∈ outputs, hushed output = true := by
    intro undisturbed
    obtain ⟨kept, silent⟩ := down.step undisturbed stepped
    exact ⟨kept, fun output member => by simp [hushed, silent output member]⟩
  cases event with
  | opened id buffered =>
      obtain ⟨socket, known, _⟩ := Option.map_eq_some_iff.mp stepped
      have stopped := ended id socket known
      simp only [browserFires, known, Option.any_some, decide_eq_true_eq] at fires
      simp [Transport.Socket.ended, fires] at stopped
  | message id data =>
      obtain ⟨socket, known, _⟩ := Option.map_eq_some_iff.mp stepped
      have stopped := ended id socket known
      simp only [browserFires, known, Option.any_some, decide_eq_true_eq] at fires
      simp [Transport.Socket.ended, fires] at stopped
  | closed id code reason =>
      obtain ⟨socket, known, ran⟩ := Option.map_eq_some_iff.mp stepped
      have closed := onClose_hushed (down.modifySocket id fun socket =>
        { socket with readyState := .closed }) id socket code reason
      rw [ran] at closed
      exact closed
  | errored id => exact quiet ⟨rfl, rfl⟩
  | reconnectTimer timer failure => exact quiet ⟨rfl, rfl⟩
  | caught => exact quiet ⟨rfl, rfl⟩
  | drainTimer buffered => exact quiet ⟨rfl, rfl⟩
  | yielded buffered => exact quiet ⟨rfl, rfl⟩
  | _ => cases fires

end Hushed

end Endpoint

end OnlyTwo.Client
