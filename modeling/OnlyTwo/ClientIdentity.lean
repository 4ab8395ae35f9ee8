import OnlyTwo.ClientChain
import OnlyTwo.SessionStartups

/-!
The session and the worker agree on the identity. Calls of an older lifecycle may
still ask the worker for a new pair, and only some of them notice that they are late,
so the agreement rests on the order of the request chain: behind the request of the
call that will set `localPublicKey` there is nothing that replaces its pair. Two
facts keep other callers out meanwhile. `startupInFlight` admits one startup at a
time, and a startup has called `disconnect`, after which the connection gives the
session no reason to prepare an epoch until the startup connects.
-/

namespace OnlyTwo.Client

open Bytes AppMessages
open Session (SessionController Loop Outcall Chore PublicKey Work LocalCall Judged Single Timely
  Asking Eased Torn)
open Transport (WebSocketConnection Buffered Envelope Output transportLimits)

section Waiting

/-- A startup waits for the worker. -/
def Starting (loop : Loop) : Prop :=
  ∃ ticket call pending, loop.calls.get? ticket = some call ∧ call.chore = some pending

/-- Nothing disturbs a startup that waits for the worker. -/
def Secluded (loop : Loop) (transport : WebSocketConnection) : Prop :=
  Starting loop → transport.Down ∧
    (∀ work ∈ loop.session.duties, work.lifecycle ≠ some loop.session.lifecycleEpoch) ∧
    ∀ chore, loop.preparing ≠ some (chore, loop.session.lifecycleEpoch)

def fromInbound (errand : Errand) : Bool := errand.caller = .inbound

/-- The running handler has the request in the chain that it waits for, and no other. -/
def Fits (pending : Option (Chore × Nat)) (errands : List Errand) : Prop :=
  match pending with
  | none => errands = []
  | some (chore, _) => ∃ profileId, errands = [⟨choreRequest profileId chore, .inbound⟩]

/-- Behind the request of a call of the current lifecycle stands nothing that would
replace its pair. A preparation of an older lifecycle that waits for its `CONFIGURE`
goes on to `GENERATE_IDENTITY` without a look at the lifecycle, so while a startup
waits for its own `CONFIGURE`, that request may still follow. -/
structure Ordered (loop : Loop) (chain : List Errand) : Prop where
  tickets : ∀ errand ∈ chain, ∀ ticket, errand.caller = .start ticket → ticket < loop.calls.next
  inbound : Fits loop.preparing (chain.filter fromInbound)
  configuring : ∀ ticket,
    loop.calls.get? ticket = some (.configuring loop.session.lifecycleEpoch) →
    Followed (.start ticket) (fun later => later.plain ∨ later = ⟨.generateIdentity, .inbound⟩) chain
  generating : ∀ ticket,
    loop.calls.get? ticket = some (.generating loop.session.lifecycleEpoch) →
    Followed (.start ticket) Errand.plain chain ∧
      ∀ pending, loop.preparing = some pending → pending.1 = .generateIdentity
  preparing : ∀ chore, loop.preparing = some (chore, loop.session.lifecycleEpoch) →
    Followed .inbound Errand.plain chain

/-- The worker holds the pair of the session's key, and nobody is about to replace it. -/
structure Holds (web : CryptoWorker.WebCrypto) (key : PublicKey) (endpoint : Endpoint) : Prop where
  held : endpoint.worker.identity.map web.publicKey = some key.bytes
  keeps : ∀ errand ∈ endpoint.chain, keepsIdentity errand.request = true
  settled : ¬ Starting endpoint.loop
  idle : endpoint.loop.preparing = none

end Waiting

section Calls
open Endpoint

variable {outcalls first : List Outcall} {caller : Caller} {profileId : TransportProfileId}

theorem light_connects (light : ∀ outcall ∈ outcalls, outcall.light = true) :
    ∀ outcall ∈ outcalls, connects outcall = false := by
  intro outcall member
  have quiet := light outcall member
  cases outcall with
  | connect code => cases quiet
  | _ => rfl

theorem light_asks (light : ∀ outcall ∈ outcalls, outcall.light = true) :
    outcalls.filterMap (asked caller profileId) = [] := by
  refine List.filterMap_eq_nil_iff.mpr fun outcall member => ?_
  have quiet := light outcall member
  cases outcall with
  | ask chore awaited => cases quiet
  | _ => rfl

theorem tearDown_connects (light : ∀ outcall ∈ first, outcall.light = true) (forgetSlot : Bool) :
    ∀ outcall ∈ first ++ SessionController.tearDownCalls forgetSlot, connects outcall = false := by
  intro outcall member
  rcases List.mem_append.mp member with early | late
  · exact light_connects light outcall early
  · simp only [SessionController.tearDownCalls, List.mem_cons, List.not_mem_nil, or_false] at late
    rcases late with rfl | rfl <;> rfl

end Calls

section Seclusion
open Endpoint

variable {before after : Loop} {event : Session.Event} {transport next : WebSocketConnection}

theorem Starting.of_fewer (chores : Session.FewerChores before.calls after.calls)
    (starting : Starting after) : Starting before := by
  obtain ⟨ticket, call, pending, found, waits⟩ := starting
  exact ⟨ticket, call, pending, chores ticket call pending waits found, waits⟩

theorem Starting.of_calls (calls : after.calls = before.calls) (starting : Starting after) :
    Starting before := by
  unfold Starting at starting ⊢
  rw [calls] at starting
  exact starting

/-- A lifecycle that has just begun has neither duties nor calls yet. -/
theorem Secluded.of_torn (torn : Torn before.session after.session) (judged : Judged before)
    (timely : Timely before.session) (preparing : after.preparing = before.preparing)
    (down : next.Down) : Secluded after next := by
  refine fun _ => ⟨down, fun work member current => ?_, fun chore waits => ?_⟩
  · have bound := timely work (torn.duties member) _ current
    have advanced := torn.lifecycle
    omega
  · have bound := (judged.waits _ (Or.inr ⟨chore, preparing ▸ waits⟩)).1
    have advanced := torn.lifecycle
    omega

/-- A startup that has its key waits for the connection. -/
theorem not_starting_of_keyed (single : Single before) {ticket lifecycle : Nat} {call : LocalCall}
    (found : before.calls.get? ticket = some call) (startup : call.startup = true)
    (calls : after.calls = ((before.calls.remove ticket).add (.connecting lifecycle)).1) :
    ¬ Starting after := by
  rintro ⟨other, further, pending, held, waits⟩
  rw [(single.replaced found startup calls held (Session.LocalCall.startup_of_chore waits)).2] at waits
  cases waits

/-- Only the startup itself connects, when it no longer waits. -/
theorem starting_connects (asking : Asking before event after) (single : Single before)
    (starting : Starting after) : ∀ outcall ∈ before.outcalls event, connects outcall = false := by
  cases asking with
  | eased _ _ _ light => exact light_connects light
  | ended first forgetSlot _ _ _ _ _ tears light => exact tears ▸ tearDown_connects light forgetSlot
  | started _ _ _ _ _ _ _ _ _ outcalls =>
      simp [outcalls, SessionController.startCalls, SessionController.tearDownCalls, connects]
  | configured _ _ _ _ _ _ _ _ outcalls => simp [outcalls, connects]
  | keyed _ _ _ _ found _ _ calls => exact absurd starting (not_starting_of_keyed single found rfl calls)
  | prepares _ _ _ _ _ _ _ _ outcalls => simp [outcalls, connects]
  | configures _ _ _ _ _ _ outcalls => simp [outcalls, connects]
  | generates _ _ _ _ _ _ _ outcalls => simp [outcalls, connects]
  | rekeyed _ _ _ _ _ _ outcalls => simp [outcalls]

theorem secluded_step (asking : Asking before event after) (judged : Judged before)
    (single : Single before) (timely : Timely before.session) (secluded : Secluded before transport)
    (kept : (∀ outcall ∈ before.outcalls event, connects outcall = false) →
      transport.Down ∨ (∃ outcall ∈ before.outcalls event, disconnects outcall = true) →
      next.Down) : Secluded after next := by
  intro starting
  have calm := kept (starting_connects asking single starting)
  cases asking with
  | eased eased =>
      obtain ⟨down, free, alone⟩ := secluded (starting.of_fewer eased.chores)
      rw [eased.lifecycle]
      exact ⟨calm (Or.inl down), fun work member => free work (eased.duties member),
        fun chore waits => alone chore (eased.preparing _ waits)⟩
  | ended first forgetSlot torn _ _ preparing _ tears =>
      refine Secluded.of_torn torn judged timely preparing (calm (Or.inr ?_)) starting
      exact ⟨.disconnect forgetSlot, by simp [tears, SessionController.tearDownCalls], rfl⟩
  | started _ _ _ _ _ _ torn preparing _ outcalls =>
      refine Secluded.of_torn torn judged timely preparing (calm (Or.inr ?_)) starting
      exact ⟨.disconnect false, by simp [outcalls, SessionController.startCalls,
        SessionController.tearDownCalls], rfl⟩
  | configured ticket lifecycle reply _ found same preparing =>
      obtain ⟨down, free, alone⟩ := secluded ⟨ticket, _, _, found, rfl⟩
      rw [same, preparing]
      exact ⟨calm (Or.inl down), free, alone⟩
  | keyed _ _ _ _ found _ _ calls => exact absurd starting (not_starting_of_keyed single found rfl calls)
  | prepares work _ _ duty current _ _ calls _ =>
      exact absurd current ((secluded (starting.of_calls calls)).2.1 work duty)
  | configures reply _ waited _ _ calls _ =>
      exact absurd waited ((secluded (starting.of_calls calls)).2.2 .reset)
  | generates lifecycle reply _ waited same preparing calls _ =>
      obtain ⟨down, free, alone⟩ := secluded (starting.of_calls calls)
      rw [same]
      refine ⟨calm (Or.inl down), free, fun chore waits => ?_⟩
      rw [preparing] at waits
      cases waits
      exact alone .configure waited
  | rekeyed bytes _ waited _ _ calls _ =>
      exact absurd waited ((secluded (starting.of_calls calls)).2.2 .generateIdentity)

end Seclusion

section Replies
open Endpoint

/-- How an event reaches the session, and the client it finds: it comes by itself, or
the reply to the head of the chain brings it. -/
inductive Brought (before : Endpoint) : Session.Event → Endpoint → Prop where
  | direct {event : Session.Event} : before.relays event = false → Brought before event before
  | start {errand : Errand} {rest : List Errand} {ticket : Nat}
      {raw : Except String CryptoWorker.Reply} : before.chain = errand :: rest →
      before.answer = some raw → errand.caller = .start ticket →
      Brought before (.settle ticket (replied raw)) { before with chain := rest, answer := none }
  | inbound {errand : Errand} {rest : List Errand} {raw : Except String CryptoWorker.Reply} :
      before.chain = errand :: rest → before.answer = some raw → errand.caller = .inbound →
      Brought before (.resume (replied raw)) { before with chain := rest, answer := none }

/-- The reply to the head of the chain, for its caller. -/
structure Replies (before : Endpoint) (caller : Caller) (reply : Session.Reply)
    (rest : List Errand) (errand : Errand) (raw : Except String CryptoWorker.Reply) : Prop where
  chain : before.chain = errand :: rest
  caller : errand.caller = caller
  answer : before.answer = some raw
  reply : reply = replied raw

variable {before start : Endpoint} {event : Session.Event} {reply : Session.Reply}
  {pending : Chore × Nat}

theorem Brought.loop (brought : Brought before event start) : start.loop = before.loop := by
  cases brought <;> rfl

theorem Brought.suffix (brought : Brought before event start) : start.chain <:+ before.chain := by
  cases brought with
  | direct _ => exact List.suffix_rfl
  | start chain => exact chain ▸ List.suffix_cons _ _
  | inbound chain => exact chain ▸ List.suffix_cons _ _

theorem Brought.waiter {ticket : Nat} (brought : Brought before (.settle ticket reply) start) :
    start.waiter (.settle ticket reply) = .start before.loop.calls.next := by
  rw [Endpoint.waiter, brought.loop]

theorem Brought.hears (brought : Brought before event start) : event.hears = false := by
  cases brought with
  | direct free =>
      cases event with
      | transportStatus status => cases free
      | relayEvent relayed => cases free
      | _ => rfl
  | start => rfl
  | inbound => rfl

theorem relays_resume : before.relays (.resume reply) = before.loop.preparing.isSome := by
  simp only [relays, Loop.preparing]
  cases before.loop.running with
  | none => rfl
  | some call => cases call <;> rfl

theorem Brought.settled {ticket : Nat} {call : LocalCall}
    (brought : Brought before (.settle ticket reply) start)
    (found : before.loop.calls.get? ticket = some call) (waits : call.chore = some pending) :
    ∃ errand raw, Replies before (.start ticket) reply start.chain errand raw := by
  cases brought with
  | direct free => simp [relays, found, waits] at free
  | start chain answer caller => exact ⟨_, _, chain, caller, answer, rfl⟩

theorem Brought.resumed (brought : Brought before (.resume reply) start)
    (waits : before.loop.preparing = some pending) :
    ∃ errand raw, Replies before .inbound reply start.chain errand raw := by
  cases brought with
  | direct free => simp [relays_resume, waits] at free
  | inbound chain answer caller => exact ⟨_, _, chain, caller, answer, rfl⟩

theorem replied_key {raw : Except String CryptoWorker.Reply} {bytes : Bytes}
    (same : .key bytes = replied raw) : raw = .ok (.publicKey bytes) := by
  cases raw with
  | error message => cases same
  | ok answer =>
      cases answer with
      | publicKey other =>
          cases same
          rfl
      | _ => cases same

theorem Fits.tail {waiting : Option (Chore × Nat)} {errand : Errand} {rest : List Errand}
    (fits : Fits waiting (errand :: rest)) : rest = [] := by
  cases waiting with
  | none => cases fits
  | some pending =>
      obtain ⟨_, same⟩ := fits
      exact (List.cons.inj same).2

/-- The reply that resumes a preparation takes its request out of the chain. -/
theorem Brought.filter_resumed (brought : Brought before event start)
    (fits : Fits before.loop.preparing (before.chain.filter fromInbound))
    (resumes : event.resumes = true) : start.chain.filter fromInbound = [] := by
  cases brought with
  | direct free =>
      cases event with
      | resume reply =>
          have idle : before.loop.preparing = none := by simpa [relays_resume] using free
          rw [idle] at fits
          exact fits
      | _ => cases resumes
  | start => cases resumes
  | inbound chain _ caller =>
      rw [chain, List.filter_cons_of_pos (by simp [fromInbound, caller])] at fits
      exact fits.tail

/-- No other reply does. -/
theorem Brought.filter_kept (brought : Brought before event start)
    (fits : Fits before.loop.preparing (before.chain.filter fromInbound))
    (idle : event.resumes = true → before.loop.preparing = none) :
    start.chain.filter fromInbound = before.chain.filter fromInbound := by
  cases resumes : event.resumes with
  | true =>
      rw [brought.filter_resumed fits resumes]
      rw [idle resumes] at fits
      exact fits.symm
  | false =>
      cases brought with
      | direct _ => rfl
      | start chain _ caller =>
          rw [chain, List.filter_cons_of_neg (by simp [fromInbound, caller])]
      | inbound => cases resumes

end Replies

section Order
open Endpoint

variable {before start : Endpoint} {after : Loop} {event : Session.Event}
  {profileId : TransportProfileId} {added : List Errand}

theorem not_mem_fromInbound {chain : List Errand} (none : chain.filter fromInbound = [])
    (errand : Errand) (member : errand ∈ chain) : errand.caller ≠ .inbound := by
  have other := List.filter_eq_nil_iff.mp none errand member
  simpa [fromInbound] using other

theorem choreRequest_generates {chore : Chore}
    (same : choreRequest profileId chore = .generateIdentity) : chore = .generateIdentity := by
  cases chore with
  | generateIdentity => rfl
  | _ => cases same

/-- A turn that asks the worker for nothing. -/
theorem Ordered.eased (ordered : Ordered before.loop before.chain) (eased : Eased before.loop after)
    {chain : List Errand} (ends : chain <:+ before.chain)
    (fits : Fits after.preparing (chain.filter fromInbound)) : Ordered after chain where
  tickets errand member ticket caller :=
    (ordered.tickets errand (ends.subset member) ticket caller).trans_le eased.next
  inbound := fits
  configuring ticket held := by
    rw [eased.lifecycle] at held
    exact (ordered.configuring ticket (eased.chores ticket _ _ rfl held)).suffix ends
  generating ticket held := by
    rw [eased.lifecycle] at held
    obtain ⟨followed, others⟩ := ordered.generating ticket (eased.chores ticket _ _ rfl held)
    exact ⟨followed.suffix ends, fun pending waits => others pending (eased.preparing pending waits)⟩
  preparing chore waits := by
    rw [eased.lifecycle] at waits
    exact (ordered.preparing chore (eased.preparing _ waits)).suffix ends

/-- What was suspended before a lifecycle began belongs to an older one. -/
theorem Judged.older {loop : Loop} (judged : Judged loop)
    (torn : Torn loop.session after.session) : ¬ loop.Waits after.session.lifecycleEpoch := by
  intro waits
  have bound := (judged.waits _ waits).1
  have advanced := torn.lifecycle
  omega

/-- The lifecycle ends, and with it every demand on the order. -/
theorem Ordered.torn (ordered : Ordered before.loop before.chain) (judged : Judged before.loop)
    (torn : Torn before.loop.session after.session)
    (chores : Session.FewerChores before.loop.calls after.calls)
    (next : before.loop.calls.next ≤ after.calls.next)
    (preparing : after.preparing = before.loop.preparing) {chain : List Errand}
    (ends : chain <:+ before.chain) (fits : Fits after.preparing (chain.filter fromInbound))
    (request : CryptoWorker.Request) : Ordered after (chain ++ [⟨request, .nobody⟩]) := by
  have older := Judged.older judged torn
  refine ⟨fun errand member ticket caller => ?_, ?_, fun ticket held => ?_, fun ticket held => ?_,
    fun chore waits => ?_⟩
  · rcases List.mem_append.mp member with old | new
    · exact (ordered.tickets errand (ends.subset old) ticket caller).trans_le next
    · cases List.mem_singleton.mp new
      cases caller
  · simpa [List.filter_append, fromInbound] using fits
  · exact absurd (Or.inl ⟨ticket, _, _, chores ticket _ _ rfl held, rfl⟩) older
  · exact absurd (Or.inl ⟨ticket, _, _, chores ticket _ _ rfl held, rfl⟩) older
  · exact absurd (Or.inr ⟨chore, preparing ▸ waits⟩) older

/-- A startup goes on and asks the worker. Its new ticket stands nowhere else in the
chain, and no other startup is there. -/
theorem Ordered.starts {loop : Loop} (single : Single loop) {ticket : Nat} {call next : LocalCall}
    (found : loop.calls.get? ticket = some call) (startup : call.startup = true)
    (calls : after.calls = ((loop.calls.remove ticket).add next).1) {chain : List Errand}
    (tickets : ∀ errand ∈ chain, ∀ ticket, errand.caller = .start ticket → ticket < loop.calls.next)
    (fits : Fits after.preparing (chain.filter fromInbound))
    (alone : ∀ chore, after.preparing ≠ some (chore, after.session.lifecycleEpoch))
    (others : next = .generating after.session.lifecycleEpoch →
      ∀ pending, after.preparing = some pending → pending.1 = .generateIdentity)
    (request : CryptoWorker.Request) :
    Ordered after (chain ++ [⟨request, .start loop.calls.next⟩]) := by
  have further : after.calls.next = loop.calls.next + 1 := by
    rw [calls]
    rfl
  have absent : ∀ errand ∈ chain, errand.caller ≠ .start loop.calls.next :=
    fun errand member same => Nat.lt_irrefl _ (tickets errand member _ same)
  refine ⟨fun errand member other caller => ?_, ?_, fun other held => ?_, fun other held => ?_,
    fun chore waits => absurd waits (alone chore)⟩
  · rw [further]
    rcases List.mem_append.mp member with old | new
    · exact Nat.lt_succ_of_lt (tickets errand old other caller)
    · cases List.mem_singleton.mp new
      cases caller
      exact Nat.lt_succ_self _
  · simpa [List.filter_append, fromInbound] using fits
  · rw [(single.replaced found startup calls held rfl).1]
    exact .of_absent absent _
  · obtain ⟨newest, same⟩ := single.replaced found startup calls held rfl
    rw [newest]
    exact ⟨.of_absent absent _, others same.symm⟩

/-- A preparation goes on and asks the worker. -/
theorem Ordered.prepares (ordered : Ordered before.loop before.chain)
    (calls : after.calls = before.loop.calls)
    (lifecycle : after.session.lifecycleEpoch = before.loop.session.lifecycleEpoch)
    {pending : Chore × Nat} (preparing : after.preparing = some pending) {chain : List Errand}
    (ends : chain <:+ before.chain) (free : chain.filter fromInbound = [])
    (configuring : ∀ ticket,
      before.loop.calls.get? ticket = some (.configuring before.loop.session.lifecycleEpoch) →
      pending.1 = .generateIdentity)
    (generating : ∀ ticket,
      before.loop.calls.get? ticket ≠ some (.generating before.loop.session.lifecycleEpoch)) :
    Ordered after (chain ++ [⟨choreRequest profileId pending.1, .inbound⟩]) := by
  refine ⟨fun errand member ticket caller => ?_, ?_, fun ticket held => ?_, fun ticket held => ?_,
    fun chore waits => ?_⟩
  · rw [calls]
    rcases List.mem_append.mp member with old | new
    · exact ordered.tickets errand (ends.subset old) ticket caller
    · cases List.mem_singleton.mp new
      cases caller
  · rw [preparing, List.filter_append, free]
    exact ⟨profileId, rfl⟩
  · rw [calls, lifecycle] at held
    refine ((ordered.configuring ticket held).suffix ends).append fun errand member => Or.inr ?_
    rw [List.mem_singleton.mp member, configuring ticket held]
    rfl
  · rw [calls, lifecycle] at held
    exact absurd held (generating ticket)
  · exact .of_absent (not_mem_fromInbound free) _

/-- `start` clears the worker and asks it for a profile. -/
theorem Ordered.started (ordered : Ordered before.loop before.chain) (judged : Judged before.loop)
    (single : Single before.loop) {ticket : Nat} {phase : Session.StartPhase}
    {reply : Session.Reply}
    (brought : Brought before (.settle ticket reply) start)
    (found : before.loop.calls.get? ticket = some (.lookingUp phase))
    (torn : Torn before.loop.session after.session)
    (preparing : after.preparing = before.loop.preparing)
    (calls : after.calls = ((before.loop.calls.remove ticket).add
      (.configuring after.session.lifecycleEpoch)).1) (request : CryptoWorker.Request) :
    Ordered after (start.chain ++ [⟨.reset, .nobody⟩] ++
      [⟨request, .start before.loop.calls.next⟩]) := by
  have fits := ordered.inbound
  refine .starts single found rfl calls (fun errand member other caller => ?_) ?_ ?_ ?_ _
  · rcases List.mem_append.mp member with old | new
    · exact ordered.tickets errand (brought.suffix.subset old) other caller
    · cases List.mem_singleton.mp new
      cases caller
  · rw [List.filter_append, brought.filter_kept fits (by simp [Session.Event.resumes]), preparing]
    simpa [fromInbound] using fits
  · intro chore waits
    exact Judged.older judged torn (Or.inr ⟨chore, preparing ▸ waits⟩)
  · intro other
    cases other

/-- The profile is set, and a key is asked for. -/
theorem Ordered.configured (ordered : Ordered before.loop before.chain)
    (single : Single before.loop) (secluded : Secluded before.loop before.transport)
    {ticket lifecycle : Nat} {reply : Session.Reply}
    (brought : Brought before (.settle ticket reply) start)
    (found : before.loop.calls.get? ticket = some (.configuring lifecycle))
    (same : after.session = before.loop.session) (preparing : after.preparing = before.loop.preparing)
    (calls : after.calls = ((before.loop.calls.remove ticket).add (.generating lifecycle)).1)
    (request : CryptoWorker.Request) :
    Ordered after (start.chain ++ [⟨request, .start before.loop.calls.next⟩]) := by
  have fits := ordered.inbound
  have starting : Starting before.loop := ⟨ticket, _, _, found, rfl⟩
  obtain ⟨errand, raw, replies⟩ := brought.settled found rfl
  have kept := brought.filter_kept fits (by simp [Session.Event.resumes])
  refine .starts single found rfl calls
    (fun errand member => ordered.tickets errand (brought.suffix.subset member)) ?_ ?_ ?_ _
  · rw [preparing, kept]
    exact fits
  · rw [preparing, same]
    exact (secluded starting).2.2
  · -- The request of a preparation stands behind ours, so it is its last one.
    intro current pending waits
    rw [preparing] at waits
    have current : lifecycle = before.loop.session.lifecycleEpoch := by
      rw [same] at current
      cases current
      rfl
    subst current
    have followed := ordered.configuring ticket found
    rw [replies.chain] at followed
    rw [waits, ← kept] at fits
    obtain ⟨profile, alone⟩ := fits
    have member : ⟨choreRequest profile pending.1, .inbound⟩ ∈ start.chain :=
      (List.mem_filter.mp (alone ▸ List.mem_singleton_self _)).1
    rcases followed.head replies.caller _ member with ⟨other, _⟩ | generates
    · cases other
    · exact choreRequest_generates (congrArg Errand.request generates)

theorem ordered_step (asking : Asking before.loop event after) (brought : Brought before event start)
    (judged : Judged before.loop) (single : Single before.loop)
    (secluded : Secluded before.loop before.transport) (ordered : Ordered before.loop before.chain) :
    Ordered after (start.chain ++
      (before.loop.outcalls event).filterMap (asked (start.waiter event) profileId)) := by
  have ends := brought.suffix
  have fits := ordered.inbound
  cases asking with
  | eased eased _ inbound light =>
      rw [light_asks light, List.append_nil]
      refine ordered.eased eased ends ?_
      rcases inbound with ⟨same, idle⟩ | ⟨settled, resumes⟩
      · rw [same, brought.filter_kept fits idle]
        exact fits
      · rw [settled, brought.filter_resumed fits resumes]
        rfl
  | ended first forgetSlot torn chores next preparing between tears light =>
      rw [tears, List.filterMap_append, light_asks light]
      refine ordered.torn judged torn chores next preparing ends ?_ .reset
      rw [preparing, brought.filter_kept fits (by simp [between])]
      exact fits
  | started ticket phase reply profile asks found torn preparing calls outcalls =>
      subst asks
      have asks : (SessionController.startCalls profile).filterMap
          (asked (.start before.loop.calls.next) profileId) =
          [⟨.reset, .nobody⟩] ++ [⟨.configure (configurePayload profileId),
            .start before.loop.calls.next⟩] := rfl
      rw [outcalls, brought.waiter, asks, ← List.append_assoc]
      exact ordered.started judged single brought found torn preparing calls _
  | configured ticket lifecycle reply asks found same preparing calls outcalls =>
      subst asks
      rw [outcalls, brought.waiter]
      exact ordered.configured single secluded brought found same preparing calls _
  | keyed ticket bytes code asks found made preparing calls outcalls =>
      subst asks
      rw [outcalls]
      have eased : Eased before.loop after := by
        refine ⟨by rw [made]; rfl, by rw [made]; exact List.Subset.refl _, ?_, ?_, by simp [preparing]⟩
        · rw [calls]
          exact Session.FewerChores.remove.trans (.add rfl)
        · rw [calls]
          exact Nat.le_succ _
      have kept := brought.filter_kept fits (by simp [Session.Event.resumes])
      rw [show [Outcall.connect code].filterMap (asked (start.waiter (.settle ticket (.key bytes)))
        profileId) = [] from rfl, List.append_nil]
      refine ordered.eased eased ends ?_
      rw [preparing, kept]
      exact fits
  | prepares work asks idle duty current fresh preparing calls outcalls =>
      subst asks
      have alone : ¬ Starting before.loop := fun starting => (secluded starting).2.1 work duty current
      have free : start.chain.filter fromInbound = [] := by
        rw [brought.filter_kept fits (by simp [Session.Event.resumes])]
        rw [idle] at fits
        exact fits
      rw [outcalls]
      exact ordered.prepares calls fresh.lifecycle preparing ends free
        (fun ticket held => absurd ⟨ticket, _, _, held, rfl⟩ alone)
        (fun ticket held => alone ⟨ticket, _, _, held, rfl⟩)
  | configures reply asks waited same preparing calls outcalls =>
      subst asks
      have alone : ¬ Starting before.loop := fun starting => (secluded starting).2.2 .reset waited
      rw [outcalls]
      exact ordered.prepares calls (by rw [same]) preparing ends (brought.filter_resumed fits rfl)
        (fun ticket held => absurd ⟨ticket, _, _, held, rfl⟩ alone)
        (fun ticket held => alone ⟨ticket, _, _, held, rfl⟩)
  | generates lifecycle reply asks waited same preparing calls outcalls =>
      subst asks
      rw [outcalls]
      refine ordered.prepares calls (by rw [same]) preparing ends (brought.filter_resumed fits rfl)
        (fun _ _ => rfl) (fun ticket held => ?_)
      cases (ordered.generating ticket held).2 _ waited
  | rekeyed bytes asks waited steady settled calls outcalls =>
      subst asks
      rw [outcalls, List.filterMap_nil, List.append_nil]
      have eased : Eased before.loop after := by
        refine ⟨steady.lifecycle, steady.duties, ?_, ?_, by simp [settled]⟩
        · rw [calls]
          exact .of_same (.refl _)
        · rw [calls]
      refine ordered.eased eased ends ?_
      rw [settled, brought.filter_resumed fits rfl]
      rfl

end Order

section Identity
open Endpoint

variable {web : CryptoWorker.WebCrypto} {before start finish : Endpoint} {event : Session.Event}
  {profileId : TransportProfileId} {key : PublicKey}

/-- A reply with a key is about the pair that the worker holds. -/
def Answers (web : CryptoWorker.WebCrypto) (self : Endpoint) : Prop :=
  ∀ raw, self.answer = some (.ok (.publicKey raw)) →
    self.worker.identity.map web.publicKey = some raw

theorem Replies.held {caller : Caller} {bytes : Bytes} {rest : List Errand} {errand : Errand}
    {raw : Except String CryptoWorker.Reply} (answers : Answers web before)
    (replies : Replies before caller (.key bytes) rest errand raw) :
    before.worker.identity.map web.publicKey = some bytes :=
  answers bytes (replies.answer.trans (congrArg some (replied_key replies.reply)))

theorem holds_step (asking : Asking before.loop event finish.loop)
    (brought : Brought before event start) (single : Single before.loop)
    (secluded : Secluded before.loop before.transport) (ordered : Ordered before.loop before.chain)
    (answers : Answers web before)
    (holds : ∀ key, before.loop.session.localPublicKey = some key → Holds web key before)
    (worker : finish.worker = before.worker)
    (chain : finish.chain = start.chain ++
      (before.loop.outcalls event).filterMap (asked (start.waiter event) profileId))
    (known : finish.loop.session.localPublicKey = some key) : Holds web key finish := by
  have ends := brought.suffix
  cases asking with
  | eased eased same _ light =>
      have held := holds key (same.symm.trans known)
      refine ⟨worker ▸ held.held, fun errand member => ?_, fun starting => ?_, ?_⟩
      · rw [chain, light_asks light, List.append_nil] at member
        exact held.keeps errand (ends.subset member)
      · exact held.settled (starting.of_fewer eased.chores)
      · refine Option.eq_none_iff_forall_ne_some.mpr fun pending waits => ?_
        have earlier := eased.preparing pending waits
        rw [held.idle] at earlier
        cases earlier
  | ended _ _ torn =>
      rw [torn.key] at known
      cases known
  | started _ _ _ _ _ _ torn =>
      rw [torn.key] at known
      cases known
  | configured ticket lifecycle reply _ found same =>
      rw [same] at known
      exact absurd ⟨ticket, _, _, found, rfl⟩ (holds key known).settled
  | keyed ticket bytes code asks found made preparing calls outcalls =>
      subst asks
      rw [made] at known
      cases known
      obtain ⟨errand, raw, replies⟩ := brought.settled found rfl
      have followed := (ordered.generating ticket found).1
      rw [replies.chain] at followed
      have plain := followed.head replies.caller
      refine ⟨worker ▸ replies.held answers, fun later member => ?_,
        not_starting_of_keyed single found rfl calls, ?_⟩
      · rw [chain, outcalls] at member
        exact (plain later (by simpa [asked] using member)).2
      · -- A preparation would have its request behind ours.
        have fits := ordered.inbound
        rw [← brought.filter_kept fits (by simp [Session.Event.resumes])] at fits
        have free : start.chain.filter fromInbound = [] := by
          refine List.filter_eq_nil_iff.mpr fun later member => ?_
          simp [fromInbound, (plain later member).1]
        rw [preparing]
        cases waits : before.loop.preparing with
        | none => rfl
        | some pending =>
            rw [waits, free] at fits
            obtain ⟨_, other⟩ := fits
            cases other
  | prepares _ _ _ _ _ fresh =>
      rw [fresh.key] at known
      cases known
  | configures reply _ waited same =>
      rw [same] at known
      rw [(holds key known).idle] at waited
      cases waited
  | generates lifecycle reply _ waited same =>
      rw [same] at known
      rw [(holds key known).idle] at waited
      cases waited
  | rekeyed bytes asks waited steady settled calls outcalls =>
      subst asks
      rw [steady.key] at known
      cases known
      obtain ⟨errand, raw, replies⟩ := brought.resumed waited
      have followed := ordered.preparing .generateIdentity waited
      rw [replies.chain] at followed
      refine ⟨worker ▸ replies.held answers, fun later member => ?_, fun starting => ?_, settled⟩
      · rw [chain, outcalls] at member
        exact (followed.head replies.caller later (by simpa using member)).2
      · exact (secluded (starting.of_calls calls)).2.2 .generateIdentity waited

end Identity

section Aligned
open Endpoint

/-- The invariant of a client. -/
structure Aligned (web : CryptoWorker.WebCrypto) (endpoint : Endpoint) : Prop where
  judged : Judged endpoint.loop
  single : Single endpoint.loop
  timely : Timely endpoint.loop.session
  orderly : endpoint.transport.Orderly
  secluded : Secluded endpoint.loop endpoint.transport
  ordered : Ordered endpoint.loop endpoint.chain
  answers : Answers web endpoint
  holds : ∀ key, endpoint.loop.session.localPublicKey = some key → Holds web key endpoint

variable {surroundings : Surroundings} {web : CryptoWorker.WebCrypto} {before start after : Endpoint}
  {outside : Outside} {notes : List Note}

theorem aligned_create : Aligned web Endpoint.create := by
  have nobody : ¬ Starting Endpoint.create.loop := by
    rintro ⟨ticket, call, pending, found, _⟩
    cases found
  refine ⟨⟨?_, ?_, ?_⟩, Single.of_none ?_, ?_, ?_, fun starting => absurd starting nobody,
    ⟨?_, rfl, ?_, ?_, ?_⟩, ?_, ?_⟩
  · intro known
    exact absurd rfl known
  · rintro lifecycle (⟨ticket, call, chore, found, _⟩ | ⟨chore, waits⟩)
    · cases found
    · cases waits
  · intro shaking
    cases shaking
  · intro ticket call found
    cases found
  · intro work member
    cases member
  · intro id socket known
    cases known
  · intro errand member
    cases member
  · intro ticket found
    cases found
  · intro ticket found
    cases found
  · intro chore waits
    cases waits
  · intro raw answer
    cases answer
  · intro key known
    cases known

/-- The sockets move and messages are encrypted beside it. -/
theorem Aligned.moved (aligned : Aligned web before) {transport : WebSocketConnection}
    (orderly : transport.Orderly) (down : before.transport.Down → transport.Down)
    (sends : Callbacks RawSend) :
    Aligned web { before with transport := transport, sends := sends } where
  judged := aligned.judged
  single := aligned.single
  timely := aligned.timely
  orderly := orderly
  secluded starting := by
    obtain ⟨already, rest⟩ := aligned.secluded starting
    exact ⟨down already, rest⟩
  ordered := aligned.ordered
  answers := aligned.answers
  holds key known := by
    have held := aligned.holds key known
    exact ⟨held.held, held.keeps, held.settled, held.idle⟩

/-- The session hears of the connection. -/
theorem Aligned.heard (aligned : Aligned web before) {loop : Loop} (heard : Heard before.loop loop)
    (hushed : Starting before.loop → loop.session.duties = before.loop.session.duties) :
    Aligned web { before with loop := loop } := by
  have lifecycle := heard.lifecycle
  have preparing := Session.Loop.preparing_of_running heard.running
  have agreeing := Session.Loop.agreeing_of_running heard.running
  have key : loop.session.localPublicKey = before.loop.session.localPublicKey :=
    congrArg Session.Core.localPublicKey heard.core
  have same : Session.SameStartups before.loop.calls loop.calls :=
    heard.calls ▸ Session.SameStartups.refl _
  refine ⟨?_, ?_, ?_, aligned.orderly, ?_, ⟨?_, ?_, ?_, ?_, ?_⟩, aligned.answers, ?_⟩
  · exact aligned.judged.frame lifecycle (congrArg Session.Core.secure heard.core)
      (fun agreed => (congrArg Session.Core.security heard.core).symm.trans agreed) key
      (fun _ waits => waits.of_same same preparing) (fun shaking => Or.inl (agreeing ▸ shaking))
  · exact aligned.single.of_same same (congrArg Session.Core.startupInFlight heard.core)
  · intro work member other queued
    simp only [lifecycle]
    rcases heard.duties work member with earlier | current
    · exact aligned.timely work earlier other queued
    · rw [current] at queued
      cases queued
      exact le_rfl
  · intro starting
    have earlier := starting.of_calls heard.calls
    obtain ⟨down, free, alone⟩ := aligned.secluded earlier
    simp only [lifecycle, hushed earlier, preparing]
    exact ⟨down, free, alone⟩
  · simpa only [heard.calls] using aligned.ordered.tickets
  · simpa only [preparing] using aligned.ordered.inbound
  · simpa only [heard.calls, lifecycle] using aligned.ordered.configuring
  · simpa only [heard.calls, lifecycle, preparing] using aligned.ordered.generating
  · simpa only [lifecycle, preparing] using aligned.ordered.preparing
  · intro other known
    have held := aligned.holds other (key ▸ known)
    exact ⟨held.held, held.keeps, fun starting => held.settled (starting.of_calls heard.calls),
      preparing.trans held.idle⟩

theorem Brought.answers {event : Session.Event} (brought : Brought before event start)
    (answers : Answers web before) : Answers web start := by
  cases brought with
  | direct _ => exact answers
  | start => exact fun _ answer => by cases answer
  | inbound => exact fun _ answer => by cases answer

/-- A turn of the session, with the calls it makes and what it hears of them. -/
theorem Aligned.turn {event : Session.Event} (aligned : Aligned surroundings.web before)
    (brought : Brought before event start)
    (turned : start.turn surroundings outside event = some (after, notes)) :
    Aligned surroundings.web after := by
  obtain ⟨next, outputs, called, stepped, ran, rfl, rfl⟩ := turn_split turned
  have ran := calls_ran ran
  have loop := brought.loop
  have transport : start.transport = before.transport := by cases brought <;> rfl
  have worker : start.worker = before.worker := by cases brought <;> rfl
  rw [loop] at stepped ran
  have move := Session.Loop.step_moves stepped
  have asking := move.asking brought.hears
  have middle : Aligned surroundings.web { called.endpoint with loop := next } := by
    refine ⟨move.judged aligned.judged, move.single aligned.single,
      move.timely brought.hears aligned.timely, ran.orderly (transport ▸ aligned.orderly), ?_, ?_, ?_,
      fun key known => ?_⟩
    · exact secluded_step asking aligned.judged aligned.single aligned.timely aligned.secluded
        (transport ▸ ran.down)
    · simp only [ran.chain]
      exact ordered_step asking brought aligned.judged aligned.single aligned.secluded aligned.ordered
    · intro raw answer
      simp only [ran.answer] at answer
      simp only [ran.worker]
      exact brought.answers aligned.answers raw answer
    · exact holds_step asking brought aligned.single aligned.secluded aligned.ordered aligned.answers
        aligned.holds (ran.worker.trans worker) ran.chain known
  refine middle.heard (foldl_heard next called.heard) fun starting => ?_
  rw [ran.silent (starting_connects asking aligned.single starting)]
  rfl

/-- Each announced key has its private part in the worker. -/
theorem turn_announces {event : Session.Event} (aligned : Aligned surroundings.web before)
    (brought : Brought before event start)
    (turned : start.turn surroundings outside event = some (after, notes)) {key : PublicKey}
    {held : Option Bytes} (noted : .announced key held ∈ notes) : held = some key.bytes := by
  obtain ⟨next, outputs, called, _, ran, rfl, rfl⟩ := turn_split turned
  obtain ⟨same, accepted, announced⟩ := (calls_ran ran).announced key held noted
  have worker : start.worker = before.worker := by cases brought <;> rfl
  rw [brought.loop] at announced
  obtain ⟨_, _, known, _⟩ := outcalls_announce announced
  rw [same, worker]
  exact (aligned.holds key known).held

/-- A request that leaves the pair alone joins the chain. -/
theorem Aligned.asks (aligned : Aligned web before) {request : CryptoWorker.Request}
    (keeps : keepsIdentity request = true) :
    Aligned web { before with chain := before.chain ++ [⟨request, .nobody⟩] } := by
  have ordered := aligned.ordered
  have plain : ∀ errand ∈ [(⟨request, .nobody⟩ : Errand)], errand.plain := by
    intro errand member
    rw [List.mem_singleton.mp member]
    exact ⟨rfl, keeps⟩
  refine ⟨aligned.judged, aligned.single, aligned.timely, aligned.orderly, aligned.secluded,
    ⟨fun errand member ticket caller => ?_, ?_, fun ticket held => ?_, fun ticket held => ?_,
      fun chore waits => (ordered.preparing chore waits).append plain⟩, aligned.answers,
    fun key known => ?_⟩
  · rcases List.mem_append.mp member with old | new
    · exact ordered.tickets errand old ticket caller
    · rw [(plain errand new).1] at caller
      cases caller
  · simpa [List.filter_append, fromInbound] using ordered.inbound
  · exact (ordered.configuring ticket held).append fun errand member => Or.inl (plain errand member)
  · obtain ⟨followed, others⟩ := ordered.generating ticket held
    exact ⟨followed.append plain, others⟩
  · have held := aligned.holds key known
    refine ⟨held.held, fun errand member => ?_, held.settled, held.idle⟩
    rcases List.mem_append.mp member with old | new
    · exact held.keeps errand old
    · exact (plain errand new).2

/-- The worker answers the head of the chain. -/
theorem Aligned.works (aligned : Aligned web before) {errand : Errand} {rest : List Errand}
    (chain : before.chain = errand :: rest) (entropy : CryptoWorker.Entropy)
    (failure : Option String) :
    Aligned web { before with
      worker := (answerRequest web entropy failure before.worker errand.request).1
      answer := some (answerRequest web entropy failure before.worker errand.request).2 } := by
  refine ⟨aligned.judged, aligned.single, aligned.timely, aligned.orderly, aligned.secluded,
    aligned.ordered, fun raw answer => ?_, fun key known => ?_⟩
  · exact answerRequest_publicKey (Option.some.inj answer)
  · have held := aligned.holds key known
    refine ⟨?_, held.keeps, held.settled, held.idle⟩
    rw [answerRequest_keeps (held.keeps errand (by simp [chain]))]
    exact held.held

/-- A reply that nobody waits for. -/
theorem Aligned.passes (aligned : Aligned web before) {errand : Errand} {rest : List Errand}
    (chain : before.chain = errand :: rest) (caller : errand.caller = .nobody) :
    Aligned web { before with chain := rest, answer := none } := by
  have ends : rest <:+ before.chain := chain ▸ List.suffix_cons errand rest
  have same : Eased before.loop before.loop :=
    ⟨rfl, List.Subset.refl _, fun _ _ _ _ held => held, le_rfl, fun _ waits => waits⟩
  refine ⟨aligned.judged, aligned.single, aligned.timely, aligned.orderly, aligned.secluded,
    aligned.ordered.eased same ends ?_, fun raw answer => (by cases answer), fun key known => ?_⟩
  · have fits := aligned.ordered.inbound
    rw [chain, List.filter_cons_of_neg (by simp [fromInbound, caller])] at fits
    exact fits
  · have held := aligned.holds key known
    exact ⟨held.held, fun later member => held.keeps later (ends.subset member), held.settled,
      held.idle⟩

theorem aligned_step {event : Event} (aligned : Aligned surroundings.web before)
    (stepped : before.step surroundings event = some (after, notes)) :
    Aligned surroundings.web after ∧
      ∀ key held, .announced key held ∈ notes → held = some key.bytes := by
  have silent : ∀ key held, .announced key held ∈ ([] : List Note) → held = some key.bytes := by
    intro key held member
    cases member
  cases event with
  | session event outside =>
      simp only [step] at stepped
      split at stepped
      · cases stepped
      · rename_i free
        have brought : Brought before event before := .direct (Bool.eq_false_iff.mpr free)
        exact ⟨aligned.turn brought stepped, fun _ _ => turn_announces aligned brought stepped⟩
  | transport event =>
      simp only [step] at stepped
      split at stepped
      · rename_i fires
        obtain ⟨⟨transport, outputs⟩, went, same⟩ := Option.map_eq_some_iff.mp stepped
        cases same
        refine ⟨?_, silent⟩
        have moved : Aligned surroundings.web { before with transport := transport } :=
          aligned.moved (aligned.orderly.step went)
            (fun down => (down_hushed down aligned.orderly fires went).1) before.sends
        -- A startup has the connection down, and then the loop hears of nothing that matters.
        refine moved.heard (foldl_heard before.loop outputs) fun starting => ?_
        have down := (aligned.secluded starting).1
        exact foldl_hushed before.loop (down_hushed down aligned.orderly fires went).2
      · cases stepped
  | sendRawApp lane buffered =>
      cases stepped
      refine ⟨?_, silent⟩
      simp only [sendRawApp]
      split
      · exact aligned
      · split
        · exact aligned
        · exact aligned.moved aligned.orderly id _
  | encrypted ticket result buffered =>
      obtain ⟨⟨task, rest⟩, taken, same⟩ := Option.map_eq_some_iff.mp stepped
      have taken : Aligned surroundings.web { before with sends := rest } :=
        aligned.moved aligned.orderly id rest
      cases result with
      | none =>
          cases same
          exact ⟨taken, silent⟩
      | some result =>
          simp only [encrypted] at same
          split at same
          · cases same
            exact ⟨taken, silent⟩
          · cases same
            refine ⟨?_, fun _ _ noted => absurd noted send_announced⟩
            exact taken.moved (aligned.orderly.untouched (before.transport.send_untouched buffered _))
              (fun down => (down.send _).1) rest
  | ask request =>
      simp only [step] at stepped
      split at stepped
      · rename_i keeps
        cases stepped
        exact ⟨aligned.asks keeps, silent⟩
      · cases stepped
  | work entropy failure =>
      simp only [step] at stepped
      split at stepped
      · rename_i chain _
        cases stepped
        exact ⟨aligned.works chain entropy failure, silent⟩
      · cases stepped
  | deliver outside =>
      simp only [step] at stepped
      split at stepped
      · rename_i errand rest reply chain answer
        simp only [deliver] at stepped
        split at stepped
        · rename_i caller
          cases stepped
          exact ⟨aligned.passes chain caller, silent⟩
        · rename_i ticket caller
          have brought := Brought.start chain answer caller
          exact ⟨aligned.turn brought stepped, fun _ _ => turn_announces aligned brought stepped⟩
        · rename_i caller
          have brought := Brought.inbound chain answer caller
          exact ⟨aligned.turn brought stepped, fun _ _ => turn_announces aligned brought stepped⟩
      · cases stepped

end Aligned

section Runs

/-- In every run of a client: while `localPublicKey` is set, it is the public key of
the pair that the worker holds, and no request in the chain replaces that pair. And
whenever a handshake was handed to the connection, the worker held the pair of the
key in it. -/
theorem key_belongs_to_worker (surroundings : Surroundings) {finish : Endpoint}
    {history : List Note}
    (run : Machine.Run (machine surroundings) Machine.Unrestricted Endpoint.create finish history) :
    (∀ key, finish.loop.session.localPublicKey = some key →
      finish.worker.identity.map surroundings.web.publicKey = some key.bytes ∧
      ∀ errand ∈ finish.chain, errand.request ≠ .reset ∧ errand.request ≠ .generateIdentity) ∧
    ∀ key held, .announced key held ∈ history → held = some key.bytes := by
  have aligned : Aligned surroundings.web finish ∧
      ∀ key held, .announced key held ∈ history → held = some key.bytes := by
    apply run.invariant fun endpoint past => Aligned surroundings.web endpoint ∧
      ∀ key held, .announced key held ∈ past → held = some key.bytes
    · exact ⟨aligned_create, fun key held member => by cases member⟩
    · rintro before past event after notes ⟨aligned, announced⟩ _ stepped
      obtain ⟨kept, new⟩ := aligned_step aligned stepped
      refine ⟨kept, fun key held member => ?_⟩
      rcases List.mem_append.mp member with earlier | now
      · exact announced key held earlier
      · exact new key held now
  refine ⟨fun key known => ?_, aligned.2⟩
  have held := aligned.1.holds key known
  refine ⟨held.held, fun errand member => ⟨fun same => ?_, fun same => ?_⟩⟩
  · have keeps := held.keeps errand member
    rw [same] at keeps
    cases keeps
  · have keeps := held.keeps errand member
    rw [same] at keeps
    cases keeps

end Runs

section Samples

/-- The connection breaks before the greeting is out, and a preparation waits for its
`CONFIGURE` when the user leaves and creates another room. The preparation makes a pair
before it notices; the startup makes another one after it. -/
def sampleLate : List Event :=
  sampleRoom ++
  [.transport (.closed 0 1006 ""), .session .begin sampleOutside,
    .session (.settle 4 (.flag true)) sampleOutside] ++
  sampleAnswer ++
  [.session (.request .disconnect) sampleOutside, .session (.request .createRoom) sampleOutside,
    .session (.settle 5 (.room "EFGH-ABCD" .balanced)) sampleOutside] ++
  sampleAnswer ++ sampleAnswer ++ sampleAnswer ++ sampleAnswer ++ sampleAnswer ++
  [.work ⟨Session.sampleKey 7, fun _ => 0, fun _ => 0⟩ none, .deliver sampleOutside]

end Samples

/-- After the late preparation the session has the key of the startup, and so has
the worker. -/
theorem sample_late_preparation :
    ∃ finish history,
      Machine.Run (machine sampleSurroundings) Machine.Unrestricted Endpoint.create finish history ∧
      finish.loop.session.localPublicKey = some ⟨2, Session.sampleKey 7⟩ ∧
      finish.worker.identity.map sampleSurroundings.web.publicKey = some (Session.sampleKey 7) := by
  have ran : ((machine sampleSurroundings).execute Endpoint.create sampleLate).map (fun result =>
      result.1.loop.session.localPublicKey) = some (some ⟨2, Session.sampleKey 7⟩) := by
    decide +kernel
  obtain ⟨⟨finish, history⟩, executed, known⟩ := Option.map_eq_some_iff.mp ran
  have run := Machine.execute_run _ (Machine.along_unrestricted _ _) executed
  exact ⟨finish, history, run, known, ((key_belongs_to_worker _ run).1 _ known).1⟩

end OnlyTwo.Client
