import OnlyTwo.SessionVerified

/-!
The calls of `createRoom` and `joinRoom`. `startupInFlight` lets one of them in at a
time, until its last await has settled, however often the user disconnects meanwhile.
No work waits in the inbound queue for a lifecycle that has not begun. What a turn
does to those who wait for the worker is summed up in `Asking`.
-/

namespace OnlyTwo.Session

open Bytes AppMessages

section Startups

/-- At most one startup is suspended, and then the flag is up. -/
structure Single (loop : Loop) : Prop where
  inFlight : ∀ ticket call, loop.calls.get? ticket = some call → call.startup = true →
    loop.session.startupInFlight = true
  only : ∀ ticket call other further, loop.calls.get? ticket = some call → call.startup = true →
    loop.calls.get? other = some further → further.startup = true → other = ticket

variable {before after : Loop} {event : Event} {ticket : Nat} {call : LocalCall}

theorem Single.of_none (none : ∀ ticket call, after.calls.get? ticket = some call →
    call.startup = false) : Single after where
  inFlight ticket call found startup := by
    rw [none ticket call found] at startup
    cases startup
  only ticket call other further found startup := by
    rw [none ticket call found] at startup
    cases startup

theorem Single.of_same (single : Single before) (calls : SameStartups before.calls after.calls)
    (flag : after.session.startupInFlight = before.session.startupInFlight) : Single after where
  inFlight ticket call found startup := by
    rw [flag]
    exact single.inFlight ticket call ((calls.held ticket call startup).mp found) startup
  only ticket call other further found startup later starts :=
    single.only ticket call other further ((calls.held ticket call startup).mp found) startup
      ((calls.held other further starts).mp later) starts

/-- The startup that was suspended is over. -/
theorem Single.removed (single : Single before) (found : before.calls.get? ticket = some call)
    (startup : call.startup = true) {other : Nat} {further : LocalCall}
    (later : (before.calls.remove ticket).get? other = some further) :
    further.startup = false := by
  rw [Callbacks.get?_remove] at later
  split at later
  · cases later
  · rename_i different
    apply Bool.eq_false_iff.mpr
    intro starts
    exact different (single.only ticket call other further found startup later starts)

/-- It goes on under a new ticket. -/
theorem Single.replaced (single : Single before) {next : LocalCall}
    (found : before.calls.get? ticket = some call) (startup : call.startup = true)
    (calls : after.calls = ((before.calls.remove ticket).add next).1) {other : Nat}
    {further : LocalCall} (later : after.calls.get? other = some further)
    (starts : further.startup = true) : other = before.calls.next ∧ further = next := by
  rw [calls, Callbacks.get?_add] at later
  split at later
  · rename_i same
    cases later
    exact ⟨same, rfl⟩
  · rw [single.removed found startup later] at starts
    cases starts

theorem Single.going (single : Single before) {next : LocalCall}
    (found : before.calls.get? ticket = some call) (startup : call.startup = true)
    (calls : after.calls = ((before.calls.remove ticket).add next).1)
    (flag : after.session.startupInFlight = before.session.startupInFlight) : Single after where
  inFlight _ _ _ _ := flag.trans (single.inFlight ticket call found startup)
  only first _ second _ one oneStarts two twoStarts := by
    rw [(single.replaced found startup calls one oneStarts).1,
      (single.replaced found startup calls two twoStarts).1]

theorem Move.single (move : Move before event after) (single : Single before) : Single after := by
  cases move with
  | rest steady calls => exact single.of_same calls steady.startup
  | heard _ same _ calls =>
      exact single.of_same (calls ▸ SameStartups.refl _) (congrArg Core.startupInFlight same)
  | marked _ _ same _ calls =>
      exact single.of_same (calls ▸ SameStartups.refl _) (congrArg Core.startupInFlight same)
  | installed _ _ _ same _ _ _ calls =>
      exact single.of_same (calls ▸ SameStartups.refl _) (congrArg Core.startupInFlight same)
  | torn _ _ _ startup calls => exact single.of_same (calls ▸ SameStartups.refl _) startup
  | opened phase free same _ calls =>
      -- The flag was down, so nothing was suspended.
      have first : ∀ other further, after.calls.get? other = some further →
          further.startup = true → other = before.calls.next := by
        intro other further found startup
        rw [calls, Callbacks.get?_add] at found
        split at found
        · assumption
        · rw [single.inFlight other further found startup] at free
          cases free
      refine ⟨fun _ _ _ _ => congrArg Core.startupInFlight same, ?_⟩
      intro one call two further found startup later starts
      rw [first one call found startup, first two further later starts]
  | failed ticket call _ _ _ found startup _ _ _ calls =>
      exact Single.of_none fun _ _ later => single.removed found startup (calls ▸ later)
  | started ticket _ _ _ _ found same _ calls =>
      refine single.going found rfl calls ?_
      rw [same]
      exact before.session.disconnect_startup true SessionController.roomClosed
  | configured ticket _ _ found same _ calls =>
      exact single.going found rfl calls (congrArg SessionController.startupInFlight same)
  | keyed ticket _ _ found same _ calls =>
      refine single.going found rfl calls ?_
      rw [same]
      rfl
  | entered ticket _ _ found steady _ calls => exact single.going found rfl calls steady.startup
  | elapsed ticket call _ _ _ found startup _ _ _ _ _ calls =>
      exact Single.of_none fun _ _ later => single.removed found startup (calls ▸ later)
  | prepares _ _ _ _ _ _ _ _ fresh _ _ calls =>
      exact single.of_same (calls ▸ SameStartups.refl _) fresh.startup
  | configures _ _ _ _ _ same _ calls =>
      exact single.of_same (calls ▸ SameStartups.refl _)
        (congrArg SessionController.startupInFlight same)
  | generates _ _ _ same _ calls =>
      exact single.of_same (calls ▸ SameStartups.refl _)
        (congrArg SessionController.startupInFlight same)
  | rekeyed _ _ _ _ _ steady _ _ calls =>
      exact single.of_same (calls ▸ SameStartups.refl _) steady.startup
  | prepared _ _ _ _ steady _ _ calls =>
      exact single.of_same (calls ▸ SameStartups.refl _) steady.startup

end Startups

section Duties

/-- What waits to prepare an epoch was queued in a lifecycle that has begun. -/
def Timely (session : SessionController) : Prop :=
  ∀ work ∈ session.duties, ∀ lifecycle, work.lifecycle = some lifecycle →
    lifecycle ≤ session.lifecycleEpoch

variable {before after : Loop} {event : Event}

/-- A turn in which the transport reports nothing adds no duty. -/
theorem Move.duties (move : Move before event after) (between : event.hears = false) :
    after.session.duties ⊆ before.session.duties ∧
      before.session.lifecycleEpoch ≤ after.session.lifecycleEpoch := by
  have same : ∀ {first second : SessionController}, second.duties = first.duties →
      second.duties ⊆ first.duties := fun kept => kept ▸ List.Subset.refl _
  cases move with
  | rest steady => exact ⟨steady.duties, steady.lifecycle.ge⟩
  | heard hears =>
      rw [between] at hears
      cases hears
  | marked _ _ core => exact ⟨same (congrArg Core.duties core), (congrArg Core.lifecycleEpoch core).ge⟩
  | installed _ _ _ core =>
      exact ⟨same (congrArg Core.duties core), (congrArg Core.lifecycleEpoch core).ge⟩
  | torn _ _ torn => exact ⟨torn.duties, by simp [torn.lifecycle]⟩
  | opened _ _ core => exact ⟨same (congrArg Core.duties core), (congrArg Core.lifecycleEpoch core).ge⟩
  | failed _ _ _ _ _ _ _ torn => exact ⟨torn.duties, by simp [torn.lifecycle]⟩
  | started _ code phase profileId _ _ begun =>
      have torn := before.session.start_torn code phase profileId
      rw [begun]
      exact ⟨torn.duties, by simp [torn.lifecycle]⟩
  | configured _ _ _ _ kept => exact ⟨same (by rw [kept]), by rw [kept]⟩
  | keyed _ _ _ _ kept =>
      rw [kept]
      exact ⟨same rfl, le_rfl⟩
  | entered _ _ _ _ steady => exact ⟨steady.duties, steady.lifecycle.ge⟩
  | elapsed _ _ _ middle _ _ _ _ _ steady kept =>
      rw [kept]
      exact ⟨steady.duties, steady.lifecycle.ge⟩
  | prepares _ _ _ _ _ _ _ _ fresh => exact ⟨fresh.duties, fresh.lifecycle.ge⟩
  | configures _ _ _ _ _ kept => exact ⟨same (by rw [kept]), by rw [kept]⟩
  | generates _ _ _ kept => exact ⟨same (by rw [kept]), by rw [kept]⟩
  | rekeyed _ _ _ _ _ steady => exact ⟨steady.duties, steady.lifecycle.ge⟩
  | prepared _ _ _ _ steady => exact ⟨steady.duties, steady.lifecycle.ge⟩

theorem Move.timely (move : Move before event after) (between : event.hears = false)
    (timely : Timely before.session) : Timely after.session := by
  obtain ⟨fewer, later⟩ := move.duties between
  intro work member lifecycle same
  exact (timely work (fewer member) lifecycle same).trans later

end Duties

section Asking

/-- No startup waits for the worker that did not wait for it before. -/
def FewerChores (before after : Callbacks LocalCall) : Prop :=
  ∀ ticket call pending, call.chore = some pending → after.get? ticket = some call →
    before.get? ticket = some call

/-- A turn inside a lifecycle after which nobody waits for the worker who did not
wait for it before. -/
structure Eased (before after : Loop) : Prop where
  lifecycle : after.session.lifecycleEpoch = before.session.lifecycleEpoch
  duties : after.session.duties ⊆ before.session.duties
  chores : FewerChores before.calls after.calls
  next : before.calls.next ≤ after.calls.next
  preparing : ∀ pending, after.preparing = some pending → before.preparing = some pending

/-- What a turn asks of the worker, and who waits for it afterwards. -/
inductive Asking (before : Loop) (event : Event) (after : Loop) : Prop where
  | eased : Eased before after → after.session.localPublicKey = before.session.localPublicKey →
      after.preparing = before.preparing ∧ (event.resumes = true → before.preparing = none) ∨
        after.preparing = none ∧ event.resumes = true →
      (∀ outcall ∈ before.outcalls event, outcall.light = true) → Asking before event after
  | ended (first : List Outcall) (forgetSlot : Bool) : Torn before.session after.session →
      FewerChores before.calls after.calls → before.calls.next ≤ after.calls.next →
      after.preparing = before.preparing → event.resumes = false →
      before.outcalls event = first ++ SessionController.tearDownCalls forgetSlot →
      (∀ outcall ∈ first, outcall.light = true) → Asking before event after
  | started (ticket : Nat) (phase : StartPhase) (reply : Reply) (profileId : TransportProfileId) :
      event = .settle ticket reply → before.calls.get? ticket = some (.lookingUp phase) →
      Torn before.session after.session → after.preparing = before.preparing →
      after.calls =
        ((before.calls.remove ticket).add (.configuring after.session.lifecycleEpoch)).1 →
      before.outcalls event = SessionController.startCalls profileId → Asking before event after
  | configured (ticket lifecycle : Nat) (reply : Reply) : event = .settle ticket reply →
      before.calls.get? ticket = some (.configuring lifecycle) → after.session = before.session →
      after.preparing = before.preparing →
      after.calls = ((before.calls.remove ticket).add (.generating lifecycle)).1 →
      before.outcalls event = [.ask .generateIdentity true] → Asking before event after
  | keyed (ticket : Nat) (bytes : Bytes) (code : String) : event = .settle ticket (.key bytes) →
      before.calls.get? ticket = some (.generating before.session.lifecycleEpoch) →
      after.session = before.session.newKey bytes → after.preparing = before.preparing →
      after.calls =
        ((before.calls.remove ticket).add (.connecting before.session.lifecycleEpoch)).1 →
      before.outcalls event = [.connect code] → Asking before event after
  | prepares (work : Work) : event = .begin → before.preparing = none →
      work ∈ before.session.duties → work.lifecycle = some before.session.lifecycleEpoch →
      Fresh before.session after.session →
      after.preparing = some (.reset, before.session.lifecycleEpoch) →
      after.calls = before.calls →
      before.outcalls event = [.clearQueuedPackets, .ask .reset true] → Asking before event after
  | configures (reply : Reply) : event = .resume reply →
      before.preparing = some (.reset, before.session.lifecycleEpoch) →
      after.session = before.session →
      after.preparing = some (.configure, before.session.lifecycleEpoch) →
      after.calls = before.calls → before.outcalls event = [.ask .configure true] →
      Asking before event after
  | generates (lifecycle : Nat) (reply : Reply) : event = .resume reply →
      before.preparing = some (.configure, lifecycle) → after.session = before.session →
      after.preparing = some (.generateIdentity, lifecycle) → after.calls = before.calls →
      before.outcalls event = [.ask .generateIdentity true] → Asking before event after
  | rekeyed (bytes : Bytes) : event = .resume (.key bytes) →
      before.preparing = some (.generateIdentity, before.session.lifecycleEpoch) →
      Steady (before.session.newKey bytes) after.session → after.preparing = none →
      after.calls = before.calls → before.outcalls event = [] → Asking before event after

variable {before after : Callbacks LocalCall} {ticket : Nat} {call : LocalCall}

theorem FewerChores.of_same (same : SameStartups before after) : FewerChores before after :=
  fun other further _ waits found =>
    (same.held other further (LocalCall.startup_of_chore waits)).mp found

theorem FewerChores.remove : FewerChores before (before.remove ticket) :=
  fun _ _ _ _ found => Callbacks.get?_of_remove found

theorem FewerChores.add (idle : call.chore = none) : FewerChores before (before.add call).1 := by
  intro other further pending waits found
  rw [Callbacks.get?_add] at found
  split at found
  · cases found
    rw [idle] at waits
    cases waits
  · exact found

theorem FewerChores.trans {middle : Callbacks LocalCall} (first : FewerChores before middle)
    (second : FewerChores middle after) : FewerChores before after :=
  fun other further pending waits found =>
    first other further pending waits (second other further pending waits found)

end Asking

section Moves
variable {before after : Loop} {event : Event}

theorem Eased.of_same (lifecycle : after.session.lifecycleEpoch = before.session.lifecycleEpoch)
    (duties : after.session.duties = before.session.duties)
    (chores : FewerChores before.calls after.calls) (next : before.calls.next ≤ after.calls.next)
    (preparing : after.preparing = before.preparing) : Eased before after :=
  ⟨lifecycle, duties ▸ List.Subset.refl _, chores, next, fun _ waits => preparing ▸ waits⟩

theorem Eased.of_steady (steady : Steady before.session after.session)
    (chores : FewerChores before.calls after.calls) (next : before.calls.next ≤ after.calls.next)
    (preparing : ∀ pending, after.preparing = some pending → before.preparing = some pending) :
    Eased before after :=
  ⟨steady.lifecycle, steady.duties, chores, next, preparing⟩

theorem Move.asking (move : Move before event after) (between : event.hears = false) :
    Asking before event after := by
  have same : ∀ {calls : Callbacks LocalCall}, calls = before.calls →
      FewerChores before.calls calls ∧ before.calls.next ≤ calls.next := by
    rintro _ rfl
    exact ⟨.of_same (.refl _), le_rfl⟩
  cases move with
  | rest steady calls preparing _ light resumed =>
      exact .eased (.of_steady steady (.of_same calls) calls.next (by simp [preparing])) steady.key
        (Or.inl ⟨preparing, resumed⟩) light
  | heard hears =>
      rw [between] at hears
      cases hears
  | marked asked _ core running calls silent =>
      have preparing := Loop.preparing_of_running running
      exact .eased (.of_same (congrArg Core.lifecycleEpoch core) (congrArg Core.duties core)
        (same calls).1 (same calls).2 preparing) (congrArg Core.localPublicKey core)
        (Or.inl ⟨preparing, by simp [asked, Event.resumes]⟩) (by simp [silent])
  | installed _ _ _ core _ idle settled calls silent =>
      have preparing := settled.trans idle.symm
      exact .eased (.of_same (congrArg Core.lifecycleEpoch core) (congrArg Core.duties core)
        (same calls).1 (same calls).2 preparing) (congrArg Core.localPublicKey core)
        (Or.inl ⟨preparing, fun _ => idle⟩) (by simp [silent])
  -- The calls stay suspended; what they find when they resume is the new lifecycle.
  | torn first forgetSlot torn _ calls preparing _ tears light between =>
      exact .ended first forgetSlot torn (same calls).1 (same calls).2 preparing between tears light
  | opened phase _ core running calls light between =>
      have preparing := Loop.preparing_of_running running
      refine .eased (.of_same (congrArg Core.lifecycleEpoch core) (congrArg Core.duties core) ?_ ?_
        preparing) (congrArg Core.localPublicKey core) (Or.inl ⟨preparing, by simp [between]⟩) light
      · rw [calls]
        exact .add rfl
      · rw [calls]
        exact Nat.le_succ _
  | failed ticket call reply first asked _ _ torn _ running calls tears light =>
      refine .ended first false torn ?_ ?_ (Loop.preparing_of_running running) (by rw [asked]; rfl)
        tears light
      · rw [calls]
        exact .remove
      · rw [calls]
        exact le_rfl
  | started ticket code phase profileId asked found begun running calls asks =>
      exact .started ticket phase _ profileId asked found
        (begun ▸ before.session.start_torn code phase profileId)
        (Loop.preparing_of_running running) calls asks
  | configured ticket lifecycle asked found kept running calls asks =>
      exact .configured ticket lifecycle _ asked found kept (Loop.preparing_of_running running) calls
        asks
  | keyed ticket bytes asked found made running calls asks =>
      exact .keyed ticket bytes _ asked found made (Loop.preparing_of_running running) calls asks
  | entered ticket announcement asked _ steady running calls silent =>
      have preparing := Loop.preparing_of_running running
      refine .eased (.of_steady steady ?_ ?_ (by simp [preparing])) steady.key
        (Or.inl ⟨preparing, by simp [asked, Event.resumes]⟩) (by simp [silent])
      · rw [calls]
        -- The announcement takes the place of the call that has made the key.
        exact FewerChores.remove.trans (.add rfl)
      · rw [calls]
        exact Nat.le_succ _
  | elapsed ticket call reply middle asked _ _ _ _ steady done running calls light =>
      have preparing := Loop.preparing_of_running running
      refine .eased ⟨?_, ?_, ?_, ?_, by simp [preparing]⟩ ?_
        (Or.inl ⟨preparing, by simp [asked, Event.resumes]⟩) light
      · rw [done]
        exact steady.lifecycle
      · rw [done]
        exact steady.duties
      · rw [calls]
        exact .remove
      · rw [calls]
        exact le_rfl
      · rw [done]
        exact steady.key
  | prepares work rest preparation asked free queue prepares current fresh running lifecycle calls
      asks =>
      refine .prepares work asked ?_ ?_ current fresh ?_ calls asks
      · simp [Loop.preparing, free]
      · simp [SessionController.duties, queue, prepares]
      · simp [Loop.preparing, running, ControlStage.chore, lifecycle]
  | configures preparation reply asked running current kept next calls asks =>
      refine .configures reply asked ?_ kept ?_ calls asks
      · simp [Loop.preparing, running, ControlStage.chore, current]
      · simp [Loop.preparing, next, ControlStage.chore, current]
  | generates preparation asked running kept next calls asks =>
      refine .generates preparation.lifecycle _ asked ?_ kept ?_ calls asks
      · simp [Loop.preparing, running, ControlStage.chore]
      · simp [Loop.preparing, next, ControlStage.chore]
  | rekeyed preparation bytes asked running current steady settled _ calls silent =>
      refine .rekeyed bytes asked ?_ steady settled calls silent
      simp [Loop.preparing, running, ControlStage.chore, current]
  | prepared reply pending asked _ steady settled _ calls silent =>
      exact .eased (.of_steady steady (same calls).1 (same calls).2 (by simp [settled])) steady.key
        (Or.inr ⟨settled, by simp [asked, Event.resumes]⟩) (by simp [silent])

end Moves

end OnlyTwo.Session
