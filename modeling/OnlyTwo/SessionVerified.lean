import OnlyTwo.SessionMoves

/-!
Who verifies a channel. The security state is written from many places, and the
silent forms of `disconnect` do not write it, so it can outlive its channel. What
holds throughout is that a session without a channel that still shows `verified`
has no local key and no call that could bring it one: whoever makes a key has
written another security state first. So no new channel can be installed under
an old verdict.
-/

namespace OnlyTwo.Session

open Bytes FileProtocol FileSender FileReceiver Reliable AppMessages

/-- The user's verdicts and the channels they may be about. -/
inductive Decision where
  | marked
  | installed (serial : Nat)
  deriving DecidableEq, Repr

/-- What a turn decides: whether `markVerified(true)` is called, and whether
`this.secure` is set. -/
def Loop.decisions (before after : Loop) (event : Event) : List Decision :=
  (if event = .request (.markVerified true) then [.marked] else []) ++
    match after.session.secure with
    | none => []
    | some channel =>
        if before.session.secure = some channel then [] else [.installed channel.serial]

/-- The loop of the session, observed for its verdicts. -/
def verdicts (digest : Bytes → String) : Machine Loop Event Decision where
  step loop event :=
    (loop.step digest event).map fun turned => (turned.1, loop.decisions turned.1 event)

/-- `markVerified(true)` was called with a channel, and no channel was installed since. -/
def DecidedByUser (history : List Decision) : Prop :=
  ∃ earlier later, history = earlier ++ .marked :: later ∧
    (∃ serial, .installed serial ∈ earlier) ∧ ∀ serial, .installed serial ∉ later

section Waiting

/-- A call that may yet set the local key was started in this lifecycle. -/
def Loop.Waits (loop : Loop) (lifecycle : Nat) : Prop :=
  (∃ ticket call chore, loop.calls.get? ticket = some call ∧
    call.chore = some (chore, lifecycle)) ∨
    ∃ chore, loop.preparing = some (chore, lifecycle)

variable {before after : Loop} {lifecycle : Nat}

theorem LocalCall.startup_of_chore {call : LocalCall} {pending : Chore × Nat}
    (waits : call.chore = some pending) : call.startup = true := by
  cases call with
  | configuring lifecycle => rfl
  | generating lifecycle => rfl
  | _ => cases waits

theorem Loop.Waits.of_same (calls : SameStartups before.calls after.calls)
    (preparing : after.preparing = before.preparing) (waits : after.Waits lifecycle) :
    before.Waits lifecycle := by
  rcases waits with ⟨ticket, call, chore, found, waits⟩ | ⟨chore, waits⟩
  · exact Or.inl ⟨ticket, call, chore,
      (calls.held ticket call (LocalCall.startup_of_chore waits)).mp found, waits⟩
  · exact Or.inr ⟨chore, preparing ▸ waits⟩

theorem Loop.preparing_of_running (running : after.running = before.running) :
    after.preparing = before.preparing := by
  simp only [preparing, running]

theorem Loop.agreeing_of_running (running : after.running = before.running) :
    after.agreeing = before.agreeing := by
  simp only [agreeing, running]

/-- A call of a startup is settled and the next one, if any, suspended. -/
theorem Loop.Waits.of_settled {ticket : Nat} {next : LocalCall}
    (calls : after.calls = ((before.calls.remove ticket).add next).1)
    (preparing : after.preparing = before.preparing) (waits : after.Waits lifecycle) :
    before.Waits lifecycle ∨ ∃ chore, next.chore = some (chore, lifecycle) := by
  rcases waits with ⟨other, call, chore, found, waits⟩ | ⟨chore, waits⟩
  · rw [calls, Callbacks.get?_add] at found
    split at found
    · cases found
      exact Or.inr ⟨chore, waits⟩
    · exact Or.inl (Or.inl ⟨other, call, chore, Callbacks.get?_of_remove found, waits⟩)
  · exact Or.inl (Or.inr ⟨chore, preparing ▸ waits⟩)

/-- A call of a startup is settled, and the next one brings no key. -/
theorem Loop.Waits.of_passed {ticket : Nat} {next : LocalCall}
    (calls : after.calls = ((before.calls.remove ticket).add next).1)
    (preparing : after.preparing = before.preparing) (brings : next.chore = none)
    (waits : after.Waits lifecycle) : before.Waits lifecycle := by
  rcases waits.of_settled calls preparing with earlier | ⟨chore, new⟩
  · exact earlier
  · rw [brings] at new
    cases new

theorem Loop.Waits.of_removed {ticket : Nat} (calls : after.calls = before.calls.remove ticket)
    (preparing : after.preparing = before.preparing) (waits : after.Waits lifecycle) :
    before.Waits lifecycle := by
  rcases waits with ⟨other, call, chore, found, waits⟩ | ⟨chore, waits⟩
  · rw [calls] at found
    exact Or.inl ⟨other, call, chore, Callbacks.get?_of_remove found, waits⟩
  · exact Or.inr ⟨chore, preparing ▸ waits⟩

/-- The running preparation is over; the calls are as they were. -/
theorem Loop.Waits.of_prepared (calls : after.calls = before.calls)
    (preparing : ∀ chore, after.preparing = some (chore, lifecycle) →
      ∃ earlier, before.preparing = some (earlier, lifecycle))
    (waits : after.Waits lifecycle) : before.Waits lifecycle := by
  rcases waits with ⟨ticket, call, chore, found, waits⟩ | ⟨chore, waits⟩
  · exact Or.inl ⟨ticket, call, chore, calls ▸ found, waits⟩
  · exact Or.inr (preparing chore waits)

end Waiting

section Guarded

/-- Without a channel the session does not show `verified`. -/
def Guarded (session : SessionController) : Prop :=
  session.secure = none → session.view.security ≠ .verified

structure Judged (loop : Loop) : Prop where
  keyed : loop.session.localPublicKey ≠ none → Guarded loop.session
  waits : ∀ lifecycle, loop.Waits lifecycle → lifecycle ≤ loop.session.lifecycleEpoch ∧
    (lifecycle = loop.session.lifecycleEpoch → Guarded loop.session)
  agreeing : loop.agreeing = true →
    loop.session.secure = none ∧ loop.session.view.security ≠ .verified

variable {before after : Loop} {event : Event}

theorem Guarded.mono {first second : SessionController} (secure : second.secure = first.secure)
    (verified : second.view.security = .verified → first.view.security = .verified)
    (guarded : Guarded first) : Guarded second :=
  fun lost agreed => guarded (secure ▸ lost) (verified agreed)

/-- A turn inside an epoch that neither makes a key nor lets anyone wait for one. -/
theorem Judged.frame (holds : Judged before)
    (lifecycle : after.session.lifecycleEpoch = before.session.lifecycleEpoch)
    (secure : after.session.secure = before.session.secure)
    (verified : after.session.view.security = .verified → before.session.view.security = .verified)
    (key : after.session.localPublicKey = before.session.localPublicKey)
    (waits : ∀ lifecycle, after.Waits lifecycle → before.Waits lifecycle)
    (agreeing : after.agreeing = true → before.agreeing = true ∨
      before.session.localPublicKey ≠ none ∧ before.session.secure = none) : Judged after where
  keyed known := (holds.keyed (key ▸ known)).mono secure verified
  waits other waiting := by
    obtain ⟨bound, guarded⟩ := holds.waits other (waits other waiting)
    rw [lifecycle]
    exact ⟨bound, fun same => (guarded same).mono secure verified⟩
  agreeing shaking := by
    rcases agreeing shaking with earlier | ⟨known, bare⟩
    · obtain ⟨bare, unverified⟩ := holds.agreeing earlier
      exact ⟨secure.trans bare, fun agreed => unverified (verified agreed)⟩
    · exact ⟨secure.trans bare, fun agreed => holds.keyed known bare (verified agreed)⟩

theorem Judged.steady (holds : Judged before) (steady : Steady before.session after.session)
    (waits : ∀ lifecycle, after.Waits lifecycle → before.Waits lifecycle)
    (agreeing : after.agreeing = true → before.agreeing = true ∨
      before.session.localPublicKey ≠ none ∧ before.session.secure = none) : Judged after :=
  holds.frame steady.lifecycle steady.secure steady.verified steady.key waits agreeing

/-- The end of a lifecycle leaves everybody behind who waits for a key. -/
theorem Judged.torn (holds : Judged before) (torn : Torn before.session after.session)
    (waits : ∀ lifecycle, after.Waits lifecycle → before.Waits lifecycle ∨
      lifecycle = after.session.lifecycleEpoch ∧ Guarded after.session)
    (agreeing : after.agreeing = true → before.agreeing = true) : Judged after where
  keyed known := absurd torn.key known
  waits other waiting := by
    rcases waits other waiting with earlier | ⟨current, guarded⟩
    · have bound := (holds.waits other earlier).1
      have advanced := torn.lifecycle
      exact ⟨by omega, fun same => by omega⟩
    · exact ⟨current.le, fun _ => guarded⟩
  agreeing shaking := by
    have earlier := (holds.agreeing (agreeing shaking)).2
    exact ⟨torn.secure, fun agreed => earlier (torn.verified agreed)⟩

/-- A key is made by a call of the current lifecycle. -/
theorem Judged.keyed_now (holds : Judged before) {bytes : Bytes}
    (steady : Steady (before.session.newKey bytes) after.session)
    (waiting : before.Waits before.session.lifecycleEpoch)
    (waits : ∀ lifecycle, after.Waits lifecycle → before.Waits lifecycle)
    (agreeing : after.agreeing = true → before.agreeing = true) : Judged after where
  keyed _ := ((holds.waits _ waiting).2 rfl).mono steady.secure steady.verified
  waits other waiting := by
    obtain ⟨bound, guarded⟩ := holds.waits other (waits other waiting)
    have same : after.session.lifecycleEpoch = before.session.lifecycleEpoch := steady.lifecycle
    rw [same]
    exact ⟨bound, fun current => (guarded current).mono steady.secure steady.verified⟩
  agreeing shaking := by
    obtain ⟨bare, unverified⟩ := holds.agreeing (agreeing shaking)
    exact ⟨steady.secure.trans bare, fun agreed => unverified (steady.verified agreed)⟩

/-- A guarded session after the turn, and no agreement under way. -/
theorem Judged.guarded (holds : Judged before) (guarded : Guarded after.session)
    (lifecycle : after.session.lifecycleEpoch = before.session.lifecycleEpoch)
    (waits : ∀ other, after.Waits other →
      before.Waits other ∨ other = before.session.lifecycleEpoch)
    (calm : after.agreeing = false) : Judged after where
  keyed _ := guarded
  waits other waiting := by
    rw [lifecycle]
    rcases waits other waiting with earlier | current
    · exact ⟨(holds.waits other earlier).1, fun _ => guarded⟩
    · exact ⟨current.le, fun _ => guarded⟩
  agreeing shaking := by
    rw [calm] at shaking
    cases shaking

/-- A preparation goes from one chore to the next. -/
theorem Judged.advances (holds : Judged before) {first next : Chore} {lifecycle : Nat}
    (same : after.session = before.session) (calls : after.calls = before.calls)
    (was : before.preparing = some (first, lifecycle))
    (now : after.preparing = some (next, lifecycle)) (calm : after.agreeing = false) :
    Judged after := by
  refine holds.steady (same ▸ (Kept.refl _).toSteady) (fun other waiting => ?_)
    (fun shaking => by simp [calm] at shaking)
  refine waiting.of_prepared calls (fun chore waits => ⟨first, ?_⟩)
  rw [now] at waits
  cases waits
  exact was

theorem Move.judged (move : Move before event after) (holds : Judged before) : Judged after := by
  cases move with
  | rest steady calls preparing agreeing light =>
      exact holds.steady steady (fun _ => Loop.Waits.of_same calls preparing) agreeing
  | heard hears same running calls silent =>
      refine holds.frame (congrArg Core.lifecycleEpoch same) (congrArg Core.secure same)
        (fun agreed => (congrArg Core.security same).symm.trans agreed)
        (congrArg Core.localPublicKey same) (fun _ waiting => ?_)
        (fun shaking => Or.inl ((Loop.agreeing_of_running running).symm.trans shaking))
      exact waiting.of_same (calls ▸ SameStartups.refl _) (Loop.preparing_of_running running)
  | marked asked channel same running calls silent =>
      have secure : after.session.secure = before.session.secure := congrArg Core.secure same
      refine holds.guarded (fun lost => absurd (secure.symm.trans lost) channel)
        (congrArg Core.lifecycleEpoch same) (fun other waiting => Or.inl ?_) ?_
      · exact waiting.of_same (calls ▸ SameStartups.refl _) (Loop.preparing_of_running running)
      · -- A handshake that agrees is under way only while there is no channel.
        rw [Loop.agreeing_of_running running]
        exact Bool.eq_false_iff.mpr fun shaking => channel (holds.agreeing shaking).1
  | installed channel peerKey agreeing same settled idle preparing calls silent =>
      have secure : after.session.secure = some channel := congrArg Core.secure same
      refine holds.guarded (fun lost => ?_) (congrArg Core.lifecycleEpoch same)
        (fun other waiting => Or.inl ?_) settled
      · cases secure.symm.trans lost
      · exact waiting.of_same (calls ▸ SameStartups.refl _) (preparing.trans idle.symm)
  | torn first forgetSlot torn startup calls preparing agreeing tears light =>
      exact holds.torn torn
        (fun _ waiting => Or.inl (waiting.of_same (calls ▸ SameStartups.refl _) preparing)) agreeing
  | opened phase free same running calls light =>
      refine holds.frame (congrArg Core.lifecycleEpoch same) (congrArg Core.secure same)
        (fun agreed => (congrArg Core.security same).symm.trans agreed)
        (congrArg Core.localPublicKey same) (fun lifecycle waiting => ?_)
        (fun shaking => Or.inl ((Loop.agreeing_of_running running).symm.trans shaking))
      rcases waiting with ⟨ticket, call, chore, found, waits⟩ | ⟨chore, waits⟩
      · rw [calls, Callbacks.get?_add] at found
        split at found
        · cases found
          cases waits
        · exact Or.inl ⟨ticket, call, chore, found, waits⟩
      · exact Or.inr ⟨chore, Loop.preparing_of_running running ▸ waits⟩
  | failed ticket call reply first asked found startup torn ended running calls tears light =>
      exact holds.torn torn
        (fun _ waiting => Or.inl (waiting.of_removed calls (Loop.preparing_of_running running)))
        (fun shaking => (Loop.agreeing_of_running running).symm.trans shaking)
  | started ticket code phase profileId asked found same running calls asks =>
      have torn : Torn before.session after.session :=
        same ▸ before.session.start_torn code phase profileId
      refine holds.torn torn (fun lifecycle waiting => ?_)
        (fun shaking => (Loop.agreeing_of_running running).symm.trans shaking)
      rcases waiting.of_settled calls (Loop.preparing_of_running running) with earlier | new
      · exact Or.inl earlier
      · obtain ⟨chore, waits⟩ := new
        cases waits
        refine Or.inr ⟨rfl, fun _ => ?_⟩
        rw [same]
        simp [SessionController.start]
  | configured ticket lifecycle asked found same running calls asks =>
      refine holds.steady (same ▸ (Kept.refl _).toSteady) (fun other waiting => ?_)
        (fun shaking => Or.inl ((Loop.agreeing_of_running running).symm.trans shaking))
      rcases waiting.of_settled calls (Loop.preparing_of_running running) with earlier | new
      · exact earlier
      · obtain ⟨chore, waits⟩ := new
        cases waits
        exact Or.inl ⟨ticket, _, _, found, rfl⟩
  | keyed ticket bytes asked found same running calls asks =>
      have steady : Steady (before.session.newKey bytes) after.session := by
        rw [same]
        exact (Kept.refl _).toSteady
      exact holds.keyed_now steady (Or.inl ⟨ticket, _, _, found, rfl⟩)
        (fun _ => Loop.Waits.of_passed calls (Loop.preparing_of_running running) rfl)
        (fun shaking => (Loop.agreeing_of_running running).symm.trans shaking)
  | entered ticket announcement asked found steady running calls asks =>
      exact holds.steady steady
        (fun _ => Loop.Waits.of_passed calls (Loop.preparing_of_running running) rfl)
        (fun shaking => Or.inl ((Loop.agreeing_of_running running).symm.trans shaking))
  | elapsed ticket call reply middle asked found startup settled stale steady same running calls light =>
      have done : after.session.core = { middle.core with startupInFlight := false } := by
        rw [same]
        rfl
      refine holds.frame ((congrArg Core.lifecycleEpoch done).trans steady.lifecycle)
        ((congrArg Core.secure done).trans steady.secure)
        (fun agreed => steady.verified ((congrArg Core.security done).symm.trans agreed))
        ((congrArg Core.localPublicKey done).trans steady.key)
        (fun other waiting => waiting.of_removed calls (Loop.preparing_of_running running))
        (fun shaking => Or.inl ((Loop.agreeing_of_running running).symm.trans shaking))
  | prepares work rest preparation asked free queue prepares current fresh running lifecycle calls
      asks =>
      refine holds.guarded (fun _ => fresh.unverified) fresh.lifecycle (fun other waiting => ?_)
        (by simp [Loop.agreeing, running])
      rcases waiting with ⟨ticket, call, chore, found, waits⟩ | ⟨chore, waits⟩
      · exact Or.inl (Or.inl ⟨ticket, call, chore, calls ▸ found, waits⟩)
      · -- The new preparation belongs to the current lifecycle.
        simp only [Loop.preparing, running, ControlStage.chore, Option.some.injEq,
          Prod.mk.injEq] at waits
        exact Or.inr (waits.2.symm.trans lifecycle)
  | configures preparation reply asked running current same next calls asks =>
      have was : before.preparing = some (.reset, preparation.lifecycle) := by
        simp [Loop.preparing, running, ControlStage.chore]
      have now : after.preparing = some (.configure, preparation.lifecycle) := by
        simp [Loop.preparing, next, ControlStage.chore]
      exact holds.advances same calls was now (by simp [Loop.agreeing, next])
  | generates preparation asked running same next calls asks =>
      have was : before.preparing = some (.configure, preparation.lifecycle) := by
        simp [Loop.preparing, running, ControlStage.chore]
      have now : after.preparing = some (.generateIdentity, preparation.lifecycle) := by
        simp [Loop.preparing, next, ControlStage.chore]
      exact holds.advances same calls was now (by simp [Loop.agreeing, next])
  | rekeyed preparation bytes asked running current steady settled calm calls asks =>
      refine holds.keyed_now steady (Or.inr ⟨.generateIdentity, ?_⟩) (fun other waiting => ?_)
        (fun shaking => by simp [calm] at shaking)
      · -- The worker's key is installed only if the lifecycle has not moved on.
        simp [Loop.preparing, running, ControlStage.chore, current]
      · exact waiting.of_prepared calls (fun chore waits => by simp [settled] at waits)
  | prepared reply pending asked waited steady settled calm calls asks =>
      refine holds.steady steady (fun other waiting => ?_) (fun shaking => by simp [calm] at shaking)
      exact waiting.of_prepared calls (fun chore waits => by simp [settled] at waits)

/-- Only the user verifies, and only a channel. -/
theorem Move.verified (move : Move before event after)
    (agreed : after.session.view.security = .verified) :
    before.session.view.security = .verified ∨
      event = .request (.markVerified true) ∧ before.session.secure ≠ none ∧
        after.session.secure = before.session.secure := by
  cases move with
  | rest steady => exact Or.inl (steady.verified agreed)
  | heard _ same => exact Or.inl ((congrArg Core.security same).symm.trans agreed)
  | marked asked channel same => exact Or.inr ⟨asked, channel, congrArg Core.secure same⟩
  | installed _ _ _ same => exact Or.inl ((congrArg Core.security same).symm.trans agreed)
  | torn _ _ torn => exact Or.inl (torn.verified agreed)
  | opened _ _ same => exact Or.inl ((congrArg Core.security same).symm.trans agreed)
  | failed _ _ _ _ _ _ _ torn => exact Or.inl (torn.verified agreed)
  | started ticket code phase profileId _ _ same =>
      rw [same] at agreed
      cases agreed
  | configured _ _ _ _ same => exact Or.inl (same ▸ agreed)
  | keyed _ _ _ _ same =>
      rw [same] at agreed
      exact Or.inl agreed
  | entered _ _ _ _ steady => exact Or.inl (steady.verified agreed)
  | elapsed _ _ _ _ _ _ _ _ _ steady same =>
      rw [same] at agreed
      exact Or.inl (steady.verified agreed)
  | prepares _ _ _ _ _ _ _ _ fresh => exact absurd agreed fresh.unverified
  | configures _ _ _ _ _ same => exact Or.inl (same ▸ agreed)
  | generates _ _ _ same => exact Or.inl (same ▸ agreed)
  | rekeyed _ _ _ _ _ steady => exact Or.inl (steady.verified agreed)
  | prepared _ _ _ _ steady => exact Or.inl (steady.verified agreed)

/-- Only a handshake that has none yet installs a channel. -/
theorem Move.secure (move : Move before event after) :
    after.session.secure = before.session.secure ∨ after.session.secure = none ∨
      before.agreeing = true ∧ after.session.view.security = before.session.view.security := by
  cases move with
  | rest steady => exact Or.inl steady.secure
  | heard _ same => exact Or.inl (congrArg Core.secure same)
  | marked _ _ same => exact Or.inl (congrArg Core.secure same)
  | installed _ _ agreeing same => exact Or.inr (Or.inr ⟨agreeing, congrArg Core.security same⟩)
  | torn _ _ torn => exact Or.inr (Or.inl torn.secure)
  | opened _ _ same => exact Or.inl (congrArg Core.secure same)
  | failed _ _ _ _ _ _ _ torn => exact Or.inr (Or.inl torn.secure)
  | started ticket code phase profileId _ _ same =>
      exact Or.inr (Or.inl (by rw [same]; rfl))
  | configured _ _ _ _ same => exact Or.inl (by rw [same])
  | keyed _ _ _ _ same => exact Or.inl (by rw [same]; rfl)
  | entered _ _ _ _ steady => exact Or.inl steady.secure
  | elapsed _ _ _ _ _ _ _ _ _ steady same =>
      rw [same]
      exact Or.inl steady.secure
  | prepares _ _ _ _ _ _ _ _ fresh => exact Or.inr (Or.inl fresh.secure)
  | configures _ _ _ _ _ same => exact Or.inl (by rw [same])
  | generates _ _ _ same => exact Or.inl (by rw [same])
  | rekeyed _ _ _ _ _ steady => exact Or.inl steady.secure
  | prepared _ _ _ _ steady => exact Or.inl steady.secure

end Guarded

section Runs

variable {before after : Loop} {event : Event}

theorem Loop.installed_mem_decisions {serial : Nat}
    (recorded : .installed serial ∈ before.decisions after event) :
    ∃ channel, after.session.secure = some channel ∧ before.session.secure ≠ some channel := by
  rcases List.mem_append.mp recorded with verdict | installed
  · split at verdict <;> simp at verdict
  · split at installed
    · cases installed
    · rename_i channel found
      split at installed
      · cases installed
      · rename_i other
        exact ⟨channel, found, other⟩

/-- A channel is installed under no verdict but one that is given up or not yet given. -/
theorem Judged.installs (holds : Judged before) (move : Move before event after) {serial : Nat}
    (recorded : .installed serial ∈ before.decisions after event) :
    before.session.view.security ≠ .verified ∧ after.session.view.security ≠ .verified := by
  obtain ⟨channel, found, other⟩ := Loop.installed_mem_decisions recorded
  rcases move.secure with same | lost | ⟨agreeing, same⟩
  · exact absurd (same.symm.trans found) other
  · cases lost.symm.trans found
  · have unverified := (holds.agreeing agreeing).2
    exact ⟨unverified, fun agreed => unverified (same.symm.trans agreed)⟩

/-- What the history says about the verdict and the channel on display. -/
structure Recorded (loop : Loop) (history : List Decision) : Prop where
  judged : Judged loop
  decided : loop.session.view.security = .verified → DecidedByUser history
  installed : loop.session.secure ≠ none → ∃ serial, .installed serial ∈ history

theorem DecidedByUser.extend {history outputs : List Decision} (decided : DecidedByUser history)
    (quiet : ∀ serial, .installed serial ∉ outputs) : DecidedByUser (history ++ outputs) := by
  obtain ⟨earlier, later, rfl, channel, none⟩ := decided
  refine ⟨earlier, later ++ outputs, by simp, channel, fun serial member => ?_⟩
  rcases List.mem_append.mp member with old | new
  · exact none serial old
  · exact quiet serial new

theorem Recorded.step {history : List Decision} (holds : Recorded before history)
    (move : Move before event after) :
    Recorded after (history ++ before.decisions after event) := by
  refine ⟨move.judged holds.judged, fun agreed => ?_, fun channel => ?_⟩
  · rcases move.verified agreed with earlier | ⟨asked, channel, same⟩
    · refine (holds.decided earlier).extend (fun serial recorded => ?_)
      exact (holds.judged.installs move recorded).2 agreed
    · obtain ⟨serial, installed⟩ := holds.installed channel
      refine ⟨history, [], ?_, ⟨serial, installed⟩, by simp⟩
      have kept : before.decisions after event = [.marked] := by
        obtain ⟨current, found⟩ := Option.ne_none_iff_exists'.mp channel
        simp [Loop.decisions, asked, same, found]
      rw [kept]
  · rcases move.secure with same | lost | ⟨agreeing, _⟩
    · obtain ⟨serial, installed⟩ := holds.installed (same ▸ channel)
      exact ⟨serial, List.mem_append_left _ installed⟩
    · exact absurd lost channel
    · have bare := (holds.judged.agreeing agreeing).1
      obtain ⟨current, found⟩ := Option.ne_none_iff_exists'.mp channel
      refine ⟨current.serial, List.mem_append_right _ ?_⟩
      simp [Loop.decisions, found, bare]

theorem create_recorded : Recorded Loop.create [] where
  judged := by
    refine ⟨fun known => absurd rfl known, fun lifecycle waiting => ?_, fun shaking => by cases shaking⟩
    rcases waiting with ⟨ticket, call, chore, found, waits⟩ | ⟨chore, waits⟩
    · cases found
    · cases waits
  decided agreed := by cases agreed
  installed channel := absurd rfl channel

/-- In every run of the session: if it shows `verified`, `markVerified(true)` was
called after the channel that was installed last. A turn that leaves it verified
finds it verified or is that call, made with a channel; and a turn that installs a
channel neither finds nor leaves it verified. -/
theorem verified_only_by_user (digest : Bytes → String) {finish : Loop} {history : List Decision}
    (run : Machine.Run (verdicts digest) Machine.Unrestricted Loop.create finish history) :
    (finish.session.view.security = .verified → DecidedByUser history) ∧
    ∀ event after outputs, (verdicts digest).step finish event = some (after, outputs) →
      (after.session.view.security = .verified →
        finish.session.view.security = .verified ∨
          event = .request (.markVerified true) ∧ finish.session.secure ≠ none) ∧
      ((∃ serial, .installed serial ∈ outputs) →
        finish.session.view.security ≠ .verified ∧ after.session.view.security ≠ .verified) := by
  have moves : ∀ {before event after outputs},
      (verdicts digest).step before event = some (after, outputs) →
        Move before event after ∧ outputs = before.decisions after event := by
    intro before event after outputs stepped
    obtain ⟨⟨next, moments⟩, went, same⟩ := Option.map_eq_some_iff.mp stepped
    cases same
    exact ⟨Loop.step_moves went, rfl⟩
  have recorded : Recorded finish history := by
    apply run.invariant Recorded create_recorded
    intro before past event after outputs holds _ stepped
    obtain ⟨move, rfl⟩ := moves stepped
    exact holds.step move
  refine ⟨recorded.decided, fun event after outputs stepped => ?_⟩
  obtain ⟨move, rfl⟩ := moves stepped
  refine ⟨fun agreed => ?_, fun ⟨serial, installed⟩ => recorded.judged.installs move installed⟩
  rcases move.verified agreed with earlier | ⟨asked, channel, _⟩
  · exact Or.inl earlier
  · exact Or.inr ⟨asked, channel⟩

/-- The user compares the phrase and agrees. -/
theorem sample_verified_by_user :
    ∃ finish history,
      Machine.Run (verdicts fun _ => "digest") Machine.Unrestricted Loop.create finish history ∧
      finish.session.view.security = .verified ∧ DecidedByUser history := by
  have ran : ((verdicts fun _ => "digest").execute Loop.create
      (secureRoom ++ [.request (.markVerified true)])).map (fun result =>
        result.1.session.view.security) = some .verified := by
    decide +kernel
  obtain ⟨⟨finish, history⟩, executed, agreed⟩ := Option.map_eq_some_iff.mp ran
  have run := Machine.execute_run _ (Machine.along_unrestricted _ _) executed
  exact ⟨finish, history, run, agreed, (verified_only_by_user _ run).1 agreed⟩

end Runs

end OnlyTwo.Session
