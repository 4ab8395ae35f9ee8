import OnlyTwo.OutboundVoice

/-!
The account of the user's own voice, whatever the session does meanwhile: frames go to
`sendRawApp` one at a time and in the order they were captured, fresh, and never across a clear of
the queue. The pump never calls itself, since a session without a channel has an empty queue.
-/

namespace OnlyTwo.Session

open AppMessages Bytes VoiceFreshnessQueue SessionController

variable {Frame : Type}

section History

def VoiceMark.push? : VoiceMark Frame → Option (Nat × QueueItem Frame)
  | .pushed epoch item => some (epoch, item)
  | _ => none

def VoiceMark.hand? : VoiceMark Frame → Option (Nat × Returned Frame)
  | .handed epoch frame => some (epoch, frame)
  | _ => none

def VoiceMark.sent? : VoiceMark Frame → Option Frame
  | .sent frame => some frame
  | _ => none

def VoiceMark.count : VoiceMark Frame → Nat
  | .dropped count => count
  | _ => 0

def captures (history : List (VoiceMark Frame)) : List (Nat × QueueItem Frame) :=
  history.filterMap VoiceMark.push?

def handovers (history : List (VoiceMark Frame)) : List (Nat × Returned Frame) :=
  history.filterMap VoiceMark.hand?

def sends (history : List (VoiceMark Frame)) : List Frame := history.filterMap VoiceMark.sent?

def losses (history : List (VoiceMark Frame)) : Nat := (history.map VoiceMark.count).sum

variable (first second : List (VoiceMark Frame))

@[simp] theorem captures_append : captures (first ++ second) = captures first ++ captures second :=
  List.filterMap_append

@[simp] theorem handovers_append :
    handovers (first ++ second) = handovers first ++ handovers second := List.filterMap_append

@[simp] theorem sends_append : sends (first ++ second) = sends first ++ sends second :=
  List.filterMap_append

@[simp] theorem losses_append : losses (first ++ second) = losses first + losses second := by
  simp [losses]

variable {history marks : List (VoiceMark Frame)} {rest : List Frame}

/-- Marks that hand nothing over and send nothing. -/
theorem sent_quiet (sent : (sends history ++ rest).Sublist
      ((handovers history).map fun handed => handed.2.value))
    (unsent : sends marks = []) (kept : handovers marks = []) :
    (sends (history ++ marks) ++ rest).Sublist
      ((handovers (history ++ marks)).map fun handed => handed.2.value) := by
  rw [sends_append, handovers_append, unsent, kept, List.append_nil, List.append_nil]
  exact sent

end History

section Account

/-- The frame that was captured, handed over while it was fresh and in the same epoch. -/
def Delivered (captured : Nat × QueueItem Frame) (handed : Nat × Returned Frame) : Prop :=
  captured.1 = handed.1 ∧ VoiceFreshnessQueue.Fresh captured.2 handed.2

/-- What was handed over and what waits, in the order of the captures. -/
structure Account (epoch : Nat) (queue : VoiceFreshnessQueue Frame)
    (history : List (VoiceMark Frame)) : Prop where
  order : ∃ taken, (taken ++ queue.items.map (Prod.mk epoch)).Sublist (captures history) ∧
    List.Forall₂ Delivered taken (handovers history)
  total : (captures history).length =
    (handovers history).length + losses history + queue.size

variable {epoch later : Nat} {before after : VoiceFreshnessQueue Frame}
  {history marks : List (VoiceMark Frame)}

/-- A call on the queue adds what was captured at its end, and takes from its front what it
loses and then what it hands over. -/
theorem Account.next (account : Account epoch before history)
    (pushed gone taken : List (QueueItem Frame))
    (parts : before.items ++ pushed = gone ++ taken ++ after.items)
    (captured : captures marks = pushed.map (Prod.mk epoch))
    (handed : List.Forall₂ Delivered (taken.map (Prod.mk epoch)) (handovers marks))
    (lost : losses marks = gone.length) (same : after.items ≠ [] → later = epoch) :
    Account later after (history ++ marks) := by
  obtain ⟨earlier, order, delivered⟩ := account.order
  have left : after.items.map (Prod.mk later) = after.items.map (Prod.mk epoch) := by
    by_cases empty : after.items = []
    · rw [empty]
      rfl
    · rw [same empty]
  have whole : before.items.map (Prod.mk epoch) ++ captures marks =
      gone.map (Prod.mk epoch) ++ taken.map (Prod.mk epoch) ++ after.items.map (Prod.mk later) := by
    rw [left, captured, ← List.map_append, parts, List.map_append, List.map_append]
  refine ⟨⟨earlier ++ taken.map (Prod.mk epoch), ?_, ?_⟩, ?_⟩
  · rw [captures_append]
    refine List.Sublist.trans ?_ (order.append (List.Sublist.refl (captures marks)))
    rw [List.append_assoc, List.append_assoc, whole, List.append_assoc]
    exact (List.Sublist.refl earlier).append (List.sublist_append_right _ _)
  · rw [handovers_append]
    exact List.rel_append delivered handed
  · have lengths := congrArg List.length whole
    have paired := handed.length_eq
    have total := account.total
    simp only [List.length_append, List.length_map] at lengths paired
    simp only [captures_append, handovers_append, losses_append, List.length_append, size] at total ⊢
    omega

end Account

namespace VoiceLoop

variable {self after : VoiceLoop Frame} {history marks : List (VoiceMark Frame)} {canSend : Bool}
  {calls epoch index : Nat}

section Pump

/-- Frames wait only while there is a channel. -/
def Keyed (self : VoiceLoop Frame) : Prop :=
  self.outboundVoice.items ≠ [] → self.loop.session.secure ≠ none

/-- What a pump does before it waits or ends. -/
inductive Pumped (self : VoiceLoop Frame) (epoch : Nat) :
    VoiceLoop Frame → List (VoiceMark Frame) → Prop where
  | ended : Pumped self epoch { self with outboundVoicePumping := false } []
  | empty (next : FreshQueueShift Frame) :
      next = self.outboundVoice.shiftFresh self.loop.session.now → next.value = none →
      Pumped self epoch
        { self with outboundVoice := next.queue, outboundVoicePumping := false }
        [.dropped next.dropped]
  | blocked (next : FreshQueueShift Frame) (frame : Frame) :
      next = self.outboundVoice.shiftFresh self.loop.session.now →
      next.value = some frame →
      Pumped self epoch
        { self with outboundVoice := next.queue.clear.queue, outboundVoicePumping := false }
        [.dropped next.dropped, .dropped (1 + next.queue.clear.dropped)]
  | handed (next : FreshQueueShift Frame) (frame : Frame) (secure : SecureChannel) :
      next = self.outboundVoice.shiftFresh self.loop.session.now →
      next.value = some frame → epoch = self.voiceQueueEpoch → self.talks = true →
      self.loop.session.secure = some secure →
      Pumped self epoch
        { self with
          outboundVoice := next.queue
          pumps := self.pumps ++ [⟨epoch, frame, secure, self.loop.session.secureEpoch, true⟩] }
        [.dropped next.dropped,
          .handed epoch ⟨frame, self.loop.session.now, self.outboundVoice.maxAgeMs⟩]

theorem pumpOver_ends {again : VoiceLoop Frame → Nat → Turn Frame}
    (ends : epoch = self.voiceQueueEpoch → self.talks = true → self.outboundVoice.items = []) :
    pumpOver again self epoch = some ({ self with outboundVoicePumping := false }, []) := by
  rw [pumpOver, if_neg]
  rintro ⟨same, waiting, talks⟩
  rw [size, ends same talks] at waiting
  exact Nat.lt_irrefl 0 waiting

/-- However often it may call itself, the pump does not: its loop ends with an empty queue, or
for a reason for which the `finally` does not call it. -/
theorem pump_pumped (self : VoiceLoop Frame) (keyed : self.Keyed) (canSend : Bool)
    (epoch : Nat) :
    ∃ after marks, (∀ calls, pump canSend (calls + 1) self epoch = some (after, marks)) ∧
      Pumped self epoch after marks := by
  cases secured : self.loop.session.secure with
  | none =>
      have empty : self.outboundVoice.items = [] := by
        by_contra holds
        exact keyed holds secured
      refine ⟨_, _, fun calls => ?_, .ended⟩
      simp only [pump, secured]
      exact pumpOver_ends fun _ _ => empty
  | some secure =>
      by_cases goes : epoch = self.voiceQueueEpoch ∧ self.talks = true
      · generalize taken : self.outboundVoice.shiftFresh self.loop.session.now = next
        cases value : next.value with
        | none =>
            have empty : next.queue.items = [] := by
              rw [← taken, shiftFresh] at value ⊢
              split at value
              · rfl
              · cases value
            refine ⟨_, _, fun calls => ?_, .empty next taken.symm value⟩
            simp only [pump, secured, if_pos goes, taken, value]
            rw [pumpOver_ends fun _ _ => empty]
            rfl
        | some frame =>
            cases canSend with
            | false =>
                refine ⟨_, _, fun calls => ?_, .blocked next frame taken.symm value⟩
                simp only [pump, secured, if_pos goes, taken, value, Bool.false_eq_true, if_false]
                rw [pumpOver_ends fun _ _ => rfl]
                rfl
            | true =>
                refine ⟨_, _, fun calls => ?_,
                  .handed next frame secure taken.symm value goes.1 goes.2 secured⟩
                simp only [pump, secured, if_pos goes, taken, value, if_true]
      · refine ⟨_, _, fun calls => ?_, .ended⟩
        simp only [pump, secured, if_neg goes]
        exact pumpOver_ends fun same talks => absurd ⟨same, talks⟩ goes

end Pump

section Sound

/-- The frames that are being encrypted. -/
def pending (self : VoiceLoop Frame) : List Frame :=
  (self.pumps.filter PumpCall.encrypting).map PumpCall.frame

structure Sound (state : VoiceLoop Frame) (history : List (VoiceMark Frame)) : Prop where
  single : state.pumps.length = if state.outboundVoicePumping then 1 else 0
  keyed : state.Keyed
  account : Account state.voiceQueueEpoch state.outboundVoice history
  sent : (sends history ++ state.pending).Sublist
    ((handovers history).map fun handed => handed.2.value)

theorem create_sound : Sound (create : VoiceLoop Frame) [] where
  single := rfl
  keyed holds := absurd rfl holds
  account := by
    have empty : (create : VoiceLoop Frame).outboundVoice.items = [] := rfl
    refine ⟨⟨[], ?_, List.Forall₂.nil⟩, ?_⟩
    · rw [empty]
      exact List.Sublist.slnil
    · rw [size, empty]
      rfl
  sent := List.Sublist.slnil

/-- A pump is entered with no other one suspended. -/
theorem pumped_sound (pumped : Pumped self epoch after marks) (idle : self.pumps = [])
    (pumping : self.outboundVoicePumping = true) (keyed : self.Keyed)
    (account : Account self.voiceQueueEpoch self.outboundVoice history)
    (sent : (sends history ++ pending self).Sublist
      ((handovers history).map fun handed => handed.2.value)) : Sound after (history ++ marks) := by
  cases pumped with
  | ended =>
      refine ⟨by simp [idle], keyed, ?_, sent_quiet sent rfl rfl⟩
      rw [List.append_nil]
      exact account
  | empty next shifted value =>
      obtain ⟨gone, taken, parts, _, dropped, values, _, _⟩ :=
        self.outboundVoice.shiftFresh_parts self.loop.session.now
      rw [← shifted] at parts dropped values
      rw [value] at values
      obtain rfl : taken = [] := List.map_eq_nil_iff.mp values
      refine ⟨by simp [idle], fun holds => keyed fun empty => holds ?_, ?_,
        sent_quiet sent rfl rfl⟩
      · rw [empty] at parts
        exact (List.append_eq_nil_iff.mp parts.symm).2
      · refine account.next [] gone [] ?_ rfl .nil ?_ fun _ => rfl
        · rw [List.append_nil]
          exact parts
        · simp [losses, VoiceMark.count, dropped]
  | blocked next frame shifted value =>
      obtain ⟨gone, taken, parts, _, dropped, values, _, _⟩ :=
        self.outboundVoice.shiftFresh_parts self.loop.session.now
      rw [← shifted] at parts dropped values
      have one : taken.length = 1 := by
        have lengths := congrArg List.length values
        rw [value, List.length_map] at lengths
        exact lengths
      refine ⟨by simp [idle], fun holds => absurd rfl holds, ?_, sent_quiet sent rfl rfl⟩
      -- The frame that was taken is lost with all that wait behind it.
      refine account.next [] (gone ++ taken ++ next.queue.items) [] ?_ rfl .nil ?_ fun _ => rfl
      · rw [List.append_nil, List.append_nil, parts]
        exact (List.append_nil _).symm
      · simp [losses, VoiceMark.count, dropped, clear, one]
  | handed next frame secure shifted value same talks secured =>
      obtain ⟨gone, taken, parts, _, dropped, values, fresh, _⟩ :=
        self.outboundVoice.shiftFresh_parts self.loop.session.now
      rw [← shifted] at parts dropped values
      obtain ⟨item, rfl, own⟩ : ∃ item, taken = [item] ∧ item.value = frame := by
        rw [value] at values
        obtain ⟨item, rest, rfl, own, none⟩ := List.map_eq_cons_iff.mp values
        obtain rfl : rest = [] := List.map_eq_nil_iff.mp none
        exact ⟨item, rfl, own⟩
      refine ⟨by simp [idle, pumping], fun _ => secured ▸ Option.some_ne_none _, ?_, ?_⟩
      · refine account.next [] gone [item] ?_ rfl ?_ ?_ fun _ => rfl
        · rw [List.append_nil]
          exact parts
        · exact .cons ⟨same.symm, own, fresh item List.mem_cons_self⟩ .nil
        · simp [losses, VoiceMark.count, dropped]
      · rw [pending, idle] at sent
        have earlier : (sends history).Sublist
            ((handovers history).map fun handed => handed.2.value) :=
          (List.sublist_append_left _ _).trans sent
        rw [sends_append, handovers_append, List.map_append, pending, idle, List.append_assoc]
        exact earlier.append (List.Sublist.refl [frame])

theorem Sound.idle (sound : self.Sound history) (free : self.outboundVoicePumping = false) :
    self.pumps = [] := by
  have single := sound.single
  rw [free] at single
  exact List.length_eq_zero_iff.mp single

/-- The only call that can be settled. -/
theorem Sound.only {call : PumpCall Frame} (sound : self.Sound history)
    (found : self.pumps[index]? = some call) :
    self.outboundVoicePumping = true ∧ self.pumps = [call] ∧ index = 0 := by
  have single := sound.single
  have bound := (List.getElem?_eq_some_iff.mp found).1
  cases pumping : self.outboundVoicePumping with
  | false =>
      rw [sound.idle pumping] at bound
      exact absurd bound (Nat.not_lt_zero index)
  | true =>
      rw [pumping] at single
      obtain ⟨other, same⟩ := List.length_eq_one_iff.mp single
      rw [same] at found bound
      obtain rfl : index = 0 := by simpa using bound
      cases found
      exact ⟨rfl, same, rfl⟩

theorem queueOutboundVoice_sound {frame : Frame} (sound : self.Sound history)
    (stepped : self.queueOutboundVoice calls frame canSend = some (after, marks)) :
    Sound after (history ++ marks) := by
  simp only [queueOutboundVoice] at stepped
  split at stepped
  · cases stepped
    rw [List.append_nil]
    exact sound
  · rename_i accepted
    have secured : self.loop.session.secure ≠ none := fun none => accepted (Or.inl none)
    obtain ⟨⟨middle, rest⟩, turned, same⟩ := Option.map_eq_some_iff.mp stepped
    cases same
    obtain ⟨gone, parts, dropped, _, _, _⟩ := trimOverflow_parts { self.outboundVoice with
      items := self.outboundVoice.items ++ [⟨frame, self.loop.session.now⟩] }
    have account : Account self.voiceQueueEpoch
        (self.outboundVoice.push frame self.loop.session.now).queue
        (history ++ [.pushed self.voiceQueueEpoch ⟨frame, self.loop.session.now⟩,
          .dropped (self.outboundVoice.push frame self.loop.session.now).dropped]) := by
      refine sound.account.next [⟨frame, self.loop.session.now⟩] gone [] ?_ rfl .nil ?_
        fun _ => rfl
      · rw [List.append_nil]
        exact parts
      · simp [losses, VoiceMark.count, push, dropped]
    split at turned
    · cases turned
      exact ⟨sound.single, fun _ => secured, account, sent_quiet sound.sent rfl rfl⟩
    · rename_i free
      have idle := sound.idle (Bool.eq_false_iff.mpr free)
      cases calls with
      | zero => cases turned
      | succ calls =>
          obtain ⟨next, given, turns, pumped⟩ := pump_pumped { self with
            outboundVoice := (self.outboundVoice.push frame self.loop.session.now).queue
            outboundVoicePumping := true } (fun _ => secured) canSend self.voiceQueueEpoch
          cases (turns calls).symm.trans turned
          have entered := pumped_sound pumped idle rfl (fun _ => secured) account
            (sent_quiet sound.sent rfl rfl)
          rw [List.append_assoc] at entered
          exact entered

theorem encrypted_sound {ok : Bool} (sound : self.Sound history)
    (stepped : self.encrypted index ok = some (after, marks)) : Sound after (history ++ marks) := by
  obtain ⟨call, found, settled⟩ := Option.bind_eq_some_iff.mp stepped
  obtain ⟨pumping, only, rfl⟩ := sound.only found
  split at settled
  · rename_i encrypting
    cases settled
    have sent := sound.sent
    rw [pending, only] at sent
    have quiet : ∀ marks : List (VoiceMark Frame), captures marks = [] → handovers marks = [] →
        losses marks = 0 → Account self.voiceQueueEpoch self.outboundVoice (history ++ marks) := by
      intro marks captured handed lost
      exact sound.account.next [] [] [] (List.append_nil _) captured (handed ▸ .nil) lost
        fun _ => rfl
    refine ⟨by simp [only, pumping], sound.keyed, ?_, ?_⟩
    · split <;> exact quiet _ rfl rfl rfl
    · rw [sends_append, handovers_append, pending, only]
      split
      · -- The frame that was being encrypted is the one that is sent.
        change (sends history ++ [call.frame] ++ []).Sublist (List.map _ (handovers history ++ []))
        rw [List.append_nil, List.append_nil]
        simpa [encrypting] using sent
      · change (sends history ++ [] ++ []).Sublist (List.map _ (handovers history ++ []))
        rw [List.append_nil, List.append_nil, List.append_nil]
        exact (List.sublist_append_left _ _).trans sent
  · cases settled

theorem returned_sound (sound : self.Sound history)
    (stepped : self.returned calls index canSend = some (after, marks)) :
    Sound after (history ++ marks) := by
  obtain ⟨call, found, settled⟩ := Option.bind_eq_some_iff.mp stepped
  obtain ⟨pumping, only, rfl⟩ := sound.only found
  split at settled
  · cases settled
  · rename_i ended
    cases calls with
    | zero => cases settled
    | succ calls =>
        obtain ⟨next, given, turns, pumped⟩ := pump_pumped { self with
          pumps := self.pumps.eraseIdx 0 } sound.keyed canSend call.epoch
        cases (turns calls).symm.trans settled
        refine pumped_sound pumped ?_ pumping sound.keyed sound.account ?_
        · rw [only]
          rfl
        · have sent := sound.sent
          simpa [pending, only, ended] using sent

end Sound

section Calls

/-- What a turn of the session does to the queue. -/
structure Called (before after : VoiceLoop Frame) (made : List VoiceCall)
    (marks : List (VoiceMark Frame)) : Prop where
  loop : after.loop = before.loop
  pumps : after.pumps = before.pumps
  pumping : after.outboundVoicePumping = before.outboundVoicePumping
  held : after.outboundVoice.items ≠ [] →
    before.outboundVoice.items ≠ [] ∧ VoiceCall.clear ∉ made
  unsent : sends marks = []
  kept : handovers marks = []
  account : ∀ {history}, Account before.voiceQueueEpoch before.outboundVoice history →
    Account after.voiceQueueEpoch after.outboundVoice (history ++ marks)

theorem call_called (self : VoiceLoop Frame) (made : VoiceCall) :
    Called self (self.call made).1 [made] (self.call made).2 := by
  cases made with
  | clear =>
      refine ⟨rfl, rfl, rfl, fun holds => absurd rfl holds, rfl, rfl, fun account => ?_⟩
      refine account.next [] self.outboundVoice.items [] ?_ rfl .nil ?_ fun holds => absurd rfl holds
      · simp [call, clear]
      · simp [losses, VoiceMark.count, clear, call]
  | setLimits id =>
      obtain ⟨gone, parts, dropped, _, _, _⟩ := trimOverflow_parts { self.outboundVoice with
        maxFrames := max 1 (voiceQueueMaxFrames (getProfile id))
        maxAgeMs := max 1 (getProfile id).voice.maxQueuedLatencyMs }
      refine ⟨rfl, rfl, rfl, fun holds => ⟨fun empty => holds ?_, by simp⟩, rfl, rfl,
        fun account => ?_⟩
      · have none : self.outboundVoice.items = gone ++ _ := parts
        rw [empty] at none
        exact (List.append_eq_nil_iff.mp none.symm).2
      · refine account.next [] gone [] ?_ rfl .nil ?_ fun _ => rfl
        · rw [List.append_nil, List.append_nil]
          exact parts
        · simp [losses, VoiceMark.count, setLimits, dropped, call]

theorem makeCalls_called (made : List VoiceCall) (self : VoiceLoop Frame) :
    Called self (makeCalls made self).1 made (makeCalls made self).2 := by
  induction made generalizing self with
  | nil =>
      refine ⟨rfl, rfl, rfl, fun holds => ⟨holds, List.not_mem_nil⟩, rfl, rfl, fun account => ?_⟩
      exact (List.append_nil _).symm ▸ account
  | cons first rest ih =>
      have one := call_called self first
      have more := ih (self.call first).1
      refine ⟨more.loop.trans one.loop, more.pumps.trans one.pumps, more.pumping.trans one.pumping,
        fun holds => ?_, ?_, ?_, fun account => ?_⟩
      · obtain ⟨middle, later⟩ := more.held holds
        obtain ⟨held, now⟩ := one.held middle
        refine ⟨held, fun member => ?_⟩
        rcases List.mem_cons.mp member with rfl | member
        · exact now List.mem_cons_self
        · exact later member
      · simp only [makeCalls, sends_append, one.unsent, more.unsent, List.append_nil]
      · simp only [makeCalls, handovers_append, one.kept, more.kept, List.append_nil]
      · have both := more.account (one.account account)
        rw [List.append_assoc] at both
        exact both

/-- A session that loses its channel clears the queue. -/
theorem losing_clears {digest : Bytes → String} {before after : Loop} {event : Event}
    {outputs : List Moment} (stepped : before.step digest event = some (after, outputs))
    (had : before.session.secure ≠ none) (lost : after.session.secure = none) :
    VoiceCall.clear ∈ before.voiceCalls event := by
  have torn (first : List Outcall) (forgetSlot : Bool)
      (calls : before.outcalls event = first ++ tearDownCalls forgetSlot) :
      VoiceCall.clear ∈ before.voiceCalls event := by
    refine List.mem_append_right _ (List.mem_filterMap.mpr ⟨.disconnect forgetSlot, ?_, rfl⟩)
    rw [calls]
    exact List.mem_append_right _ List.mem_cons_self
  have steady {session : SessionController} (kept : Steady before.session session)
      (same : after.session.secure = session.secure) : VoiceCall.clear ∈ before.voiceCalls event :=
    absurd (kept.secure.symm.trans (same.symm.trans lost)) had
  cases Loop.step_moves stepped with
  | rest kept => exact steady kept rfl
  | heard _ core => exact absurd ((congrArg Core.secure core).symm.trans lost) had
  | marked _ _ core => exact absurd ((congrArg Core.secure core).symm.trans lost) had
  | installed channel peerKey _ core => cases (congrArg Core.secure core).symm.trans lost
  | torn first forgetSlot _ _ _ _ _ calls => exact torn first forgetSlot calls
  | opened _ _ core => exact absurd ((congrArg Core.secure core).symm.trans lost) had
  | failed _ _ _ first _ _ _ _ _ _ _ calls => exact torn first false calls
  | started _ _ _ profileId _ _ _ _ _ calls =>
      refine List.mem_append_right _ (List.mem_filterMap.mpr ⟨.disconnect false, ?_, rfl⟩)
      rw [calls]
      exact List.mem_cons_self
  | configured _ _ _ _ same => exact absurd (same ▸ lost) had
  | keyed _ _ _ _ same => exact absurd ((congrArg SessionController.secure same).symm.trans lost) had
  | entered _ _ _ _ kept => exact steady kept rfl
  | elapsed _ _ _ _ _ _ _ _ _ kept same =>
      exact steady kept (by rw [same]; rfl)
  | prepares _ _ _ _ _ _ _ _ _ _ _ _ calls =>
      refine List.mem_append_right _ (List.mem_filterMap.mpr ⟨.clearQueuedPackets, ?_, rfl⟩)
      rw [calls]
      exact List.mem_cons_self
  | configures _ _ _ _ _ same => exact absurd (same ▸ lost) had
  | generates _ _ _ same => exact absurd (same ▸ lost) had
  | rekeyed _ _ _ _ _ kept => exact absurd (kept.secure.symm.trans lost) had
  | prepared _ _ _ _ kept => exact steady kept rfl

end Calls

section Runs

variable {digest : Bytes → String} {event : VoiceEvent Frame}

theorem step_sound (sound : self.Sound history)
    (stepped : self.step digest calls event = some (after, marks)) :
    Sound after (history ++ marks) := by
  cases event with
  | session event =>
      obtain ⟨⟨next, moments⟩, turned, same⟩ := Option.map_eq_some_iff.mp stepped
      have called := makeCalls_called (self.loop.voiceCalls event) { self with loop := next }
      rw [same] at called
      refine ⟨?_, fun holds => ?_, called.account sound.account, ?_⟩
      · rw [called.pumps, called.pumping]
        exact sound.single
      · obtain ⟨held, uncleared⟩ := called.held holds
        rw [called.loop]
        intro lost
        exact uncleared (losing_clears turned (sound.keyed held) lost)
      · rw [pending, called.pumps]
        exact sent_quiet sound.sent called.unsent called.kept
  | frame frame canSend => exact queueOutboundVoice_sound sound stepped
  | encrypted index ok => exact encrypted_sound sound stepped
  | returned index canSend => exact returned_sound sound stepped

theorem run_sound
    (run : (voiceMachine Frame digest calls).Run Machine.Unrestricted create self history) :
    self.Sound history :=
  run.invariant (fun state history => Sound state history) create_sound
    fun _ _ _ _ _ sound _ stepped => step_sound sound stepped

/-- In every run of the session and of its microphone: frames are handed to `sendRawApp` in the order
they were captured, each one fresh and in the queue epoch it was captured in, never across a clearing;
every frame is handed over, reported as dropped or still waiting; at most one of them is on its way
through `sendRawApp`; and the transport is given them in the same order. -/
theorem voice_frames_in_order
    (run : (voiceMachine Frame digest calls).Run Machine.Unrestricted create self history) :
    (∃ taken, (taken ++ self.outboundVoice.items.map (Prod.mk self.voiceQueueEpoch)).Sublist
        (captures history) ∧ List.Forall₂ Delivered taken (handovers history)) ∧
      (captures history).length =
        (handovers history).length + losses history + self.outboundVoice.size ∧
      self.pumps.length ≤ 1 ∧
      (sends history).Sublist ((handovers history).map fun handed => handed.2.value) := by
  have sound := run_sound run
  refine ⟨sound.account.order, sound.account.total, ?_,
    (List.sublist_append_left _ _).trans sound.sent⟩
  rw [sound.single]
  split <;> omega

/-- The user talks; the second frame waits while the first one is encrypted, the third is still
there when the microphone is muted, and the fourth comes after that. -/
def mutedTalk : List (VoiceEvent Nat) :=
  (secureRoom ++ [Event.request .startVoice, .settle 5 (.sampleRate 48000)]).map .session ++
    [.frame 1 true, .frame 2 true, .encrypted 0 true, .returned 0 true, .frame 3 true,
      .session (.request .toggleMute), .session (.request .toggleMute), .encrypted 0 true,
      .returned 0 true, .frame 4 true]

theorem muted_talk_in_order :
    ∃ (state : VoiceLoop Nat) (history : List (VoiceMark Nat)),
      (voiceMachine Nat (fun _ => "digest") 1).Run Machine.Unrestricted create state history ∧
      (handovers history).map (fun handed => handed.2.value) = [1, 2, 4] ∧ sends history = [1, 2] ∧
      losses history = 1 ∧
      (captures history).length =
        (handovers history).length + losses history + state.outboundVoice.size := by
  have ran : ((voiceMachine Nat (fun _ => "digest") 1).execute create mutedTalk).map (fun result =>
      ((handovers result.2).map (fun handed => handed.2.value), sends result.2, losses result.2)) =
        some ([1, 2, 4], [1, 2], 1) := by
    decide +kernel
  obtain ⟨⟨state, history⟩, executed, same⟩ := Option.map_eq_some_iff.mp ran
  simp only [Prod.mk.injEq] at same
  have run := Machine.execute_run _ (Machine.along_unrestricted _ _) executed
  exact ⟨state, history, run, same.1, same.2.1, same.2.2, (voice_frames_in_order run).2.1⟩

/-- In every reachable state a pump comes to its next await or to its end without calling itself. -/
theorem pump_never_calls_itself
    (run : (voiceMachine Frame digest calls).Run Machine.Unrestricted create self history) :
    (∀ frame canSend, ∃ turned, ∀ more,
        self.queueOutboundVoice (more + 1) frame canSend = some turned) ∧
      ∀ index call canSend, self.pumps[index]? = some call → call.encrypting = false →
        ∃ turned, ∀ more, self.returned (more + 1) index canSend = some turned := by
  have sound := run_sound run
  constructor
  · intro frame canSend
    by_cases refused : self.loop.session.secure = none ∨ self.talks = false
    · exact ⟨_, fun more => if_pos refused⟩
    · simp only [queueOutboundVoice, if_neg refused]
      split
      · exact ⟨_, fun _ => rfl⟩
      · obtain ⟨next, given, turns, _⟩ := pump_pumped { self with
          outboundVoice := (self.outboundVoice.push frame self.loop.session.now).queue
          outboundVoicePumping := true } (fun _ none => refused (Or.inl none)) canSend
          self.voiceQueueEpoch
        exact ⟨_, fun more => by rw [turns more]; rfl⟩
  · intro index call canSend found ended
    obtain ⟨next, given, turns, _⟩ := pump_pumped { self with
      pumps := self.pumps.eraseIdx index } sound.keyed canSend call.epoch
    refine ⟨(next, given), fun more => ?_⟩
    simp only [returned, found, Option.bind_some, ended, Bool.false_eq_true, if_false]
    exact turns more

/-- The microphone is muted while a frame is encrypted; the pump that waits for it ends. -/
theorem muted_pump_ends :
    ∃ (state : VoiceLoop Nat) (history : List (VoiceMark Nat)) (turned : _),
      (voiceMachine Nat (fun _ => "digest") 1).Run Machine.Unrestricted create state history ∧
      ∀ more, state.returned (more + 1) 0 true = some turned := by
  have ran : ((voiceMachine Nat (fun _ => "digest") 1).execute create (mutedTalk.take 26)).map
      (fun result => result.1.pumps.map PumpCall.encrypting) = some [false] := by
    decide +kernel
  obtain ⟨⟨state, history⟩, executed, same⟩ := Option.map_eq_some_iff.mp ran
  have run := Machine.execute_run _ (Machine.along_unrestricted _ _) executed
  obtain ⟨call, only, ended⟩ := List.map_eq_singleton_iff.mp same
  have found : state.pumps[0]? = some call := by rw [only]; rfl
  obtain ⟨turned, turns⟩ := (pump_never_calls_itself run).2 0 call true found ended
  exact ⟨state, history, turned, run, turns⟩

end Runs

end VoiceLoop

end OnlyTwo.Session
