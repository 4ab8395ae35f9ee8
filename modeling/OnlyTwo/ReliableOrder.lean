import OnlyTwo.Precedence
import OnlyTwo.ReliableDelivery

/-!
The order in which a channel returns bodies. Frames carry no sequence number, so
a lost frame that is sent again may be overtaken by a later message. What holds
is that bodies are returned in the order in which their first frames arrive, when
the owner of the channel awaits each `receive` before the next, as the inbound
queue of the session does.
-/

namespace OnlyTwo.Reliable

open ReliableChannel

variable {Body : Type} {before after : ReliableChannel Body} {past notes : List (Note Body)}

/-- A `receive` call for this id starts. -/
def Starts (id : String) : Note Body → Bool
  | .started other _ _ => other = id
  | _ => false

/-- No `receive` call is suspended when one for a message starts. -/
def Awaited (channel : ReliableChannel Body) : Event Body → Prop
  | .receive (.msg ..) => channel.receiving = []
  | _ => True

section Receiving
variable {first second : String} {ttl : Nat}

theorem starts_iff {id : String} : (∃ note ∈ past, Starts id note = true) ↔
    ∃ body time, .started id body time ∈ past := by
  constructor
  · rintro ⟨note, member, hit⟩
    cases note with
    | started other body time =>
        simp only [Starts, decide_eq_true_eq] at hit
        subst hit
        exact ⟨body, time, member⟩
    | _ => cases hit
  · rintro ⟨body, time, member⟩
    exact ⟨_, member, by simp [Starts]⟩

theorem returns_iff {id : String} : (∃ note ∈ past, Returns id note = true) ↔
    ∃ body time, .finished id (some body) time ∈ past := by
  constructor
  · rintro ⟨note, member, hit⟩
    exact returned_of_returns (List.countP_pos_iff.mpr ⟨note, member, hit⟩)
  · rintro ⟨body, time, member⟩
    exact ⟨_, member, by simp [Returns]⟩

/-- A body is returned by a call that started. -/
theorem Received.started_of_returned (received : Received ttl before past) {id : String}
    (returned : ∃ note ∈ past, Returns id note = true) : ∃ note ∈ past, Starts id note = true := by
  obtain ⟨body, time, finished⟩ := returns_iff.mp returned
  obtain ⟨_, start, started, _⟩ := received.paired id body time finished
  exact starts_iff.mpr ⟨body, start, started⟩

/-- The only suspended call is the first one for `second`, and none for `first` has
started yet. -/
structure Ahead (channel : ReliableChannel Body) (past : List (Note Body))
    (first second : String) : Prop where
  waiting : ∃ body, channel.receiving = [⟨second, body⟩]
  unseen : second ∉ channel.seen.keys
  behind : ¬ ∃ note ∈ past, Starts first note = true
  unreturned : ¬ ∃ note ∈ past, Returns second note = true

/-- Calls that do not overlap return in the order of their first starts. -/
structure InTurn (channel : ReliableChannel Body) (past : List (Note Body)) : Prop where
  alone : channel.receiving.length ≤ 1
  forward : ∀ first second, Precedes (Starts first) (Starts second) past →
    Precedes (Returns first) (Returns second) past
  backward : ∀ first second, first ≠ second → ¬ Precedes (Starts first) (Starts second) past →
    Ahead channel past first second ∨ ¬ Precedes (Returns first) (Returns second) past

theorem create_inTurn (policy : ReliablePolicy) :
    InTurn (create policy : ReliableChannel Body) [] where
  alone := Nat.zero_le _
  forward := fun _ _ _ => .nil
  backward := fun _ _ _ unordered => absurd .nil unordered

theorem silent_starts (silent : ∀ note ∈ notes, IsReceipt note = false) (id : String) :
    ∀ note ∈ notes, Starts id note = false := by
  intro note member
  have quiet := silent note member
  cases note <;> first | rfl | cases quiet

theorem silent_returns (silent : ∀ note ∈ notes, IsReceipt note = false) (id : String) :
    ∀ note ∈ notes, Returns id note = false := by
  intro note member
  have quiet := silent note member
  cases note <;> first | rfl | cases quiet

theorem not_exists_append {hits : Note Body → Bool} (old : ¬ ∃ note ∈ past, hits note = true)
    (new : ∀ note ∈ notes, hits note = false) : ¬ ∃ note ∈ past ++ notes, hits note = true := by
  rintro ⟨note, member, hit⟩
  rcases List.mem_append.mp member with earlier | later
  · exact old ⟨note, earlier, hit⟩
  · rw [new note later] at hit
    cases hit

theorem InTurn.other (inTurn : InTurn before past) (bystander : Bystander before after)
    (calls : after.receiving = before.receiving)
    (silent : ∀ note ∈ notes, IsReceipt note = false) : InTurn after (past ++ notes) where
  alone := calls ▸ inTurn.alone
  forward := by
    intro first second
    rw [Precedes.append_iff (silent_starts silent second),
      Precedes.append_iff (silent_returns silent second)]
    exact inTurn.forward first second
  backward := by
    intro first second different
    rw [Precedes.append_iff (silent_starts silent second),
      Precedes.append_iff (silent_returns silent second)]
    intro unordered
    rcases inTurn.backward first second different unordered with ahead | reversed
    · left
      exact {
        waiting := calls ▸ ahead.waiting
        unseen := fun seen => ahead.unseen (bystander.subset second seen)
        behind := not_exists_append ahead.behind (silent_starts silent first)
        unreturned := not_exists_append ahead.unreturned (silent_returns silent second) }
    · exact Or.inr reversed

theorem InTurn.start (inTurn : InTurn before past) (received : Received ttl before past)
    {id : String} {body : Body} (bystander : Bystander before after)
    (idle : before.receiving = []) (calls : after.receiving = before.receiving ++ [⟨id, body⟩]) :
    InTurn after (past ++ [.started id body before.now, .transmit (.ack id) .control]) := by
  have unreturned : ∀ other : String,
      ∀ note ∈ ([.started id body before.now, .transmit (.ack id) .control] : List (Note Body)),
        Returns other note = false := by
    intro other note member
    simp only [List.mem_cons, List.not_mem_nil, or_false] at member
    rcases member with rfl | rfl <;> rfl
  refine ⟨by simp [calls, idle], ?_, ?_⟩
  · intro first second ordered
    rw [Precedes.append_iff (unreturned second)]
    exact inTurn.forward first second ordered.earlier
  · intro first second different unordered
    rw [Precedes.append_iff (unreturned second)]
    by_cases ordered : Precedes (Starts first) (Starts second) past
    · -- this start is the one out of order, so it is the first of its id
      left
      have here : id = second ∧ ¬ ∃ note ∈ past, Starts first note = true := by
        apply Classical.byContradiction
        intro fine
        apply unordered
        apply ordered.append_of_past
        intro note member hit
        apply Classical.byContradiction
        intro behind
        apply fine
        refine ⟨?_, behind⟩
        simp only [List.mem_cons, List.not_mem_nil, or_false] at member
        rcases member with rfl | rfl
        · simpa [Starts] using hit
        · cases hit
      obtain ⟨rfl, behind⟩ := here
      have fresh : ¬ ∃ note ∈ past, Starts id note = true := by
        rintro ⟨note, member, hit⟩
        exact behind (ordered.found member hit)
      refine ⟨⟨body, by simp [calls, idle]⟩, ?_, ?_, ?_⟩
      · intro seen
        obtain ⟨other, time, finished⟩ := received.recorded id (bystander.subset id seen)
        exact fresh (received.started_of_returned (returns_iff.mpr ⟨other, time, finished⟩))
      · apply not_exists_append behind
        intro note member
        simp only [List.mem_cons, List.not_mem_nil, or_false] at member
        rcases member with rfl | rfl
        · simpa [Starts] using different.symm
        · rfl
      · apply not_exists_append _ (unreturned id)
        exact fun returned => fresh (received.started_of_returned returned)
    · rcases inTurn.backward first second different ordered with ahead | reversed
      · obtain ⟨other, waiting⟩ := ahead.waiting
        rw [idle] at waiting
        cases waiting
      · exact Or.inr reversed

/-- The one suspended call is the one that resumes. -/
theorem InTurn.only (inTurn : InTurn before past) {index : Nat} {call other : Receipt Body}
    (suspended : before.receiving[index]? = some call) (waiting : other ∈ before.receiving) :
    other = call ∧ before.receiving.eraseIdx index = [] := by
  have few := inTurn.alone
  cases calls : before.receiving with
  | nil =>
      rw [calls] at waiting
      cases waiting
  | cons head tail =>
      rw [calls] at few suspended waiting
      have none : tail = [] := List.length_eq_zero_iff.mp (by simpa using few)
      subst none
      have index_zero : index = 0 := by
        have bound := (List.getElem?_eq_some_iff.mp suspended).1
        simpa using bound
      subst index_zero
      simp only [List.getElem?_cons_zero, Option.some.injEq] at suspended
      subst suspended
      exact ⟨List.mem_singleton.mp waiting, rfl⟩

theorem InTurn.duplicate (inTurn : InTurn before past) {index : Nat} {call : Receipt Body}
    (suspended : before.receiving[index]? = some call) (seen : call.id ∈ before.seen.keys) :
    InTurn { before with receiving := before.receiving.eraseIdx index }
      (past ++ [.onDuplicate call.id, .finished call.id none before.now]) := by
  have quiet : ∀ id : String,
      ∀ note ∈ ([.onDuplicate call.id, .finished call.id none before.now] : List (Note Body)),
        Starts id note = false ∧ Returns id note = false := by
    intro id note member
    simp only [List.mem_cons, List.not_mem_nil, or_false] at member
    rcases member with rfl | rfl <;> exact ⟨rfl, rfl⟩
  have empty := (inTurn.only suspended (List.mem_of_getElem? suspended)).2
  refine ⟨by simp [empty], ?_, ?_⟩
  · intro first second
    rw [Precedes.append_iff fun note member => (quiet second note member).1,
      Precedes.append_iff fun note member => (quiet second note member).2]
    exact inTurn.forward first second
  · intro first second different
    rw [Precedes.append_iff fun note member => (quiet second note member).1,
      Precedes.append_iff fun note member => (quiet second note member).2]
    intro unordered
    rcases inTurn.backward first second different unordered with ahead | reversed
    · obtain ⟨body, waiting⟩ := ahead.waiting
      have same := (inTurn.only suspended (waiting ▸ List.mem_singleton.mpr rfl)).1
      subst same
      exact absurd seen ahead.unseen
    · exact Or.inr reversed

theorem InTurn.accept (inTurn : InTurn before past) (received : Received ttl before past)
    {index : Nat} {call : Receipt Body} (suspended : before.receiving[index]? = some call) :
    InTurn { before with
        receiving := before.receiving.eraseIdx index
        seen := before.seen.set call.id (before.now + before.policy.seenTtlMs) }
      (past ++ [.finished call.id (some call.body) before.now]) := by
  have unstarted : ∀ id : String,
      ∀ note ∈ ([.finished call.id (some call.body) before.now] : List (Note Body)),
        Starts id note = false := by
    intro id note member
    rw [List.mem_singleton.mp member]
    rfl
  have waits := List.mem_of_getElem? suspended
  have empty := (inTurn.only suspended waits).2
  obtain ⟨time, started, _⟩ := received.calls call waits
  refine ⟨by simp [empty], ?_, ?_⟩
  · intro first second
    rw [Precedes.append_iff (unstarted second)]
    intro ordered
    apply (inTurn.forward first second ordered).append_of_past
    intro note member hit
    rw [List.mem_singleton.mp member] at hit
    have same : call.id = second := by simpa [Returns] using hit
    subst same
    obtain ⟨body, start, began⟩ := starts_iff.mp
      (ordered.found started (by simp [Starts]))
    rcases received.progress first body start began with ⟨other, time, finished⟩ | ⟨waiting, _⟩
    · exact returns_iff.mpr ⟨other, time, finished⟩
    · -- a call for both ids at once would be preceded by itself
      have same := (inTurn.only suspended waiting).1
      subst same
      have absent := ordered.irrefl _ began
      simp [Starts] at absent
  · intro first second different
    rw [Precedes.append_iff (unstarted second)]
    intro unordered
    right
    intro ordered
    rcases inTurn.backward first second different unordered with ahead | reversed
    · obtain ⟨body, waiting⟩ := ahead.waiting
      have same := (inTurn.only suspended (waiting ▸ List.mem_singleton.mpr rfl)).1
      subst same
      have returned := ordered past _ [] rfl (by simp [Returns])
      exact ahead.behind (received.started_of_returned returned)
    · exact reversed ordered.earlier

theorem step_inTurn {event : Event Body} (formed : WellFormed before) (kept : event ≠ .reset)
    (awaited : Awaited before event) (received : Received ttl before past)
    (inTurn : InTurn before past) (stepped : before.step event = some (after, notes)) :
    InTurn after (past ++ notes) := by
  have outgoing := step_outgoing formed kept stepped
  have step := step_receives kept stepped
  cases step with
  | other bystander calls silent => exact inTurn.other bystander calls silent
  | start id body bystander calls =>
      obtain ⟨channel, createdAt, attempt, rfl⟩ := outgoing.started id body before.now (by simp)
      exact inTurn.start received bystander awaited calls
  | duplicate index call suspended seen => exact inTurn.duplicate suspended seen
  | accept index call suspended _ => exact inTurn.accept received suspended

theorem run_inTurn {final : ReliableChannel Body} {policy : ReliablePolicy}
    (run : Machine.Run (machine Body) (fun channel event => event ≠ .reset ∧ Awaited channel event)
      (create policy) final past) : InTurn final past := by
  have all := run.invariant
    (fun channel past => Ledger channel past ∧ Received policy.seenTtlMs channel past ∧
      InTurn channel past)
    ⟨create_ledger policy, create_received policy, create_inTurn policy⟩
    (by
      rintro before past event after notes ⟨ledger, received, inTurn⟩ ⟨kept, awaited⟩ stepped
      exact ⟨(step_turn ledger.formed event stepped).ledger ledger,
        (step_receives kept stepped).received received,
        step_inTurn ledger.formed kept awaited received inTurn stepped⟩)
  exact all.2.2

/-- Once the second body is returned, the order of the returns is that of the
first starts. -/
theorem InTurn.order_iff (inTurn : InTurn before past) (different : first ≠ second)
    (returned : ∃ note ∈ past, Returns second note = true) :
    Precedes (Returns first) (Returns second) past ↔
      Precedes (Starts first) (Starts second) past := by
  constructor
  · intro ordered
    apply Classical.byContradiction
    intro unordered
    rcases inTurn.backward first second different unordered with ahead | reversed
    · exact ahead.unreturned returned
    · exact reversed ordered
  · exact inTurn.forward first second

end Receiving

section Pair
variable {policy : Side → ReliablePolicy} {pair : Pair Body} {history : List (Side × Note Body)}

/-- The runs of two connected channels whose owners await each `receive`. -/
def Orderly (pair : Pair Body) (event : Side × Event Body) : Prop :=
  Connected pair event ∧ Awaited (pair.channel event.1) event.2

/-- A frame of the message is handed to the network. -/
def SendsFrame (side : Side) (id : String) : Side × Note Body → Bool
  | (tag, .transmit (.msg other _ _ _ _) _) => tag = side && other = id
  | _ => false

/-- The delivery of the message is reported. -/
def Reports (side : Side) (id : String) : Side × Note Body → Bool
  | (tag, .onDelivered other _) => tag = side && other = id
  | _ => false

def StartsAt (side : Side) (id : String) (entry : Side × Note Body) : Bool :=
  entry.1 = side && Starts id entry.2

/-- A frame arrives after it was sent, and a report comes after the frame arrived. -/
structure Timeline (pair : Pair Body) (history : List (Side × Note Body)) : Prop where
  wired : ∀ side message, message ∈ pair.wire side →
    ∃ lane, (side, .transmit message lane) ∈ history
  arrives : ∀ side id, Precedes (SendsFrame side id) (StartsAt side.other id) history
  reported : ∀ side id, Precedes (StartsAt side.other id) (Reports side id) history

theorem step_timeline {tag : Side} {event : Event Body} {next : ReliableChannel Body}
    {notes : List (Note Body)} (honest : Honest pair history) (timeline : Timeline pair history)
    (connected : Connected pair (tag, event))
    (outgoing : Outgoing (pair.channel tag) event next notes) :
    Timeline ⟨Function.update pair.channel tag next,
      Function.update pair.wire tag (pair.wire tag ++ notes.filterMap Note.frame)⟩
      (history ++ notes.map fun note => (tag, note)) where
  wired := by
    intro side message member
    rcases mem_wire member with old | ⟨rfl, lane, transmitted⟩
    · obtain ⟨lane, sent⟩ := timeline.wired side message old
      exact ⟨lane, List.mem_append_left _ sent⟩
    · exact ⟨lane, List.mem_append_right _ (List.mem_map.mpr ⟨_, transmitted, rfl⟩)⟩
  arrives := by
    intro side id
    apply (timeline.arrives side id).append_of_past
    intro entry member hit
    obtain ⟨note, noted, rfl⟩ := List.mem_map.mp member
    simp only [StartsAt, Bool.and_eq_true, decide_eq_true_eq] at hit
    obtain ⟨rfl, hit⟩ := hit
    obtain ⟨body, time, started⟩ := starts_iff.mp ⟨note, noted, hit⟩
    obtain ⟨channel, createdAt, attempt, rfl⟩ := outgoing.started id body time started
    have wired : .msg id channel body createdAt attempt ∈ pair.wire side := by
      simpa [Connected] using connected
    obtain ⟨lane, sent⟩ := timeline.wired side _ wired
    exact ⟨_, sent, by simp [SendsFrame]⟩
  reported := by
    intro side id
    apply (timeline.reported side id).append_of_past
    intro entry member hit
    obtain ⟨note, noted, rfl⟩ := List.mem_map.mp member
    cases note with
    | onDelivered other trackingId =>
        simp only [Reports, Bool.and_eq_true, decide_eq_true_eq] at hit
        obtain ⟨rfl, rfl⟩ := hit
        obtain rfl := outgoing.delivered other trackingId noted
        obtain ⟨body, time, started⟩ := honest.acks tag.other other connected
        exact ⟨_, started, by simp [StartsAt, Starts]⟩
    | _ => cases hit

theorem run_timeline
    (run : Machine.Run (pairMachine Body) Connected (connect policy) pair history) :
    Timeline pair history := by
  induction run with
  | refl => exact ⟨by simp [connect], fun _ _ => .nil, fun _ _ => .nil⟩
  | @next before after past outputs event earlier connected stepped timeline =>
      obtain ⟨tag, event⟩ := event
      obtain ⟨⟨next, notes⟩, taken, same⟩ := Option.map_eq_some_iff.mp stepped
      cases same
      have ledger := run_ledger (create_ledger (policy tag)) (run_side earlier tag)
      exact step_timeline (run_honest earlier) timeline connected
        (step_outgoing ledger.formed (connected_no_reset connected) taken)

/-- The order of the starts on one side is an order in the history of the pair. -/
theorem starts_notesOf {side : Side} {first second : String}
    (ordered : Precedes (StartsAt side first) (StartsAt side second) history) :
    Precedes (Starts first) (Starts second) (notesOf side history) := by
  apply Precedes.filterMap
  have view : ∀ id, (fun entry : Side × Note Body =>
      (if entry.1 = side then some entry.2 else none).any (Starts id)) = StartsAt side id := by
    intro id
    funext entry
    by_cases here : entry.1 = side <;> simp [StartsAt, here]
  rw [view first, view second]
  exact ordered

/-- Over every run of two connected channels whose owners await each `receive`, with
any loss and any retries: of two bodies that the peer returns, the one whose frame
arrived first is returned first; and a body that was reported as delivered
before another one was sent is returned before it. -/
theorem returned_in_order_of_arrival (Body : Type) (policy : Side → ReliablePolicy)
    (pair : Pair Body) (history : List (Side × Note Body))
    (run : Machine.Run (pairMachine Body) Orderly (connect policy) pair history)
    (side : Side) (first second : String) (different : first ≠ second) :
    ((∃ note ∈ notesOf side history, Returns second note = true) →
      (Precedes (Returns first) (Returns second) (notesOf side history) ↔
        Precedes (Starts first) (Starts second) (notesOf side history))) ∧
    (Precedes (Reports side.other first) (SendsFrame side.other second) history →
      Precedes (Returns first) (Returns second) (notesOf side history)) := by
  have inTurn := run_inTurn (run_channel (fun pair tag event orderly =>
    ⟨connected_no_reset orderly.1, orderly.2⟩) run side)
  have timeline := run_timeline (run.mono fun _ _ orderly => orderly.1)
  refine ⟨inTurn.order_iff different, ?_⟩
  intro waited
  apply inTurn.forward
  apply starts_notesOf
  have reported := timeline.reported side.other first
  have arrives := timeline.arrives side.other second
  rw [Side.other_other] at reported arrives
  exact (reported.trans waited).trans arrives

end Pair

instance [DecidableEq Body] (channel : ReliableChannel Body) :
    (event : Event Body) → Decidable (Awaited channel event)
  | .receive (.msg ..) => inferInstanceAs (Decidable (channel.receiving = []))
  | .receive (.ack _) | .receive (.nack ..) | .send .. | .sendResolved .. | .ackSent _ | .fire _
  | .failAll _ | .reset | .tick _ => .isTrue trivial

instance [DecidableEq Body] (pair : Pair Body) (event : Side × Event Body) :
    Decidable (Orderly pair event) :=
  inferInstanceAs (Decidable (_ ∧ _))

section Samples

/-- The second message is sent after the first one was reported as delivered. -/
def awaitedExchange : List (Side × Event String) :=
  [(.left, .send "a" none .control "voice.start"), (.left, .sendResolved "a" true),
    (.right, .receive (.msg "a" .control "voice.start" 0 1)), (.right, .ackSent 0),
    (.left, .receive (.ack "a")),
    (.left, .send "b" none .control "voice.stop"), (.left, .sendResolved "b" true),
    (.right, .receive (.msg "b" .control "voice.stop" 0 1)), (.right, .ackSent 0)]

/-- The only frame of the first message is lost, the second message arrives, and
then the first one is sent again. -/
def overtakenExchange : List (Side × Event String) :=
  [(.left, .send "a" none .control "voice.start"), (.left, .sendResolved "a" true),
    (.left, .send "b" none .control "voice.stop"), (.left, .sendResolved "b" true),
    (.right, .receive (.msg "b" .control "voice.stop" 0 1)), (.right, .ackSent 0),
    (.left, .fire 0),
    (.right, .receive (.msg "a" .control "voice.start" 0 2)), (.right, .ackSent 0)]

end Samples

theorem awaited_messages_keep_order :
    ∃ pair history,
      (pairMachine String).execute (connect fun _ => defaultPolicy) awaitedExchange =
        some (pair, history) ∧
      (∃ note ∈ notesOf .right history, Returns "b" note = true) ∧
      (Precedes (Returns "a") (Returns "b") (notesOf .right history) ↔
        Precedes (Starts "a") (Starts "b") (notesOf .right history)) := by
  have ran : ((pairMachine String).execute (connect fun _ => defaultPolicy) awaitedExchange).map
      (fun result => (notesOf .right result.2).any (Returns "b")) = some true := by
    decide +kernel
  obtain ⟨⟨pair, history⟩, executed, shown⟩ := Option.map_eq_some_iff.mp ran
  have returned := List.any_eq_true.mp shown
  have ordered := returned_in_order_of_arrival String (fun _ => defaultPolicy) pair history
    (Machine.execute_run awaitedExchange (by decide +kernel) executed) .right "a" "b" (by decide)
  exact ⟨pair, history, executed, returned, ordered.1 returned⟩

/-- `voice.start` was sent before `voice.stop`, and the peer returns it after. -/
theorem retried_message_is_overtaken :
    ∃ pair history,
      Machine.Run (pairMachine String) Orderly (connect fun _ => defaultPolicy) pair history ∧
      notesOf .left history =
        [.transmit (.msg "a" .control "voice.start" 0 1) .control, .resolved "a" true,
          .transmit (.msg "b" .control "voice.stop" 0 1) .control, .resolved "b" true,
          .transmit (.msg "a" .control "voice.start" 0 2) .control] ∧
      notesOf .right history =
        [.started "b" "voice.stop" 0, .transmit (.ack "b") .control,
          .finished "b" (some "voice.stop") 0,
          .started "a" "voice.start" 0, .transmit (.ack "a") .control,
          .finished "a" (some "voice.start") 0] ∧
      ¬ Precedes (Returns "a") (Returns "b") (notesOf .right history) := by
  have ran : ((pairMachine String).execute (connect fun _ => defaultPolicy) overtakenExchange).map
      (fun result => (notesOf .left result.2, notesOf .right result.2)) =
      some ([.transmit (.msg "a" .control "voice.start" 0 1) .control, .resolved "a" true,
          .transmit (.msg "b" .control "voice.stop" 0 1) .control, .resolved "b" true,
          .transmit (.msg "a" .control "voice.start" 0 2) .control],
        [.started "b" "voice.stop" 0, .transmit (.ack "b") .control,
          .finished "b" (some "voice.stop") 0,
          .started "a" "voice.start" 0, .transmit (.ack "a") .control,
          .finished "a" (some "voice.start") 0]) := by decide +kernel
  obtain ⟨⟨pair, history⟩, executed, shown⟩ := Option.map_eq_some_iff.mp ran
  obtain ⟨sent, received⟩ := Prod.mk.inj shown
  refine ⟨pair, history, Machine.execute_run overtakenExchange (by decide +kernel) executed,
    sent, received, ?_⟩
  intro ordered
  obtain ⟨prior, member, found⟩ := ordered
    [.started "b" "voice.stop" 0, .transmit (.ack "b") .control] _ _ received rfl
  simp only [List.mem_cons, List.not_mem_nil, or_false] at member
  rcases member with rfl | rfl <;> cases found

end OnlyTwo.Reliable
