import OnlyTwo.ReplayWindow
import OnlyTwo.RequestTurns

/-!
How the calls of the request channel end. Calls settle in the order in which they
were made and the rest is still in line (`Booked`); what was posted reaches the
worker in that order, under identifiers that are used once, and the worker's answers
are found again in the history (`Mailed`). So an outcome always belongs to the call
it settles.
-/

namespace OnlyTwo.Requests

open CryptoWorker (Worker Request Reply WebCrypto Entropy Answered)

section Histories

variable (history new : List Note)

@[simp] theorem calledRequests_append :
    calledRequests (history ++ new) = calledRequests history ++ calledRequests new := by
  simp [calledRequests]

@[simp] theorem posts_append : posts (history ++ new) = posts history ++ posts new := by
  simp [posts]

@[simp] theorem answers_append : answers (history ++ new) = answers history ++ answers new := by
  simp [answers]

@[simp] theorem settlements_append :
    settlements (history ++ new) = settlements history ++ settlements new := by
  simp [settlements]

variable {history} in
theorem calledRequests_later {number : Nat} {request : Request}
    (known : (calledRequests history)[number]? = some request) :
    (calledRequests (history ++ new))[number]? = some request := by
  rw [calledRequests_append]
  exact (List.getElem?_append_left (List.getElem?_eq_some_iff.mp known).1).trans known

end Histories

/-- What an outcome of a call says about the history. -/
inductive Explained (history : List Note) (number : Nat) : Outcome → Prop where
  | answered (id : Nat) (request : Request) (result : Except String Reply) :
      (id, ⟨number, request⟩) ∈ posts history → (id, ⟨request, result⟩) ∈ answers history →
      Explained history number (delivered result)
  | notReady : (∀ entry ∈ posts history, entry.2.number ≠ number) →
      Explained history number readyTimeout
  | late (id : Nat) (request : Request) : (id, ⟨number, request⟩) ∈ posts history →
      Explained history number (timedOut request)
  | crash (id : Nat) (request : Request) (message : String) :
      (id, ⟨number, request⟩) ∈ posts history → Explained history number (crashed message)

/-- An explanation stands as long as the call is not posted once it has settled. -/
theorem Explained.later {history new : List Note} {number : Nat} {outcome : Outcome}
    (explained : Explained history number outcome)
    (others : ∀ entry ∈ posts new, entry.2.number ≠ number) :
    Explained (history ++ new) number outcome := by
  cases explained with
  | answered id request result posted handled =>
      exact .answered id request result (by simp [posted]) (by simp [handled])
  | notReady unposted =>
      apply Explained.notReady
      rw [posts_append]
      exact List.forall_mem_append.mpr ⟨unposted, others⟩
  | late id request posted => exact .late id request (by simp [posted])
  | crash id request message posted => exact .crash id request message (by simp [posted])

namespace CryptoClient

variable {web : WebCrypto} {self after : CryptoClient} {event : Event}
  {history notes : List Note}

/-- The calls that have not settled yet. -/
def line (self : CryptoClient) : List Call :=
  (self.running.map Running.call).toList ++ self.chain

/-- The entry of the call that waits for its answer. -/
def posted (self : CryptoClient) : Option (Nat × Call) := self.running.bind Running.posted

section Calls

structure Booked (client : CryptoClient) (history : List Note) : Prop where
  order : (settlements history).map Prod.fst ++ client.line.map Call.number =
    List.range client.made
  calls : (calledRequests history).length = client.made
  known : ∀ call ∈ client.line, (calledRequests history)[call.number]? = some call.request

theorem create_booked : create.Booked [] := ⟨rfl, rfl, by simp [line, create]⟩

/-- Notes that neither make nor settle a call leave the books as they are. -/
theorem Booked.same (booked : self.Booked history) (line : after.line = self.line)
    (made : after.made = self.made) (called : calledRequests notes = [])
    (settled : settlements notes = []) : after.Booked (history ++ notes) := by
  refine ⟨?_, ?_, ?_⟩
  · simpa [line, made, settled] using booked.order
  · simpa [made, called] using booked.calls
  · simpa [line, called] using booked.known

theorem Booked.turn (booked : self.Booked history) (turn : Turn web self event after notes) :
    after.Booked (history ++ notes) := by
  cases turn with
  | called request running chain made =>
      have longer : after.line = self.line ++ [⟨self.made, request⟩] := by
        simp [line, running, chain]
      have calls := booked.calls
      refine ⟨?_, by simp [calledRequests, made, ← calls], ?_⟩
      · rw [longer, made, List.range_succ, ← booked.order]
        simp [settlements]
      · intro call member
        rw [longer] at member
        rcases List.mem_append.mp member with old | new
        · exact calledRequests_later _ (booked.known call old)
        · rw [List.mem_singleton.mp new, ← calls]
          simp [calledRequests]
  | begun call stage free chained held _ made =>
      exact booked.same (by simp [line, free, chained, held]) made rfl rfl
  | posted call held taken chain made =>
      exact booked.same (by simp [line, held, chain, taken]) made rfl rfl
  | worked id request entropy failure mail running chain made =>
      exact booked.same (by simp [line, running, chain]) made rfl rfl
  | settled running taken outcome held ends free chain made =>
      have shorter : self.line = running.call :: after.line := by simp [line, held, free, chain]
      refine ⟨?_, by simpa [made, calledRequests] using booked.calls, ?_⟩
      · rw [made, ← booked.order, shorter]
        simp [settlements]
      · intro call member
        have known := booked.known call (by simp [shorter, member])
        simpa [calledRequests] using known
  | quiet taken given calls posted chain made =>
      exact booked.same (by simp [line, calls, chain]) made rfl rfl

/-- A call that has settled was made before every call that has not. -/
theorem Booked.before (booked : self.Booked history) {number : Nat} {call : Call}
    (settled : number ∈ (settlements history).map Prod.fst) (waits : call ∈ self.line) :
    number < call.number := by
  have climbing := List.pairwise_lt_range (n := self.made)
  rw [← booked.order] at climbing
  exact (List.pairwise_append.mp climbing).2.2 number settled call.number
    (List.mem_map_of_mem waits)

end Calls

section Mail

structure Mailed (web : WebCrypto) (client : CryptoClient) (history : List Note) : Prop where
  drawn : (posts history).map Prod.fst = List.range client.drawn
  known : ∀ entry ∈ posts history,
    (calledRequests history)[entry.2.number]? = some entry.2.request
  climbing : ((posts history).map fun entry => entry.2.number).Pairwise (· < ·)
  current : ∀ entry, client.posted = some entry → entry ∈ posts history
  concluded : ∀ entry ∈ posts history,
    entry.2.number ∈ (settlements history).map Prod.fst ∨ client.posted = some entry
  mailbox : (answers history).map (fun entry => (entry.1, entry.2.request)) ++ client.mailbox =
    (posts history).map fun entry => (entry.1, entry.2.request)
  outbox : ∀ id result, .answer id result ∈ client.outbox →
    ∃ request, (id, ⟨request, result⟩) ∈ answers history
  worker : Machine.Run (workerMachine web) Machine.Unrestricted CryptoWorker.initial client.worker
    ((answers history).map Prod.snd)
  explained : ∀ entry ∈ settlements history, Explained history entry.1 entry.2

theorem create_mailed : create.Mailed web [] where
  drawn := rfl
  known := by simp [posts]
  climbing := .nil
  current := by simp [posted, create]
  concluded := by simp [posts]
  mailbox := rfl
  outbox := by simp [create]
  worker := .refl
  explained := by simp [settlements]

/-- An identifier is drawn for one call. -/
theorem Mailed.unique (mailed : self.Mailed web history) {id : Nat} {first second : Call}
    (one : (id, first) ∈ posts history) (other : (id, second) ∈ posts history) :
    first = second := by
  have distinct : ((posts history).map Prod.fst).Nodup := mailed.drawn ▸ List.nodup_range
  have same := List.inj_on_of_nodup_map distinct one other rfl
  exact congrArg Prod.snd same

/-- What the worker has answered was posted with that request. -/
theorem Mailed.answered (mailed : self.Mailed web history) {id : Nat} {call : Call}
    {request : Request} {result : Except String Reply} (posted : (id, call) ∈ posts history)
    (handled : (id, ⟨request, result⟩) ∈ answers history) : request = call.request := by
  have sent : (id, request) ∈ (posts history).map fun entry => (entry.1, entry.2.request) := by
    rw [← mailed.mailbox]
    exact List.mem_append_left _ (List.mem_map_of_mem handled)
  obtain ⟨⟨other, first⟩, member, same⟩ := List.mem_map.mp sent
  cases same
  rw [mailed.unique posted member]

/-- Steps that neither post, work nor settle. -/
theorem Mailed.same (mailed : self.Mailed web history) (drawn : after.drawn = self.drawn)
    (posted : after.posted = self.posted) (mailbox : after.mailbox = self.mailbox)
    (worker : after.worker = self.worker) (posted' : posts notes = [])
    (answered : answers notes = []) (settled : settlements notes = [])
    (outbox : ∀ id result, .answer id result ∈ after.outbox → .answer id result ∈ self.outbox) :
    after.Mailed web (history ++ notes) where
  drawn := by simpa [posted', drawn] using mailed.drawn
  known := by
    intro entry member
    rw [posts_append, posted', List.append_nil] at member
    exact calledRequests_later _ (mailed.known entry member)
  climbing := by simpa [posted'] using mailed.climbing
  current := by simpa [posted, posted'] using mailed.current
  concluded := by simpa [posted, posted', settled] using mailed.concluded
  mailbox := by simpa [answered, posted', mailbox] using mailed.mailbox
  outbox id result member := by
    obtain ⟨request, handled⟩ := mailed.outbox id result (outbox id result member)
    exact ⟨request, by simp [handled]⟩
  worker := by simpa [answered, worker] using mailed.worker
  explained := by
    intro entry member
    rw [settlements_append, settled, List.append_nil] at member
    exact (mailed.explained entry member).later (by simp [posted'])

theorem Mailed.post (mailed : self.Mailed web history) (booked : self.Booked history)
    {call : Call} (held : self.running = some ⟨call, .ready⟩)
    (taken : after.running = some ⟨call, .awaiting self.drawn⟩)
    (drawn : after.drawn = self.drawn + 1) (worker : after.worker = self.worker)
    (mailbox : after.mailbox = self.mailbox ++ [(self.drawn, call.request)])
    (outbox : after.outbox = self.outbox) :
    after.Mailed web (history ++ [.posted self.drawn call]) := by
  have free : self.posted = none := by simp [posted, held, Running.posted]
  have waits : after.posted = some (self.drawn, call) := by simp [posted, taken, Running.posted]
  have first : call ∈ self.line := by simp [line, held]
  have new : posts [Note.posted self.drawn call] = [(self.drawn, call)] := rfl
  constructor
  · rw [posts_append, new, List.map_append, mailed.drawn, drawn, List.range_succ]
    rfl
  · intro entry member
    rw [posts_append, new] at member
    rcases List.mem_append.mp member with old | made
    · exact calledRequests_later _ (mailed.known entry old)
    · rw [List.mem_singleton.mp made]
      exact calledRequests_later _ (booked.known call first)
  · -- Everything posted before has settled, so it was made before.
    rw [posts_append, new, List.map_append, List.pairwise_append]
    refine ⟨mailed.climbing, List.pairwise_singleton _ _, ?_⟩
    intro number member last made
    obtain ⟨entry, posted, rfl⟩ := List.mem_map.mp member
    rw [List.mem_singleton.mp made]
    rcases mailed.concluded entry posted with settled | waiting
    · exact booked.before settled first
    · rw [free] at waiting
      cases waiting
  · intro entry shown
    rw [waits] at shown
    cases shown
    simp [new]
  · intro entry member
    rw [posts_append, new] at member
    rcases List.mem_append.mp member with old | made
    · rcases mailed.concluded entry old with settled | waiting
      · exact Or.inl (by simpa [settlements] using settled)
      · rw [free] at waiting
        cases waiting
    · rw [List.mem_singleton.mp made]
      exact Or.inr waits
  · rw [mailbox, posts_append, new, List.map_append, ← mailed.mailbox]
    simp [answers]
  · intro id result member
    rw [outbox] at member
    obtain ⟨request, handled⟩ := mailed.outbox id result member
    exact ⟨request, by simp [handled]⟩
  · simpa [answers, worker] using mailed.worker
  · intro entry member
    have settled : entry ∈ settlements history := by simpa [settlements] using member
    refine (mailed.explained entry settled).later ?_
    rw [new, List.forall_mem_singleton]
    exact Nat.ne_of_gt (booked.before (List.mem_map_of_mem settled) first)

theorem Mailed.work (mailed : self.Mailed web history) {id : Nat} {request : Request}
    {entropy : Entropy} {failure : Option String}
    (mail : self.mailbox = (id, request) :: after.mailbox) (running : after.running = self.running)
    (drawn : after.drawn = self.drawn)
    (worker : after.worker =
      (Client.answerRequest web entropy failure self.worker request).1)
    (outbox : after.outbox = self.outbox ++
      [.answer id (Client.answerRequest web entropy failure self.worker request).2]) :
    after.Mailed web (history ++
      [.handled id request (Client.answerRequest web entropy failure self.worker request).2]) := by
  generalize answered :
    Client.answerRequest web entropy failure self.worker request = result at worker outbox ⊢
  have same : after.posted = self.posted := by rw [posted, running, posted]
  have new : answers [Note.handled id request result.2] = [(id, ⟨request, result.2⟩)] := rfl
  constructor
  · simpa [posts, drawn] using mailed.drawn
  · intro entry member
    rw [posts_append] at member
    exact calledRequests_later _ (mailed.known entry (by simpa [posts] using member))
  · simpa [posts] using mailed.climbing
  · simpa [posts, same] using mailed.current
  · simpa [posts, same, settlements] using mailed.concluded
  · have order := mailed.mailbox
    rw [mail] at order
    rw [answers_append, new, posts_append]
    simpa [posts] using order
  · intro other told member
    rw [outbox] at member
    rcases List.mem_append.mp member with old | made
    · obtain ⟨asked, handled⟩ := mailed.outbox other told old
      exact ⟨asked, by simp [handled]⟩
    · cases List.mem_singleton.mp made
      exact ⟨request, by simp [new]⟩
  · have served : (workerMachine web).step self.worker (request, entropy, failure) =
        some (after.worker, [⟨request, result.2⟩]) := by
      simp only [workerMachine, answered, worker]
    rw [answers_append, new, List.map_append]
    exact mailed.worker.next trivial served
  · intro entry member
    rw [settlements_append] at member
    exact (mailed.explained entry (by simpa [settlements] using member)).later (by simp [posts])

/-- What ended the head of the chain explains its outcome. -/
theorem Mailed.explains (mailed : self.Mailed web history) (booked : self.Booked history)
    {running : Running}
    {taken : List Message} {outcome : Outcome} (held : self.running = some running)
    (ends : Ends running event taken outcome) (inbox : ∀ message ∈ taken, message ∈ self.outbox) :
    Explained history running.call.number outcome := by
  have entry : ∀ id, running.stage = .awaiting id → (id, running.call) ∈ posts history := by
    intro id stage
    apply mailed.current
    obtain ⟨call, waits⟩ := running
    cases stage
    simp [posted, held, Running.posted]
  cases ends with
  | answered id result stage =>
      obtain ⟨request, handled⟩ := mailed.outbox id result (inbox _ (List.mem_singleton_self _))
      have same := mailed.answered (entry id stage) handled
      subst same
      exact .answered id running.call.request result (entry id stage) handled
  | notReady number stage =>
      refine .notReady fun posting member same => ?_
      rcases mailed.concluded posting member with settled | waits
      · have waiting : running.call ∈ self.line := by simp [line, held]
        exact Nat.ne_of_lt (booked.before settled waiting) same
      · obtain ⟨call, _⟩ := running
        cases stage
        simp [CryptoClient.posted, held, Running.posted] at waits
  | late id stage => exact .late id running.call.request (entry id stage)
  | crash id message stage => exact .crash id running.call.request message (entry id stage)

theorem Mailed.settle (mailed : self.Mailed web history) (booked : self.Booked history)
    {running : Running}
    {taken : List Message} {outcome : Outcome} (held : self.running = some running)
    (ends : Ends running event taken outcome) (free : after.running = none)
    (drawn : after.drawn = self.drawn) (worker : after.worker = self.worker)
    (mailbox : after.mailbox = self.mailbox) (outbox : self.outbox = taken ++ after.outbox) :
    after.Mailed web (history ++ [.settled running.call.number outcome]) := by
  have clear : after.posted = none := by simp [posted, free]
  have new : settlements [Note.settled running.call.number outcome] =
      [(running.call.number, outcome)] := rfl
  constructor
  · simpa [posts, drawn] using mailed.drawn
  · intro entry member
    rw [posts_append] at member
    exact calledRequests_later _ (mailed.known entry (by simpa [posts] using member))
  · simpa [posts] using mailed.climbing
  · simp [clear]
  · intro entry member
    rw [posts_append] at member
    rw [settlements_append, new, List.map_append]
    rcases mailed.concluded entry (by simpa [posts] using member) with settled | waiting
    · exact Or.inl (List.mem_append_left _ settled)
    · refine Or.inl (List.mem_append_right _ ?_)
      have same := running_of_posted waiting
      rw [held] at same
      cases same
      exact List.mem_singleton_self _
  · simpa [answers, posts, mailbox] using mailed.mailbox
  · intro id result member
    obtain ⟨request, handled⟩ := mailed.outbox id result (by simp [outbox, member])
    exact ⟨request, by simp [handled]⟩
  · simpa [answers, worker] using mailed.worker
  · intro entry member
    rw [settlements_append, new] at member
    rcases List.mem_append.mp member with old | made
    · exact (mailed.explained entry old).later (by simp [posts])
    · rw [List.mem_singleton.mp made]
      refine (mailed.explains booked held ends ?_).later (by simp [posts])
      intro message inbox
      simp [outbox, inbox]

theorem Mailed.turn (mailed : self.Mailed web history) (booked : self.Booked history)
    (turn : Turn web self event after notes) : after.Mailed web (history ++ notes) := by
  cases turn with
  | called request running chain made drawn worker mailbox outbox =>
      refine mailed.same drawn (by simp [posted, running]) mailbox worker rfl rfl rfl ?_
      intro id result member
      exact outbox ▸ member
  | begun call stage free chained held unsent made drawn worker mailbox outbox =>
      refine mailed.same drawn ?_ mailbox worker rfl rfl rfl ?_
      · cases stage with
        | awaiting id => exact absurd rfl (unsent id)
        | _ => simp [posted, free, held, Running.posted]
      · intro id result member
        exact outbox ▸ member
  | posted call held taken chain made drawn worker mailbox outbox =>
      exact mailed.post booked held taken drawn worker mailbox outbox
  | worked id request entropy failure mail running chain made drawn worker outbox =>
      exact mailed.work mail running drawn worker outbox
  | settled running taken outcome held ends free chain made drawn worker mailbox outbox =>
      exact mailed.settle booked held ends free drawn worker mailbox outbox
  | quiet taken given calls posted chain made drawn worker mailbox idle ready outbox =>
      refine mailed.same drawn posted mailbox worker rfl rfl rfl ?_
      intro id result member
      have either : Message.answer id result ∈ self.outbox ++ given := by
        rw [outbox]
        exact List.mem_append_right _ member
      rcases List.mem_append.mp either with old | started
      · exact old
      · cases ready _ started

end Mail

/-- What holds of the channel after every history. -/
structure Orderly (web : WebCrypto) (client : CryptoClient) (history : List Note) : Prop where
  serial : client.Serial
  booked : client.Booked history
  mailed : client.Mailed web history

theorem run_orderly {allowed : CryptoClient → Event → Prop}
    (run : Machine.Run (machine web) allowed create self history) :
    self.Orderly web history := by
  refine run.invariant (Orderly web) ⟨create_serial, create_booked, create_mailed⟩ ?_
  intro before past event after outputs orderly _ stepped
  obtain ⟨turn, serial⟩ := step_turn orderly.serial stepped
  exact ⟨serial, orderly.booked.turn turn, orderly.mailed.turn orderly.booked turn⟩

section Order

/-- The first call is given up before the worker is ready to answer it. -/
def sampleLate : List Event :=
  [.call .reset, .call .generateIdentity, .start, .receive, .begin, .post, .requestTimer 0,
    .begin, .work CryptoWorker.sampleEntropy none, .post, .receive,
    .work CryptoWorker.sampleEntropy none, .receive, .call .reset]

/-- The head of the chain has the timer of what it waits for. -/
def Attended (client : CryptoClient) (running : Running) : Prop :=
  match running.stage with
  | .waiting => client.readyTimers = [running.call.number] ∧
      running.call.number ∈ client.readyWaiters
  | .ready => True
  | .awaiting id => client.timers.get? id = some running.call ∧
      client.pending.get? id = some running.call

theorem Serial.attended (serial : self.Serial) {running : Running}
    (held : self.running = some running) : self.Attended running := by
  have pending := serial.pending
  have timers := serial.timers
  have readyTimers := serial.readyTimers
  have waiters := serial.waiters
  obtain ⟨call, stage⟩ := running
  simp only [held, Option.bind_some] at pending timers readyTimers waiters
  cases stage with
  | waiting => exact ⟨by simpa [Running.waits] using readyTimers, waiters call.number rfl⟩
  | ready => trivial
  | awaiting id =>
      constructor
      · rw [InsertionMap.get?_eq_some_iff, timers]
        exact List.mem_singleton_self _
      · rw [InsertionMap.get?_eq_some_iff, pending]
        exact List.mem_singleton_self _

/-- Every call settles exactly once, in the order in which the calls were made. What
has not settled is in line behind it in that order; while the head of the line waits
for the worker it has its timer armed, and no other call is pending. -/
theorem calls_settle_in_order
    (run : Machine.Run (machine web) Machine.Unrestricted create self history) :
    (settlements history).map Prod.fst ++ self.line.map Call.number = List.range self.made ∧
      (calledRequests history).length = self.made ∧ self.pending.size ≤ 1 ∧
      ∀ running, self.running = some running → self.Attended running := by
  have orderly := run_orderly run
  refine ⟨orderly.booked.order, orderly.booked.calls, ?_, fun _ => orderly.serial.attended⟩
  rw [InsertionMap.size, orderly.serial.pending]
  cases self.running.bind Running.posted <;> simp

/-- The answer to the first call comes after the second call was posted. -/
theorem late_answer_settles_nothing : ∃ (client : CryptoClient) (history : List Note),
    (settlements history).map Prod.fst = [0, 1] ∧ client.made = 3 ∧
      (settlements history).map Prod.fst ++ client.line.map Call.number =
        List.range client.made := by
  have ran : ((machine CryptoWorker.sampleCrypto).execute create sampleLate).map (fun result =>
      ((settlements result.2).map Prod.fst, result.1.made)) = some ([0, 1], 3) := by
    decide +kernel
  obtain ⟨⟨client, history⟩, executed, reached⟩ := Option.map_eq_some_iff.mp ran
  obtain ⟨settled, made⟩ := Prod.mk.inj reached
  have run := Machine.execute_run _ (Machine.along_unrestricted _ _) executed
  exact ⟨client, history, settled, made, (calls_settle_in_order run).1⟩

/-- An outcome belongs to the call it settles: an answer is the worker's to the
request of that very call, a call that timed out or went down in a crash had been
posted, and one that was not ready in time had not. The worker serves what was posted, once and in the order of the calls. -/
theorem answers_belong_to_calls
    (run : Machine.Run (machine web) Machine.Unrestricted create self history) :
    (∀ entry ∈ settlements history, Explained history entry.1 entry.2) ∧
      ((answers history).map fun entry => (entry.1, entry.2.request)) <+:
        (posts history).map (fun entry => (entry.1, entry.2.request)) ∧
      ((posts history).map fun entry => entry.2.number).Pairwise (· < ·) ∧
      ∀ entry ∈ posts history, (calledRequests history)[entry.2.number]? = some entry.2.request := by
  have mailed := (run_orderly run).mailed
  exact ⟨mailed.explained, ⟨_, mailed.mailbox⟩, mailed.climbing, mailed.known⟩

theorem late_answer_belongs : ∃ history : List Note,
    (0, timedOut .reset) ∈ settlements history ∧
      ∀ entry ∈ settlements history, Explained history entry.1 entry.2 := by
  have ran : ((machine CryptoWorker.sampleCrypto).execute create sampleLate).map (fun result =>
      (settlements result.2).head?) = some (some (0, timedOut .reset)) := by
    decide +kernel
  obtain ⟨⟨client, history⟩, executed, reached⟩ := Option.map_eq_some_iff.mp ran
  have run := Machine.execute_run _ (Machine.along_unrestricted _ _) executed
  exact ⟨history, List.mem_of_head? reached, (answers_belong_to_calls run).1⟩

end Order

end CryptoClient

end OnlyTwo.Requests
