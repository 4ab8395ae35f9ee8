import OnlyTwo.CryptoClient

/-!
What one step of the request channel does. The call at the head of the chain is the
only one with an entry in `pending` or an armed timer (`Serial`), so a step makes a
call, moves the head on, settles it, lets the worker answer, or changes nothing that
counts (`Turn`).
-/

namespace OnlyTwo.Requests

open CryptoWorker (Worker Request Reply WebCrypto Entropy Answered)

variable {web : WebCrypto}

/-- The identifier a call was posted under, while it waits for its answer. -/
def Running.posted : Running → Option (Nat × Call)
  | ⟨call, .awaiting id⟩ => some (id, call)
  | _ => none

def Running.waits : Running → Option Nat
  | ⟨call, .waiting⟩ => some call.number
  | _ => none

namespace CryptoClient

variable {self after : CryptoClient} {notes : List Note}

/-- The call at the head of the chain holds every timer there is, and is the only
one the worker owes an answer that counts. -/
structure Serial (client : CryptoClient) : Prop where
  pending : client.pending.entries = (client.running.bind Running.posted).toList
  timers : client.timers.entries = (client.running.bind Running.posted).toList
  readyTimers : client.readyTimers = (client.running.bind Running.waits).toList
  waiters : ∀ number, client.running.bind Running.waits = some number → number ∈ client.readyWaiters

/-- Why the call at the head of the chain settles, with the message that was taken. -/
inductive Ends (running : Running) : Event → List Message → Outcome → Prop where
  | answered (id : Nat) (result : Except String Reply) : running.stage = .awaiting id →
      Ends running .receive [.answer id result] (delivered result)
  | notReady (number : Nat) : running.stage = .waiting →
      Ends running (.readyTimer number) [] readyTimeout
  | late (id : Nat) : running.stage = .awaiting id →
      Ends running (.requestTimer id) [] (timedOut running.call.request)
  | crash (id : Nat) (message : String) : running.stage = .awaiting id →
      Ends running (.crash message) [] (crashed message)

/-- A message that settles nothing. -/
def Idle (self : CryptoClient) : Message → Prop
  | .ready => True
  | .answer id _ => ∀ call, self.running.bind Running.posted ≠ some (id, call)

/-- What a step does. -/
inductive Turn (web : WebCrypto) (self : CryptoClient) (event : Event) :
    CryptoClient → List Note → Prop where
  | called {after : CryptoClient} (request : Request) : after.running = self.running →
      after.chain = self.chain ++ [⟨self.made, request⟩] → after.made = self.made + 1 →
      after.drawn = self.drawn → after.worker = self.worker → after.mailbox = self.mailbox →
      after.outbox = self.outbox → Turn web self event after [.called ⟨self.made, request⟩]
  | begun {after : CryptoClient} (call : Call) (stage : Stage) : self.running = none →
      self.chain = call :: after.chain → after.running = some ⟨call, stage⟩ →
      (∀ id, stage ≠ .awaiting id) → after.made = self.made →
      after.drawn = self.drawn → after.worker = self.worker → after.mailbox = self.mailbox →
      after.outbox = self.outbox → Turn web self event after []
  | posted {after : CryptoClient} (call : Call) : self.running = some ⟨call, .ready⟩ →
      after.running = some ⟨call, .awaiting self.drawn⟩ → after.chain = self.chain →
      after.made = self.made → after.drawn = self.drawn + 1 → after.worker = self.worker →
      after.mailbox = self.mailbox ++ [(self.drawn, call.request)] → after.outbox = self.outbox →
      Turn web self event after [.posted self.drawn call]
  | worked {after : CryptoClient} (id : Nat) (request : Request) (entropy : Entropy)
      (failure : Option String) : self.mailbox = (id, request) :: after.mailbox →
      after.running = self.running → after.chain = self.chain → after.made = self.made →
      after.drawn = self.drawn →
      after.worker = (Client.answerRequest web entropy failure self.worker request).1 →
      after.outbox = self.outbox ++
        [.answer id (Client.answerRequest web entropy failure self.worker request).2] →
      Turn web self event after
        [.handled id request (Client.answerRequest web entropy failure self.worker request).2]
  | settled {after : CryptoClient} (running : Running) (taken : List Message) (outcome : Outcome) :
      self.running = some running → Ends running event taken outcome →
      after.running = none → after.chain = self.chain → after.made = self.made →
      after.drawn = self.drawn → after.worker = self.worker → after.mailbox = self.mailbox →
      self.outbox = taken ++ after.outbox →
      Turn web self event after [.settled running.call.number outcome]
  | quiet {after : CryptoClient} (taken given : List Message) :
      after.running.map Running.call = self.running.map Running.call →
      after.running.bind Running.posted = self.running.bind Running.posted →
      after.chain = self.chain → after.made = self.made →
      after.drawn = self.drawn → after.worker = self.worker → after.mailbox = self.mailbox →
      (∀ message ∈ taken, self.Idle message) → (∀ message ∈ given, message = .ready) →
      self.outbox ++ given = taken ++ after.outbox → Turn web self event after []

theorem create_serial : create.Serial :=
  ⟨rfl, rfl, rfl, by simp [create]⟩

/-- While a call waits for its answer, its entry is the only one. -/
theorem running_of_posted {id : Nat} {call : Call}
    (posted : self.running.bind Running.posted = some (id, call)) :
    self.running = some ⟨call, .awaiting id⟩ := by
  obtain ⟨running, held, shown⟩ := Option.bind_eq_some_iff.mp posted
  obtain ⟨held_call, stage⟩ := running
  cases stage <;> simp_all [Running.posted]

theorem running_of_waits {number : Nat}
    (waits : self.running.bind Running.waits = some number) :
    ∃ call, self.running = some ⟨call, .waiting⟩ ∧ call.number = number := by
  obtain ⟨running, held, shown⟩ := Option.bind_eq_some_iff.mp waits
  obtain ⟨call, stage⟩ := running
  cases stage <;> simp_all [Running.waits]

theorem mem_entries_of_get? {map : InsertionMap Nat Call} {id : Nat} {call : Call}
    {held : Option (Nat × Call)} (entries : map.entries = held.toList)
    (found : map.get? id = some call) : held = some (id, call) := by
  have member := (map.get?_eq_some_iff id call).mp found
  rw [entries, Option.mem_toList] at member
  exact member

theorem delete_entries {map : InsertionMap Nat Call} {id : Nat} {call : Call}
    (entries : map.entries = [(id, call)]) : (map.delete id).entries = [] := by
  simp [InsertionMap.delete, entries]

theorem set_entries {map : InsertionMap Nat Call} {id : Nat} {call : Call}
    (entries : map.entries = []) : (map.set id call).entries = [(id, call)] := by
  simp [InsertionMap.set, entries, InsertionMap.setEntries]

/-- The head of the chain is over and leaves nothing behind. -/
theorem Serial.ended (clear : after.pending.entries = []) (timers : after.timers.entries = [])
    (readyTimers : after.readyTimers = []) (free : after.running = none) : after.Serial :=
  ⟨by simp [clear, free], by simp [timers, free], by simp [readyTimers, free], by simp [free]⟩

theorem settle_running (self : CryptoClient) {running : Running}
    (held : self.running = some running) :
    (self.settle running.call.number).running = none := by
  simp [settle, held]

theorem begin_turn (serial : self.Serial) {call : Call} {rest : List Call}
    (free : self.running = none) (chained : self.chain = call :: rest) :
    Turn web self .begin (self.begin call rest) [] ∧ (self.begin call rest).Serial := by
  have pending := serial.pending
  have timers := serial.timers
  have readyTimers := serial.readyTimers
  simp only [free, Option.bind_none, Option.toList_none] at pending timers readyTimers
  unfold begin
  split
  · exact ⟨.begun call .ready free chained rfl (by simp) rfl rfl rfl rfl rfl,
      ⟨pending, timers, readyTimers, by simp [Running.waits]⟩⟩
  · refine ⟨.begun call .waiting free chained rfl (by simp) rfl rfl rfl rfl rfl,
      ⟨pending, timers, ?_, ?_⟩⟩
    · simp [readyTimers, Running.waits]
    · simp [Running.waits]

theorem rawRequest_turn (serial : self.Serial) {call : Call}
    (held : self.running = some ⟨call, .ready⟩) :
    Turn web self .post (self.rawRequest call).1 (self.rawRequest call).2 ∧
      (self.rawRequest call).1.Serial := by
  have pending := serial.pending
  have timers := serial.timers
  have readyTimers := serial.readyTimers
  simp only [held, Option.bind_some, Running.posted, Running.waits, Option.toList_none] 
    at pending timers readyTimers
  refine ⟨.posted call held rfl rfl rfl rfl rfl rfl rfl, ⟨?_, ?_, readyTimers, ?_⟩⟩
  · exact set_entries pending
  · exact set_entries timers
  · simp [rawRequest, Running.waits]

theorem onReady_turn (serial : self.Serial) {rest : List Message}
    (taken : self.outbox = .ready :: rest) :
    Turn web self .receive { self with outbox := rest }.onReady [] ∧
      ({ self with outbox := rest } : CryptoClient).onReady.Serial := by
  have waiters := serial.waiters
  have readyTimers := serial.readyTimers
  cases held : self.running with
  | none =>
      simp only [held, Option.bind_none, Option.toList_none] at readyTimers
      refine ⟨.quiet [.ready] [] ?_ ?_ rfl rfl rfl rfl rfl ?_ ?_ ?_, ⟨?_, ?_, ?_, ?_⟩⟩
      all_goals simp [onReady, held, taken, Idle, readyTimers, serial.pending, serial.timers]
  | some running =>
      obtain ⟨call, stage⟩ := running
      simp only [held, Option.bind_some] at waiters readyTimers
      cases stage with
      | waiting =>
          have known := waiters call.number rfl
          simp only [Running.waits, Option.toList_some] at readyTimers
          refine ⟨.quiet [.ready] [] ?_ ?_ rfl rfl rfl rfl rfl ?_ ?_ ?_, ⟨?_, ?_, ?_, ?_⟩⟩
          all_goals simp [onReady, held, taken, Idle, readyTimers, known, serial.pending,
            serial.timers, Running.posted, Running.waits]
      | _ =>
          simp only [Running.waits, Option.toList_none] at readyTimers
          refine ⟨.quiet [.ready] [] ?_ ?_ rfl rfl rfl rfl rfl ?_ ?_ ?_, ⟨?_, ?_, ?_, ?_⟩⟩
          all_goals simp [onReady, held, taken, Idle, readyTimers, serial.pending, serial.timers,
            Running.posted, Running.waits]

theorem onAnswer_turn (serial : self.Serial) {id : Nat} {result : Except String Reply}
    {rest : List Message} (taken : self.outbox = .answer id result :: rest) :
    Turn web self .receive ({ self with outbox := rest }.onAnswer id result).1
        ({ self with outbox := rest }.onAnswer id result).2 ∧
      ({ self with outbox := rest }.onAnswer id result).1.Serial := by
  cases found : self.pending.get? id with
  | none =>
      have idle : ∀ call, self.running.bind Running.posted ≠ some (id, call) := by
        intro call posted
        have member : (id, call) ∈ self.pending.entries := by
          rw [serial.pending, posted]
          exact List.mem_singleton_self _
        rw [(self.pending.get?_eq_some_iff id call).mpr member] at found
        cases found
      simp only [onAnswer, found]
      exact ⟨.quiet [.answer id result] [] rfl rfl rfl rfl rfl rfl rfl (by simpa [Idle] using idle)
        (by simp) (by simp [taken]), ⟨serial.pending, serial.timers, serial.readyTimers,
          serial.waiters⟩⟩
  | some call =>
      have posted := mem_entries_of_get? serial.pending found
      have held := running_of_posted posted
      have pending := serial.pending
      have timers := serial.timers
      have readyTimers := serial.readyTimers
      simp only [held, Option.bind_some, Running.posted, Running.waits, Option.toList_some,
        Option.toList_none] at pending timers readyTimers
      simp only [onAnswer, found]
      have free := settle_running { self with
        outbox := rest
        timers := self.timers.delete id
        pending := self.pending.delete id } held
      exact ⟨.settled ⟨call, .awaiting id⟩ [.answer id result] _ held (.answered id result rfl)
        free rfl rfl rfl rfl rfl (by simp [taken, settle]),
        .ended (delete_entries pending) (delete_entries timers) readyTimers free⟩

theorem onReadyTimer_turn (serial : self.Serial) {number : Nat}
    (armed : number ∈ self.readyTimers) :
    Turn web self (.readyTimer number) (self.onReadyTimer number).1 (self.onReadyTimer number).2 ∧
      (self.onReadyTimer number).1.Serial := by
  rw [serial.readyTimers, Option.mem_toList] at armed
  obtain ⟨call, held, rfl⟩ := running_of_waits armed
  have pending := serial.pending
  have timers := serial.timers
  have readyTimers := serial.readyTimers
  simp only [held, Option.bind_some, Running.posted, Running.waits, Option.toList_some,
    Option.toList_none] at pending timers readyTimers
  have free := settle_running { self with
    readyTimers := self.readyTimers.erase call.number } held
  have erased : self.readyTimers.erase call.number = [] := by simp [readyTimers]
  exact ⟨.settled ⟨call, .waiting⟩ [] _ held (.notReady _ rfl) free rfl rfl rfl rfl rfl rfl,
    .ended pending timers erased free⟩

theorem onRequestTimer_turn (serial : self.Serial) {id : Nat} {call : Call}
    (armed : self.timers.get? id = some call) :
    Turn web self (.requestTimer id) (self.onRequestTimer id call).1
        (self.onRequestTimer id call).2 ∧
      (self.onRequestTimer id call).1.Serial := by
  have held := running_of_posted (mem_entries_of_get? serial.timers armed)
  have pending := serial.pending
  have timers := serial.timers
  have readyTimers := serial.readyTimers
  simp only [held, Option.bind_some, Running.posted, Running.waits, Option.toList_some,
    Option.toList_none] at pending timers readyTimers
  have free := settle_running { self with
    timers := self.timers.delete id
    pending := self.pending.delete id } held
  exact ⟨.settled ⟨call, .awaiting id⟩ [] _ held (.late id rfl) free rfl rfl rfl rfl rfl rfl,
    .ended (delete_entries pending) (delete_entries timers) readyTimers free⟩

theorem onerror_turn (serial : self.Serial) (message : String) :
    Turn web self (.crash message) (self.onerror message).1 (self.onerror message).2 ∧
      (self.onerror message).1.Serial := by
  have pending := serial.pending
  have timers := serial.timers
  have readyTimers := serial.readyTimers
  cases posted : self.running.bind Running.posted with
  | none =>
      rw [posted, Option.toList_none] at pending timers
      simp only [onerror, pending, rejectAll]
      exact ⟨.quiet [] [] rfl rfl rfl rfl rfl rfl rfl (by simp) (by simp) (by simp),
        ⟨by simp [posted, InsertionMap.empty], by simp [posted, timers], readyTimers,
          serial.waiters⟩⟩
  | some entry =>
      obtain ⟨id, call⟩ := entry
      have held := running_of_posted posted
      rw [posted, Option.toList_some] at pending timers
      simp only [held, Option.bind_some, Running.waits, Option.toList_none] at readyTimers
      simp only [onerror, pending, rejectAll]
      have free := settle_running { self with timers := self.timers.delete id } held
      exact ⟨.settled ⟨call, .awaiting id⟩ [] _ held (.crash id message rfl) free rfl rfl rfl rfl
        rfl rfl, .ended rfl (delete_entries timers) readyTimers free⟩

theorem step_turn (serial : self.Serial) {event : Event}
    (stepped : self.step web event = some (after, notes)) :
    Turn web self event after notes ∧ after.Serial := by
  cases event with
  | call request =>
      cases stepped
      exact ⟨.called request rfl rfl rfl rfl rfl rfl rfl,
        ⟨serial.pending, serial.timers, serial.readyTimers, serial.waiters⟩⟩
  | begin =>
      simp only [step] at stepped
      split at stepped
      · rename_i call rest free chained
        cases stepped
        exact begin_turn serial free chained
      · cases stepped
  | post =>
      simp only [step] at stepped
      split at stepped
      · rename_i call held
        cases stepped
        exact rawRequest_turn serial held
      · cases stepped
  | start =>
      simp only [step] at stepped
      split at stepped
      · cases stepped
      · cases stepped
        exact ⟨.quiet [] [.ready] rfl rfl rfl rfl rfl rfl rfl (by simp) (by simp) rfl,
          ⟨serial.pending, serial.timers, serial.readyTimers, serial.waiters⟩⟩
  | work entropy failure =>
      simp only [step] at stepped
      split at stepped
      · rename_i id request rest _ mail
        cases stepped
        exact ⟨.worked id request entropy failure mail rfl rfl rfl rfl rfl rfl,
          ⟨serial.pending, serial.timers, serial.readyTimers, serial.waiters⟩⟩
      · cases stepped
  | receive =>
      simp only [step] at stepped
      split at stepped
      · cases stepped
      · rename_i rest taken
        cases stepped
        exact onReady_turn serial taken
      · rename_i id result rest taken
        have turned : Turn web self .receive _ _ ∧ _ := onAnswer_turn serial taken
        rw [Option.some.inj stepped] at turned
        exact turned
  | readyTimer number =>
      simp only [step] at stepped
      split at stepped
      · rename_i armed
        cases stepped
        exact onReadyTimer_turn serial armed
      · cases stepped
  | requestTimer id =>
      obtain ⟨call, armed, taken⟩ := Option.map_eq_some_iff.mp stepped
      cases taken
      exact onRequestTimer_turn serial armed
  | crash message =>
      cases stepped
      exact onerror_turn serial message

end CryptoClient

end OnlyTwo.Requests
