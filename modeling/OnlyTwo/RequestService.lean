import OnlyTwo.RequestOutcomes

/-!
The request channel while no timer fires and the worker does not crash. The answer
that the call at the head of the chain waits for is the only one owed, and nothing
but answers settles calls (`Prompt`), so the calls see exactly a worker that serves
them one after another. This is what the model of a whole client takes for granted.
-/

namespace OnlyTwo.Requests

open CryptoWorker (Worker Request Reply WebCrypto Entropy Answered)

namespace CryptoClient

variable {web : WebCrypto} {self after : CryptoClient} {event : Event}
  {history notes : List Note}

/-- No timer fires and the worker does not crash. -/
def Timely (_ : CryptoClient) : Event → Prop
  | .readyTimer _ => False
  | .requestTimer _ => False
  | .crash _ => False
  | _ => True

/-- The answers on their way to the client. -/
def replies (outbox : List Message) : List (Nat × Except String Reply) :=
  outbox.filterMap fun
    | .ready => none
    | .answer id result => some (id, result)

structure Prompt (client : CryptoClient) (history : List Note) : Prop where
  owed : (replies client.outbox).map Prod.fst ++ client.mailbox.map Prod.fst =
    (client.posted.map Prod.fst).toList
  told : (settlements history).map Prod.snd ++
      (replies client.outbox).map (fun entry => delivered entry.2) =
    (answers history).map fun entry => delivered entry.2.reply
  served : (posts history).map (fun entry => entry.2.number) =
    (settlements history).map Prod.fst ++ (client.posted.map fun entry => entry.2.number).toList

theorem create_prompt : create.Prompt [] := ⟨rfl, rfl, rfl⟩

theorem Prompt.same (prompt : self.Prompt history) (posted : after.posted = self.posted)
    (mailbox : after.mailbox = self.mailbox) (outbox : replies after.outbox = replies self.outbox)
    (posted' : posts notes = []) (answered : answers notes = []) (settled : settlements notes = []) :
    after.Prompt (history ++ notes) :=
  ⟨by simpa [posted, mailbox, outbox] using prompt.owed,
    by simpa [outbox, answered, settled] using prompt.told,
    by simpa [posted, posted', settled] using prompt.served⟩

/-- An answer that nobody waits for is never on its way. -/
theorem Prompt.idle (prompt : self.Prompt history) {message : Message}
    (sent : message ∈ self.outbox) (idle : self.Idle message) : message = .ready := by
  cases message with
  | ready => rfl
  | answer id result =>
      have owed : id ∈ (self.posted.map Prod.fst).toList := by
        rw [← prompt.owed]
        refine List.mem_append_left _ (List.mem_map.mpr ⟨(id, result), ?_, rfl⟩)
        exact List.mem_filterMap.mpr ⟨_, sent, rfl⟩
      obtain ⟨⟨other, call⟩, waits, rfl⟩ := Option.map_eq_some_iff.mp (Option.mem_toList.mp owed)
      exact absurd waits (idle call)

theorem replies_ready {messages : List Message} (ready : ∀ message ∈ messages, message = .ready) :
    replies messages = [] := by
  apply List.filterMap_eq_nil_iff.mpr
  intro message member
  rw [ready message member]

theorem Prompt.turn (prompt : self.Prompt history) (timely : Timely self event)
    (turn : Turn web self event after notes) : after.Prompt (history ++ notes) := by
  cases turn with
  | called request running chain made drawn worker mailbox outbox =>
      exact prompt.same (by simp [posted, running]) mailbox (by rw [outbox]) rfl rfl rfl
  | begun call stage free chained held unsent made drawn worker mailbox outbox =>
      refine prompt.same ?_ mailbox (by rw [outbox]) rfl rfl rfl
      cases stage with
      | awaiting id => exact absurd rfl (unsent id)
      | _ => simp [posted, free, held, Running.posted]
  | posted call held taken chain made drawn worker mailbox outbox =>
      have free : self.posted = none := by simp [posted, held, Running.posted]
      have waits : after.posted = some (self.drawn, call) := by
        simp [posted, taken, Running.posted]
      have owed := prompt.owed
      have told := prompt.told
      have served := prompt.served
      simp only [free, Option.map_none, Option.toList_none, List.append_eq_nil_iff,
        List.map_eq_nil_iff, List.append_nil] at owed served
      refine ⟨?_, ?_, ?_⟩
      · simp [outbox, owed, mailbox, waits]
      · simpa [outbox, answers, settlements] using told
      · rw [posts_append, List.map_append, served, waits]
        simp [posts, settlements]
  | worked id request entropy failure mail running chain made drawn worker outbox =>
      have same : after.posted = self.posted := by rw [posted, running, posted]
      have owed := prompt.owed
      rw [mail, List.map_cons] at owed
      have answered : replies after.outbox = replies self.outbox ++
          [(id, (Client.answerRequest web entropy failure self.worker request).2)] := by
        rw [outbox, replies, List.filterMap_append]
        rfl
      refine ⟨?_, ?_, ?_⟩
      · rw [answered, same, ← owed, List.map_append, List.append_assoc]
        rfl
      · have told := congrArg (· ++ [delivered
          (Client.answerRequest web entropy failure self.worker request).2]) prompt.told
        simpa [answered, settlements, answers] using told
      · simpa [posts, settlements, same] using prompt.served
  | settled running taken outcome held ends free chain made drawn worker mailbox outbox =>
      have clear : after.posted = none := by simp [posted, free]
      cases ends with
      | answered id result stage =>
          obtain ⟨call, waits⟩ := running
          cases stage
          have shown : self.posted = some (id, call) := by simp [posted, held, Running.posted]
          have taken : replies self.outbox = (id, result) :: replies after.outbox := by
            rw [outbox]
            rfl
          have owed := prompt.owed
          rw [taken, shown, List.map_cons, List.cons_append] at owed
          have rest := List.append_eq_nil_iff.mp (List.cons.inj owed).2
          refine ⟨?_, ?_, ?_⟩
          · rw [rest.1, mailbox, rest.2, clear]
            rfl
          · rw [settlements_append, answers_append, List.map_append, List.map_append,
              ← prompt.told, taken]
            simp [settlements, answers]
          · rw [posts_append, List.map_append, prompt.served, shown, clear]
            simp [posts, settlements]
      | notReady => exact timely.elim
      | late => exact timely.elim
      | crash => exact timely.elim
  | quiet taken given calls posted chain made drawn worker mailbox idle ready outbox =>
      have sent : ∀ message ∈ taken, message = .ready := by
        intro message member
        have either : message ∈ self.outbox ++ given := by
          rw [outbox]
          exact List.mem_append_left _ member
        rcases List.mem_append.mp either with old | started
        · exact prompt.idle old (idle message member)
        · exact ready message started
      have same : replies after.outbox = replies self.outbox := by
        have both := congrArg replies outbox
        simp only [replies, List.filterMap_append] at both
        have none_taken := replies_ready sent
        have none_given := replies_ready ready
        simp only [replies] at none_taken none_given
        rw [none_taken, none_given, List.nil_append, List.append_nil] at both
        exact both.symm
      exact prompt.same posted mailbox same rfl rfl rfl

/-- A sequence of numbers that starts a range counts from zero. -/
theorem numbers_of_prefix {numbers rest : List Nat} {count : Nat}
    (counted : numbers ++ rest = List.range count) : numbers = List.range numbers.length := by
  have start := congrArg (List.take numbers.length) counted
  rw [List.take_left, List.take_range] at start
  have short : numbers.length ≤ count := by
    have lengths := congrArg List.length counted
    rw [List.length_append, List.length_range] at lengths
    omega
  rwa [Nat.min_eq_left short] at start

/-- Entries numbered from zero by the calls they belong to start the list of calls. -/
theorem prefix_of_numbers {entries : List (Nat × Call)} {requests : List Request}
    (numbers : entries.map (fun entry => entry.2.number) = List.range entries.length)
    (known : ∀ entry ∈ entries, requests[entry.2.number]? = some entry.2.request) :
    entries.map (fun entry => entry.2.request) <+: requests := by
  rw [List.prefix_iff_getElem?]
  intro index inside
  rw [List.length_map] at inside
  have number : entries[index].2.number = index := by
    have read := congrArg (fun list => list[index]?) numbers
    simpa [inside] using read
  have found := known entries[index] (List.getElem_mem inside)
  rw [number] at found
  rw [found, List.getElem_map]

/-- If no timer fires and the worker does not crash, the calls see a worker that
serves them one after another: the first calls have settled, in their order, with
what such a worker answers, and it is ahead of them by one answer at most. -/
theorem calls_see_serial_worker (run : Machine.Run (machine web) Timely create self history) :
    ∃ answered : List Answered,
      Machine.Run (workerMachine web) Machine.Unrestricted CryptoWorker.initial self.worker
        answered ∧
      answered.map Answered.request <+: calledRequests history ∧
      (settlements history).map Prod.fst = List.range (settlements history).length ∧
      (settlements history).map Prod.snd <+: answered.map (fun entry => delivered entry.reply) ∧
      answered.length ≤ (settlements history).length + 1 := by
  have both : self.Orderly web history ∧ self.Prompt history := by
    refine run.invariant (fun client past => client.Orderly web past ∧ client.Prompt past)
      ⟨⟨create_serial, create_booked, create_mailed⟩, create_prompt⟩ ?_
    intro before past event after outputs holds timely stepped
    obtain ⟨orderly, prompt⟩ := holds
    obtain ⟨turn, serial⟩ := step_turn orderly.serial stepped
    exact ⟨⟨serial, orderly.booked.turn turn, orderly.mailed.turn orderly.booked turn⟩,
      prompt.turn timely turn⟩
  obtain ⟨orderly, prompt⟩ := both
  have numbers := numbers_of_prefix orderly.booked.order
  rw [List.length_map] at numbers
  refine ⟨(answers history).map Prod.snd, orderly.mailed.worker, ?_, numbers, ?_, ?_⟩
  · -- What was posted are the settled calls and the one in front.
    have posted : ∃ rest, (posts history).map (fun entry => entry.2.number) ++ rest =
        List.range self.made := by
      rw [prompt.served, ← orderly.booked.order]
      cases waits : self.posted with
      | none => exact ⟨self.line.map Call.number, by simp⟩
      | some entry =>
          have held := running_of_posted waits
          exact ⟨self.chain.map Call.number, by simp [line, held]⟩
    obtain ⟨rest, counted⟩ := posted
    have order := numbers_of_prefix counted
    rw [List.length_map] at order
    refine List.IsPrefix.trans ?_ (prefix_of_numbers order orderly.mailed.known)
    have handed := congrArg (List.map Prod.snd) orderly.mailed.mailbox
    rw [List.map_append, List.map_map, List.map_map] at handed
    rw [List.map_map]
    exact ⟨_, handed⟩
  · rw [List.map_map]
    exact ⟨_, prompt.told⟩
  · have told := congrArg List.length prompt.told
    have owed := congrArg List.length prompt.owed
    have single : (self.posted.map Prod.fst).toList.length ≤ 1 := by
      cases self.posted <;> simp
    simp only [List.length_append, List.length_map] at told owed ⊢
    omega

def sampleServed : List Event :=
  [.call .generateIdentity, .call .reset, .begin, .start, .receive, .post,
    .work CryptoWorker.sampleEntropy none, .receive, .begin, .post]

theorem sample_serial_worker : ∃ (client : CryptoClient) (history : List Note)
    (answered : List Answered),
    Machine.Run (workerMachine CryptoWorker.sampleCrypto) Machine.Unrestricted
      CryptoWorker.initial client.worker answered ∧
      (settlements history).length = 1 ∧
      (settlements history).map Prod.snd <+: answered.map (fun entry => delivered entry.reply) := by
  have ran : ((machine CryptoWorker.sampleCrypto).execute create sampleServed).map (fun result =>
      (settlements result.2).length) = some 1 := by
    decide +kernel
  obtain ⟨⟨client, history⟩, executed, settled⟩ := Option.map_eq_some_iff.mp ran
  have along : (machine CryptoWorker.sampleCrypto).Along Timely create sampleServed :=
    Machine.along_of_forall _ _ (by simp [sampleServed, Timely])
  obtain ⟨answered, served, _, _, told, _⟩ :=
    calls_see_serial_worker (Machine.execute_run _ along executed)
  exact ⟨client, history, answered, served, settled, told⟩

end CryptoClient

end OnlyTwo.Requests
