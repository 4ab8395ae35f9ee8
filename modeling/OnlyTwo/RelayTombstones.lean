import OnlyTwo.RelayInvariant
import OnlyTwo.RelayThreads

/-!
Tombstones. `EndSession` leaves its code in `ended` for the time to live of a
room. A creation compares the tombstone with a clock reading it made before it
waited for the lock, and a sweep removes the tombstones that were over at its
own reading; both readings are at most the present time, so while the time is
not over the tombstone stays and the code is not live.
-/

namespace OnlyTwo.Relay

namespace Store

section Sections
variable {store after : Store} {past notes : List Note} {maxSessionsPerIp : Int}
  {reading : Option Time} {code : String} {session : Nat} {moment : Time}

theorem concludeCreate_tombstoned {request : CreateRequest} {expiresAt : Time}
    (ended : store.ended.get? request.code = some expiresAt) (early : request.now < expiresAt) :
    store.concludeCreate request maxSessionsPerIp = (store, .error .sessionExists) := by
  simp [concludeCreate, ended, early]

theorem section_clock (performed : Section maxSessionsPerIp reading store notes after) :
    store.clock ≤ after.clock ∧ after.ttl = store.ttl := by
  cases performed with
  | tick elapsed => exact ⟨by simp, rfl⟩
  | created request after ref _ concluded =>
      obtain ⟨ended, _, ⟨_, _, rfl⟩ | ⟨_, _, _, _, rfl⟩⟩ := concludeCreate_cases concluded
      · exact ⟨Int.le_refl _, rfl⟩
      · exact ⟨Int.le_refl _, rfl⟩
  | refused request after error _ _ _ concluded =>
      obtain ⟨ended, _, ⟨_, _, rfl⟩ | ⟨_, _, _, _, rfl⟩⟩ := concludeCreate_cases concluded
      · exact ⟨Int.le_refl _, rfl⟩
      · exact ⟨Int.le_refl _, rfl⟩
  | ended code ref after ended =>
      obtain ⟨_, rfl⟩ := endSession_some ended
      exact ⟨Int.le_refl _, rfl⟩
  | _ => exact ⟨Int.le_refl _, rfl⟩

theorem section_tombstoned (performed : Section maxSessionsPerIp reading store notes after)
    (noted : .tombstoned code session moment ∈ notes) :
    notes = [.tombstoned code session moment] ∧ moment = store.clock ∧
      store.endSession code session = some after := by
  cases performed with
  | idle _ silent =>
      have loud := List.all_eq_true.mp silent _ noted
      cases loud
  | refused _ _ _ _ _ silent _ =>
      have loud := List.all_eq_true.mp silent _ noted
      cases loud
  | ended code ref after ended =>
      cases List.mem_singleton.mp noted
      exact ⟨rfl, rfl, ended⟩
  | _ => simp at noted

/-- The code has a tombstone until `expiresAt` and is not live. -/
def Buried (store : Store) (code : String) (expiresAt : Time) : Prop :=
  store.ended.get? code = some expiresAt ∧ store.sessions.get? code = none

theorem Buried.ended_other {expiresAt : Time} {other : String}
    {ended : InsertionMap String Time} (buried : store.Buried code expiresAt)
    (different : code ≠ other) (kind : ended = store.ended ∨ ended = store.ended.delete other) :
    ended.get? code = some expiresAt := by
  rcases kind with rfl | rfl
  · exact buried.1
  · rw [InsertionMap.get?_delete, if_neg different]
    exact buried.1

theorem section_buried {expiresAt : Time}
    (performed : Section maxSessionsPerIp reading store notes after)
    (fresh : ∀ now, reading = some now → now ≤ store.clock)
    (early : store.clock < expiresAt) (buried : store.Buried code expiresAt) :
    after.Buried code expiresAt := by
  have dropped : ∀ other, (store.drop other).Buried code expiresAt := by
    intro other
    refine ⟨buried.1, ?_⟩
    simp only [drop, InsertionMap.get?_delete]
    split
    · rfl
    · exact buried.2
  cases performed with
  | dropped other => exact dropped other
  | forgot other => exact dropped other
  | removed other => exact dropped other
  | swept now read =>
      -- The sweep reads the clock before it takes the lock, so it may lag but not run ahead.
      have before : now < expiresAt := Int.lt_of_le_of_lt (fresh now read) early
      refine ⟨?_, buried.2⟩
      simp only [concludeSweep, InsertionMap.get?_filter_eq_some_iff, decide_eq_true_eq]
      exact ⟨buried.1, before⟩
  | created request after ref read concluded =>
      have before : request.now < expiresAt := Int.lt_of_le_of_lt (fresh _ read) early
      by_cases same : code = request.code
      · subst same
        rw [concludeCreate_tombstoned buried.1 before] at concluded
        cases concluded
      · obtain ⟨ended, kind, ⟨_, wrong, _⟩ | ⟨_, _, _, _, rfl⟩⟩ := concludeCreate_cases concluded
        · cases wrong
        · exact ⟨buried.ended_other same kind,
            (InsertionMap.get?_set_ne _ _ same).trans buried.2⟩
  | refused request after error _ read _ concluded =>
      have before : request.now < expiresAt := Int.lt_of_le_of_lt (fresh _ read) early
      by_cases same : code = request.code
      · subst same
        rw [concludeCreate_tombstoned buried.1 before] at concluded
        cases concluded
        exact buried
      · obtain ⟨ended, kind, ⟨_, _, rfl⟩ | ⟨wrong, _⟩⟩ := concludeCreate_cases concluded
        · exact ⟨buried.ended_other same kind, buried.2⟩
        · cases wrong
  | ended other ref after ended =>
      obtain ⟨live, rfl⟩ := endSession_some ended
      -- A buried code has no room, so it is another one that ends.
      have different : code ≠ other := by
        rintro rfl
        rw [buried.2] at live
        cases live
      exact ⟨(InsertionMap.get?_set_ne _ _ different).trans buried.1, (dropped other).2⟩
  | _ => exact buried

/-- Every tombstone whose time is not over still stands. -/
def Entombed (store : Store) (past : List Note) : Prop :=
  ∀ code session moment, .tombstoned code session moment ∈ past →
    store.clock < moment + store.ttl → store.Buried code (moment + store.ttl)

theorem section_entombed (performed : Section maxSessionsPerIp reading store notes after)
    (fresh : ∀ now, reading = some now → now ≤ store.clock) (entombed : store.Entombed past) :
    after.Entombed (past ++ notes) := by
  intro code session moment noted early
  obtain ⟨order, ttl⟩ := section_clock performed
  rw [ttl] at early ⊢
  rcases List.mem_append.mp noted with old | new
  · have early : store.clock < moment + store.ttl := Int.lt_of_le_of_lt order early
    exact section_buried performed fresh early (entombed code session moment old early)
  · obtain ⟨_, rfl, ended⟩ := section_tombstoned performed new
    obtain ⟨_, rfl⟩ := endSession_some ended
    refine ⟨InsertionMap.get?_set_self _ _ _, ?_⟩
    rw [InsertionMap.get?_delete, if_pos rfl]

end Sections

end Store

/-- The time at which a call read the maps and found the code to be had. -/
def Note.claims (code : String) : Note → Option Time
  | .created _ other _ _ _ decided => if other = code then some decided else none
  | .found _ other _ decided => if other = code then some decided else none
  | _ => none

namespace Hub

section Steps
variable {hub after : Hub} {event : Event} {past notes : List Note}

/-- No pending operation carries a clock reading from the future. -/
def Timely (hub : Hub) : Prop :=
  hub.Pending fun op => ∀ now, op.reading = some now → now ≤ hub.store.clock

theorem plain_reading {op : Op} (plain : op.plain = true) : op.reading = none := by
  cases op <;> first | rfl | cases plain

theorem timely_step (stepped : hub.step event = some (after, notes)) (timely : hub.Timely) :
    after.Timely := by
  obtain ⟨reading, performed, _⟩ := step_section stepped
  have order := (Store.section_clock performed).1
  refine pending_step stepped timely ?_ ?_ ?_
  · intro op old now read
    exact Int.le_trans (old now read) order
  · intro call op _ begins now read
    cases begins with
    | lock call pass same =>
        cases read
        exact same ▸ order
    | _ => cases read
  · intro op new old brings now read
    cases brings with
    | plain op new plain =>
        rw [plain_reading plain] at read
        cases read
    | drawn profileId creatorIp left request same =>
        cases read
        exact Int.le_trans (Int.le_of_eq same) order
    | locked pass => exact Int.le_trans (old now read) order
    | passed => exact Int.le_trans (old now read) order
    | picked => exact Int.le_trans (old now read) order
    | _ => cases read

theorem step_fresh (stepped : hub.step event = some (after, notes)) (timely : hub.Timely) :
    ∃ reading, Section hub.config.maxSessionsPerIp reading hub.store notes after.store ∧
      ∀ now, reading = some now → now ≤ hub.store.clock := by
  obtain ⟨reading, performed, origin, _⟩ := step_section stepped
  refine ⟨reading, performed, ?_⟩
  intro now read
  rcases origin with none | ⟨ops, member, op, listed, same⟩
  · rw [none] at read
    cases read
  · exact timely ops member op listed now (same.trans read)

/-- While a tombstone stands, no call finds its code to be had. -/
theorem step_claims (stepped : hub.step event = some (after, notes)) (timely : hub.Timely)
    {code : String} {expiresAt : Time} (buried : hub.store.Buried code expiresAt)
    (early : hub.store.clock < expiresAt) : ∀ note ∈ notes, note.claims code = none := by
  intro note member
  rcases step_tells stepped member with ⟨ops, op, thread, listed, tells⟩ | ⟨error, rfl⟩
  · cases tells with
    | found purpose other started session live =>
        have different : other ≠ code := by
          rintro rfl
          rw [buried.2] at live
          cases live
        simp [Note.claims, different]
    | created request remaining closing after session concluded =>
        have now := timely ops thread _ listed request.now rfl
        have different : request.code ≠ code := by
          rintro rfl
          rw [Store.concludeCreate_tombstoned buried.1 (Int.lt_of_le_of_lt now early)] at concluded
          cases concluded
        simp [Note.claims, different]
    | _ => rfl
  · rfl

/-- A later call found the code to be had only after the tombstone's time. -/
def Respects (ttl : Time) (earlier later : Note) : Prop :=
  ∀ code session moment decided, earlier = .tombstoned code session moment →
    later.claims code = some decided → moment + ttl ≤ decided

theorem claims_now (stepped : hub.step event = some (after, notes)) {code : String}
    {decided : Time} {note : Note} (member : note ∈ notes)
    (claims : note.claims code = some decided) : decided = hub.store.clock := by
  rcases step_tells stepped member with ⟨ops, op, thread, listed, tells⟩ | ⟨error, rfl⟩
  · cases tells with
    | found =>
        simp only [Note.claims] at claims
        split at claims <;> cases claims
        rfl
    | created =>
        simp only [Note.claims] at claims
        split at claims <;> cases claims
        rfl
    | _ => cases claims
  · cases claims

/-- Tombstones, clock readings, and what came after a tombstone. -/
structure Mourning (hub : Hub) (past : List Note) : Prop where
  timely : hub.Timely
  entombed : hub.store.Entombed past
  respects : past.Pairwise (Respects hub.store.ttl)

theorem mourning_step (stepped : hub.step event = some (after, notes))
    (mourning : hub.Mourning past) : after.Mourning (past ++ notes) := by
  obtain ⟨reading, performed, fresh⟩ := step_fresh stepped mourning.timely
  have same := (Store.section_clock performed).2
  refine ⟨timely_step stepped mourning.timely,
    Store.section_entombed performed fresh mourning.entombed, ?_⟩
  rw [same]
  apply List.pairwise_append.mpr
  refine ⟨mourning.respects, ?_, ?_⟩
  · apply List.pairwise_of_forall_mem_list
    rintro _ earlier later member code session moment decided rfl claims
    -- the step that buries a code names nothing else
    obtain ⟨alone, _⟩ := Store.section_tombstoned performed earlier
    rw [alone] at member
    cases List.mem_singleton.mp member
    cases claims
  · rintro _ old later new code session moment decided rfl claims
    have now := claims_now stepped new claims
    apply Int.not_lt.mp
    intro early
    rw [now] at early
    have buried := mourning.entombed code session moment old early
    have nothing := step_claims stepped mourning.timely buried early later new
    rw [nothing] at claims
    cases claims

end Steps

end Hub

theorem run_mourning {config : Config} {ttl : Time} {hub : Hub} {history : List Note}
    {allowed : Hub → Event → Prop} (run : machine.Run allowed (newHub config ttl) hub history) :
    hub.Mourning history ∧ hub.store.ttl = ttl := by
  apply run.invariant (fun hub past => hub.Mourning past ∧ hub.store.ttl = ttl)
  · exact ⟨⟨Hub.newHub_pending config ttl, (fun _ _ _ noted => by cases noted),
      List.Pairwise.nil⟩, rfl⟩
  · rintro before past event after notes ⟨mourning, same⟩ _ stepped
    obtain ⟨reading, performed, _⟩ := Hub.step_section stepped
    exact ⟨Hub.mourning_step stepped mourning, (Store.section_clock performed).2.trans same⟩

end OnlyTwo.Relay
