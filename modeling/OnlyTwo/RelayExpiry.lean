import OnlyTwo.RelayInvariant
import OnlyTwo.RelayThreads

/-!
Expiry against use. The expiry paths ask `IsExpired` under the lock of the room
and take the room off the registry later, under the registry's lock alone, while
`AddConnection` takes only the room's lock. What makes the gap harmless is that
an expired room stays expired: it refuses every socket, and only a socket that
leaves could move its deadline.
-/

namespace OnlyTwo.Relay

namespace Store

theorem isExpired_iff {store : Store} {ref : Nat} :
    store.isExpired ref = true ↔
      ∃ session, store.heap[ref]? = some session ∧ session.expiredLocked store.clock = true := by
  cases found : store.heap[ref]? <;> simp [isExpired, found]

/-- Nobody is attached to an expired room. -/
theorem attached_of_isExpired {store : Store} {ref : Nat} (expired : store.isExpired ref = true) :
    store.attached ref = [] := by
  obtain ⟨session, found, reached⟩ := isExpired_iff.mp expired
  have alone : session.conns.entries.length = 0 := (Session.expiredLocked_iff.mp reached).1
  simp [attached, found, InsertionMap.values, List.length_eq_zero_iff.mp alone]

theorem isExpired_update {store : Store} {ref other : Nat} {room changed : Session}
    (found : store.heap[ref]? = some room)
    (kept : room.expiredLocked store.clock = true → changed.expiredLocked store.clock = true)
    (expired : store.isExpired other = true) : (store.update ref changed).isExpired other = true := by
  obtain ⟨session, stored, reached⟩ := isExpired_iff.mp expired
  apply isExpired_iff.mpr
  rw [getElem?_update]
  split
  · rename_i same
    subst same
    rw [found] at stored ⊢
    cases stored
    exact ⟨changed, rfl, kept reached⟩
  · exact ⟨session, stored, reached⟩

section Sections
variable {store after : Store} {notes : List Note} {maxSessionsPerIp : Int} {ref : Nat}
  {reading : Option Time}

theorem section_isExpired (performed : Section maxSessionsPerIp reading store notes after)
    (expired : store.isExpired ref = true) : after.isExpired ref = true := by
  cases performed with
  | tick elapsed =>
      obtain ⟨session, found, reached⟩ := isExpired_iff.mp expired
      exact isExpired_iff.mpr ⟨session, found, Session.expiredLocked_mono reached (by simp)⟩
  | created request after _ _ concluded =>
      obtain ⟨ended, _, ⟨error, wrong, _⟩ | ⟨_, _, _, _, rfl⟩⟩ := concludeCreate_cases concluded
      · cases wrong
      · obtain ⟨session, found, reached⟩ := isExpired_iff.mp expired
        have below := (List.getElem?_eq_some_iff.mp found).1
        exact isExpired_iff.mpr
          ⟨session, (List.getElem?_append_left below).trans found, reached⟩
  | refused request after error _ _ _ concluded =>
      obtain ⟨ended, _, ⟨_, _, rfl⟩ | ⟨wrong, _⟩⟩ := concludeCreate_cases concluded
      · exact expired
      · cases wrong
  | ended code ref after ended =>
      obtain ⟨_, rfl⟩ := endSession_some ended
      exact expired
  | added ref room joined endpoint pick result found added =>
      apply isExpired_update found _ expired
      intro reached
      -- an expired room takes nobody in
      obtain ⟨_, usable, _⟩ := Session.addConnection_ok added
      rw [reached] at usable
      cases usable
  | left ref room remaining slot id pick peer found removed =>
      apply isExpired_update found _ expired
      intro reached
      obtain ⟨⟨current, held, _⟩, _⟩ := Session.removeConnection_some removed
      exact absurd (Session.expiredLocked_iff.mp reached).1 (Session.size_ne_zero_of_get? held)
  | drained ref room ending found =>
      apply isExpired_update found _ expired
      intro reached
      simp only [Session.drainConnections]
      split
      · exact reached
      · obtain ⟨_, deadline⟩ := Session.expiredLocked_iff.mp reached
        exact Session.expiredLocked_iff.mpr ⟨rfl, deadline⟩
  | _ => exact expired

/-- A socket is attached only to a room that is not expired. -/
theorem section_attached (performed : Section maxSessionsPerIp reading store notes after)
    {endpoint : Endpoint} (noted : .attached endpoint ref ∈ notes) :
    store.isExpired ref = false := by
  cases performed with
  | idle _ silent =>
      have loud := List.all_eq_true.mp silent _ noted
      cases loud
  | refused _ _ _ _ _ silent _ =>
      have loud := List.all_eq_true.mp silent _ noted
      cases loud
  | added place room joined other pick result found added =>
      cases List.mem_singleton.mp noted
      obtain ⟨_, usable, _⟩ := Session.addConnection_ok added
      simp [isExpired, found, usable]
  | _ => simp at noted

end Sections

end Store

/-- Rooms a goroutine has found expired and is about to take away or close. -/
def Op.doomed : Op → List Nat
  | .drop _ session => [session]
  | .forget _ session => [session]
  | .closeSession session => [session]
  | .scan _ _ closing => closing
  | _ => []

namespace Hub

section Doomed
variable {hub after : Hub} {event : Event} {notes : List Note}

/-- Every room on its way out is expired. -/
def Condemned (hub : Hub) : Prop :=
  hub.Pending fun op => ∀ session ∈ op.doomed, hub.store.isExpired session = true

theorem begins_doomed {call : Call} {op : Op} (begins : Begins hub call op) : op.doomed = [] := by
  cases begins <;> rfl

theorem plain_doomed {op : Op} (plain : op.plain = true) : op.doomed = [] := by
  cases op <;> first | rfl | cases plain

/-- A room that a new operation takes away was doomed before or is expired now. -/
theorem brings_doomed {op new : Op} (brings : Brings hub op new) {session : Nat}
    (doomed : session ∈ new.doomed) :
    session ∈ op.doomed ∨ hub.store.isExpired session = true := by
  cases brings with
  | plain op new plain =>
      rw [plain_doomed plain] at doomed
      cases doomed
  | passed => exact Or.inl doomed
  -- The sweep looks at the deadline when it picks the room.
  | picked pass remaining rest closing picked expired =>
      rcases List.mem_append.mp doomed with old | new
      · exact Or.inl old
      · cases List.mem_singleton.mp new
        exact Or.inr expired
  | drop pass remaining closing code picked expired =>
      cases List.mem_singleton.mp doomed
      exact Or.inr expired
  | closing pass remaining closing picked held =>
      cases List.mem_singleton.mp doomed
      exact Or.inl held
  | forget purpose code picked expired =>
      cases List.mem_singleton.mp doomed
      exact Or.inr expired
  | forgotten => exact Or.inl doomed
  | _ => cases doomed

theorem condemned_step (stepped : hub.step event = some (after, notes))
    (condemned : hub.Condemned) : after.Condemned := by
  obtain ⟨reading, performed, _⟩ := step_section stepped
  refine pending_step stepped condemned ?_ ?_ ?_
  · intro op expired session doomed
    exact Store.section_isExpired performed (expired session doomed)
  · intro call op _ begins session doomed
    rw [begins_doomed begins] at doomed
    cases doomed
  · intro op new expired brings session doomed
    apply Store.section_isExpired performed
    rcases brings_doomed brings doomed with old | now
    · exact expired session old
    · exact now

/-- What an expiry path removes is expired, and nobody is attached to it. -/
theorem step_expired (stepped : hub.step event = some (after, notes)) (condemned : hub.Condemned)
    {code : String} {session : Nat} {endpoints : List Endpoint}
    (noted : .expired code session endpoints ∈ notes) :
    hub.store.isExpired session = true ∧ endpoints = [] := by
  rcases step_tells stepped noted with ⟨ops, op, member, listed, tells⟩ | ⟨error, wrong⟩
  · have expired := condemned ops member op listed
    cases tells with
    | dropped code session =>
        have reached := expired session (List.mem_singleton.mpr rfl)
        exact ⟨reached, Store.attached_of_isExpired reached⟩
    | forgot code session =>
        have reached := expired session (List.mem_singleton.mpr rfl)
        exact ⟨reached, Store.attached_of_isExpired reached⟩
  · cases wrong

/-- The expired rooms of a history, and that no socket entered one after its removal. -/
structure Retired (hub : Hub) (past : List Note) : Prop where
  condemned : hub.Condemned
  expired : ∀ code session endpoints, .expired code session endpoints ∈ past →
    hub.store.isExpired session = true ∧ endpoints = []
  ordered : past.Pairwise fun earlier later =>
    ∀ code session endpoints endpoint, earlier = .expired code session endpoints →
      later ≠ .attached endpoint session

theorem retired_step (stepped : hub.step event = some (after, notes)) {past : List Note}
    (retired : hub.Retired past) : after.Retired (past ++ notes) := by
  obtain ⟨reading, performed, _⟩ := step_section stepped
  have refuses : ∀ session, hub.store.isExpired session = true →
      ∀ endpoint, Note.attached endpoint session ∉ notes := by
    intro session reached endpoint noted
    rw [Store.section_attached performed noted] at reached
    cases reached
  refine ⟨condemned_step stepped retired.condemned, ?_, ?_⟩
  · intro code session endpoints noted
    have now : hub.store.isExpired session = true ∧ endpoints = [] := by
      rcases List.mem_append.mp noted with old | new
      · exact retired.expired code session endpoints old
      · exact step_expired stepped retired.condemned new
    exact ⟨Store.section_isExpired performed now.1, now.2⟩
  · apply List.pairwise_append.mpr
    refine ⟨retired.ordered, ?_, ?_⟩
    · -- a step that removes a room attaches nobody to it
      apply List.pairwise_of_forall_mem_list
      rintro _ earlier later member code session endpoints endpoint rfl rfl
      exact refuses session (step_expired stepped retired.condemned earlier).1 endpoint member
    · rintro _ old _ new code session endpoints endpoint rfl rfl
      exact refuses session (retired.expired code session endpoints old).1 endpoint new

end Doomed

end Hub

section Runs
variable {config : Config} {ttl : Time} {hub : Hub} {history : List Note}

theorem run_retired (run : machine.Run Machine.Unrestricted (newHub config ttl) hub history) :
    hub.Retired history := by
  apply run.invariant (fun hub past => hub.Retired past)
  · exact ⟨Hub.newHub_pending config ttl, (fun _ _ _ noted => by cases noted),
      List.Pairwise.nil⟩
  · intro before past event after notes retired _ stepped
    exact Hub.retired_step stepped retired

theorem run_isExpired {allowed : Hub → Event → Prop} {later : Hub} {future : List Note}
    (run : machine.Run allowed hub later future) {session : Nat}
    (expired : hub.store.isExpired session = true) : later.store.isExpired session = true := by
  apply run.state_invariant (fun hub => hub.store.isExpired session = true) expired
  intro before event after notes reached _ stepped
  obtain ⟨reading, performed, _⟩ := Hub.step_section stepped
  exact Store.section_isExpired performed reached

/-- Expiry takes no used room away, and what it took away is never used again. -/
theorem expiry_spares_used_rooms
    (run : machine.Run Machine.Unrestricted (newHub config ttl) hub history) :
    (∀ code session endpoints, .expired code session endpoints ∈ history → endpoints = []) ∧
    (∀ earlier later code session endpoints,
      history = earlier ++ .expired code session endpoints :: later →
      ∀ endpoint, .attached endpoint session ∉ later) ∧
    (∀ session, hub.store.isExpired session = true → ∀ later future,
      machine.Run Machine.Unrestricted hub later future →
      later.store.isExpired session = true) := by
  have retired := run_retired run
  refine ⟨?_, ?_, ?_⟩
  · intro code session endpoints noted
    exact (retired.expired code session endpoints noted).2
  · rintro earlier later code session endpoints rfl endpoint member
    have after := (List.pairwise_append.mp retired.ordered).2.1
    exact (List.pairwise_cons.mp after).1 _ member code session endpoints endpoint rfl rfl
  · intro session expired later future run
    exact run_isExpired run expired

/-- A room is created, its time passes, and a lookup takes it away. -/
def roomExpired : List Event :=
  roomCreated ++ .tick 10 :: .call (.getSession sampleCode) :: proceed 1 3

theorem sample_room_expires :
    ∃ hub history, machine.execute (newHub sampleConfig 10) roomExpired = some (hub, history) ∧
      .expired sampleCode 0 [] ∈ history ∧ hub.store.isExpired 0 = true ∧
      ∀ later future, machine.Run Machine.Unrestricted hub later future →
        later.store.isExpired 0 = true := by
  have reached : (machine.execute (newHub sampleConfig 10) roomExpired).map
      (fun result => (decide (.expired sampleCode 0 [] ∈ result.2), result.1.store.isExpired 0)) =
      some (true, true) := by decide +kernel
  obtain ⟨⟨hub, history⟩, ran, shown⟩ := Option.map_eq_some_iff.mp reached
  obtain ⟨noted, expired⟩ := Prod.mk.inj shown
  have run := Machine.execute_run roomExpired (Machine.along_unrestricted _ _) ran
  exact ⟨hub, history, ran, of_decide_eq_true noted, expired,
    (expiry_spares_used_rooms run).2.2 0 expired⟩

end Runs

end OnlyTwo.Relay
