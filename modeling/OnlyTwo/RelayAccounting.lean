import OnlyTwo.RelayAdmission
import OnlyTwo.RelayInvariant

/-!
`connsByIP` against the handlers that hold a place. `Stage` says how far a goroutine is
with its place, `Counted` relates the count of one address to the goroutines that
reserved a place of it and have not released it. Any calls, answers and scheduling of
goroutines keep both.
-/

namespace OnlyTwo.Relay

section Marks
variable {history : List Audit} {thread : Nat} {mark : PlaceMark} {ip : String}

theorem mem_marksOf : mark ∈ marksOf thread history ↔ ⟨thread, mark⟩ ∈ history := by
  simp only [marksOf, List.mem_map, List.mem_filter, decide_eq_true_eq]
  constructor
  · rintro ⟨audit, ⟨listed, rfl⟩, rfl⟩
    exact listed
  · intro listed
    exact ⟨_, ⟨listed, rfl⟩, rfl⟩

theorem mem_holders : thread ∈ holders history ip ↔
    .reserved ip ∈ marksOf thread history ∧ .released ip ∉ marksOf thread history := by
  simp only [holders, mem_marksOf, List.mem_filter, List.mem_map, decide_eq_true_eq,
    List.contains_eq_mem, Bool.not_eq_true', decide_eq_false_iff_not]
  constructor
  · rintro ⟨⟨⟨owner, _⟩, ⟨listed, rfl⟩, rfl⟩, held⟩
    exact ⟨listed, held⟩
  · rintro ⟨listed, held⟩
    exact ⟨⟨_, ⟨listed, rfl⟩, rfl⟩, held⟩

theorem marksOf_append_self :
    marksOf thread (history ++ [⟨thread, mark⟩]) = marksOf thread history ++ [mark] := by
  simp [marksOf]

theorem holders_reserved (fresh : marksOf thread history = []) :
    holders (history ++ [⟨thread, .reserved ip⟩]) ip = holders history ip ++ [thread] := by
  have unreleased : ⟨thread, .released ip⟩ ∉ history := by
    rw [← mem_marksOf, fresh]
    exact List.not_mem_nil
  simp [holders, unreleased]

theorem holders_released : holders (history ++ [⟨thread, .released ip⟩]) ip =
    (holders history ip).filter fun holder => holder ≠ thread := by
  simp only [holders, List.filter_append, List.filter_filter]
  rw [List.filter_cons_of_neg (by simp), List.filter_nil, List.append_nil]
  apply List.filter_congr
  intro holder _
  by_cases same : holder = thread <;> simp [same]

theorem holders_apart {other : String} (apart : other ≠ ip)
    (named : mark = .reserved other ∨ mark = .released other) :
    holders (history ++ [⟨thread, mark⟩]) ip = holders history ip := by
  rcases named with rfl | rfl <;> simp [holders, apart, apart.symm]

end Marks

/-- The hub counts for an address the goroutines that hold its places. -/
structure Counted (hub : Hub) (history : List Audit) (ip : String) : Prop where
  count : (hub.connsByIp.get? ip).getD 0 = (holders history ip).length
  listed : hub.connsByIp.get? ip ≠ some 0
  distinct : (holders history ip).Nodup
  bounded : 0 < hub.config.maxConnectionsPerIp →
    ((holders history ip).length : Int) ≤ hub.config.maxConnectionsPerIp

section Counted
variable {hub after : Hub} {history : List Audit} {thread : Nat} {ip other : String}

theorem newHub_counted (config : Config) (ttl : Time) (ip : String) :
    Counted (newHub config ttl) [] ip where
  count := rfl
  listed := nofun
  distinct := List.nodup_nil
  bounded positive := positive.le

theorem Counted.kept (counted : Counted hub history ip)
    (same : after.connsByIp = hub.connsByIp) (config : after.config = hub.config) :
    Counted after history ip where
  count := same ▸ counted.count
  listed := same ▸ counted.listed
  distinct := counted.distinct
  bounded := config ▸ counted.bounded

theorem Counted.absent (counted : Counted hub history ip) (free : holders history ip = []) :
    hub.connsByIp.get? ip = none := by
  have count := counted.count
  rw [free] at count
  cases found : hub.connsByIp.get? ip with
  | none => rfl
  | some number =>
      rw [found] at count
      cases count
      exact absurd found counted.listed

/-- A change of the count of another address. -/
theorem Counted.aside {mark : PlaceMark} (counted : Counted hub history ip) (apart : other ≠ ip)
    (named : mark = .reserved other ∨ mark = .released other)
    (same : after.connsByIp.get? ip = hub.connsByIp.get? ip)
    (config : after.config = hub.config) : Counted after (history ++ [⟨thread, mark⟩]) ip := by
  have holding : holders (history ++ [⟨thread, mark⟩]) ip = holders history ip :=
    holders_apart apart named
  constructor
  · rw [same, holding, counted.count]
  · rw [same]
    exact counted.listed
  · rw [holding]
    exact counted.distinct
  · rw [holding, config]
    exact counted.bounded

theorem Counted.reserve (counted : Counted hub history ip)
    (reserved : hub.reserveIp other = some after) (fresh : marksOf thread history = []) :
    Counted after (history ++ [⟨thread, .reserved other⟩]) ip := by
  simp only [Hub.reserveIp] at reserved
  split at reserved
  · cases reserved
  rename_i room
  cases reserved
  by_cases same : other = ip
  · subst same
    have holding : holders (history ++ [⟨thread, .reserved other⟩]) other =
        holders history other ++ [thread] := holders_reserved fresh
    have outside : thread ∉ holders history other := by
      rw [mem_holders, fresh]
      exact fun held => List.not_mem_nil held.1
    constructor
    · rw [holding, List.length_append, ← counted.count, InsertionMap.get?_set_self]
      rfl
    · simp
    · rw [holding]
      simpa only [List.concat_eq_append] using counted.distinct.concat outside
    · intro positive
      have below := not_and.mp room positive
      rw [counted.count] at below
      rw [holding]
      simp only [List.length_append, List.length_singleton] at below ⊢
      omega
  · exact counted.aside same (.inl rfl) (InsertionMap.get?_set_ne _ _ (Ne.symm same)) rfl

theorem Counted.release (counted : Counted hub history ip) (named : ip ≠ "")
    (holding : marksOf thread history = [.reserved other]) :
    Counted (hub.releaseIp other) (history ++ [⟨thread, .released other⟩]) ip := by
  have config : (hub.releaseIp other).config = hub.config := by
    simp only [Hub.releaseIp]
    split
    · rfl
    · split <;> rfl
  by_cases same : other = ip
  · subst same
    have inside : thread ∈ holders history other := by
      rw [mem_holders, holding]
      simp
    have fewer : (holders (history ++ [⟨thread, .released other⟩]) other).length + 1 =
        (holders history other).length := by
      have positive := List.length_pos_of_mem inside
      -- Nobody holds two places, so one holder goes.
      have removed : (holders history other).filter (fun holder => holder ≠ thread) =
          (holders history other).erase thread := by
        rw [counted.distinct.erase_eq_filter]
        apply List.filter_congr
        intro holder _
        by_cases same : holder = thread <;> simp [same]
      rw [holders_released, removed, List.length_erase_of_mem inside]
      omega
    have count := counted.count
    constructor
    · simp only [Hub.releaseIp, if_neg named]
      split
      · simp only [InsertionMap.get?_delete, if_true, Option.getD_none]
        omega
      · simp only [InsertionMap.get?_set_self, Option.getD_some]
        omega
    · simp only [Hub.releaseIp, if_neg named]
      split
      · simp [InsertionMap.get?_delete]
      · rw [InsertionMap.get?_set_self]
        intro zero
        -- A count that falls to zero is deleted, so what is stored stays positive.
        have none := Option.some.inj zero
        omega
    · rw [holders_released]
      exact counted.distinct.filter _
    · intro positive
      have below := counted.bounded (config ▸ positive)
      rw [config]
      omega
  · refine counted.aside same (.inr rfl) ?_ config
    simp only [Hub.releaseIp]
    split
    · rfl
    · split
      · rw [InsertionMap.get?_delete, if_neg (Ne.symm same)]
      · exact InsertionMap.get?_set_ne _ _ (Ne.symm same)

end Counted

/-- How far a goroutine is with its place: what it has marked so far, and what is
still ahead of it. -/
inductive Stage (hub : Hub) (history : List Audit) (thread : Nat) (ops : List Op) : Prop where
  | apart : marksOf thread history = [] → (∀ op ∈ ops, op.admits = false) →
      Stage hub history thread ops
  | asking (ip code slotToken : String) : marksOf thread history = [] →
      ops = [.reserve ip code slotToken] → Stage hub history thread ops
  | holding (ip : String) : marksOf thread history = [.reserved ip] → hub.Holds ip ops →
      Stage hub history thread ops
  | released (ip : String) : marksOf thread history = [.reserved ip, .released ip] →
      (∀ op ∈ ops, op.admits = false) → Stage hub history thread ops

/-- What a turn of a goroutine does to the counts, with the marks of the turn. -/
inductive Marked (hub after : Hub) (history : List Audit) (thread : Nat) :
    List Audit → Prop where
  | kept : after.connsByIp = hub.connsByIp → Marked hub after history thread []
  | reserved (ip : String) : hub.reserveIp ip = some after → marksOf thread history = [] →
      Marked hub after history thread [⟨thread, .reserved ip⟩]
  | released (ip : String) : after = hub.releaseIp ip →
      marksOf thread history = [.reserved ip] →
      Marked hub after history thread [⟨thread, .released ip⟩]

section Turn
variable {hub : Hub} {history : List Audit} {thread : Nat} {op : Op} {rest : List Op}
  {answer : Answer} {outcome : Outcome} {ip : String}

theorem Stage.lasts {after : Hub} {later : List Audit} {ops : List Op}
    (stage : Stage hub history thread ops) (grown : hub.ips <+: after.ips)
    (same : marksOf thread later = marksOf thread history) : Stage after later thread ops := by
  cases stage with
  | apart none aside => exact .apart (same.trans none) aside
  | asking ip code slotToken none first => exact .asking ip code slotToken (same.trans none) first
  | holding ip one holds => exact .holding ip (same.trans one) (holds.of_ips grown)
  | released ip both aside => exact .released ip (same.trans both) aside

theorem Hub.Holds.prepend {ops new : List Op} (holds : hub.Holds ip ops)
    (idle : ∀ op ∈ new, op.admits = false) : hub.Holds ip (new ++ ops) := by
  induction new with
  | nil => exact holds
  | cons first later ih =>
      have split := List.forall_mem_cons.mp idle
      exact (ih split.2).cons split.1

theorem audit_idle (found : hub.threads[thread]? = some (op :: rest)) (aside : op.admits = false) :
    hub.audit (.step thread answer) = [] := by
  simp only [Hub.audit, found]
  split
  · rename_i same
    cases same
    cases aside
  · rename_i same
    cases same
    cases aside
  · rfl

theorem audit_passes (found : hub.threads[thread]? = some (op :: rest))
    (owed : hub.owes op = some ip) (unreleased : op ≠ .release ip) :
    hub.audit (.step thread answer) = [] := by
  simp only [Hub.audit, found]
  split
  · rename_i same
    cases same
    cases owed
  · rename_i same
    cases same
    cases owed
    exact absurd rfl unreleased
  · rfl

/-- A turn leaves the goroutine at a stage, starts only goroutines that have nothing to
do with places, and changes the counts as its marks say. -/
structure Turned (hub : Hub) (history : List Audit) (thread : Nat) (rest : List Op)
    (outcome : Outcome) (new : List Audit) : Prop where
  stage : Stage outcome.hub (history ++ new) thread (outcome.next ++ rest)
  spawned : ∀ op ∈ outcome.spawned.flatten, op.admits = false
  marked : Marked hub outcome.hub history thread new

theorem idle_turned (found : hub.threads[thread]? = some (op :: rest))
    (aside : op.admits = false) (ran : hub.run op answer = some outcome)
    (stage : Stage outcome.hub history thread (outcome.next ++ rest)) :
    Turned hub history thread rest outcome (hub.audit (.step thread answer)) := by
  have idle := Hub.run_idle aside ran
  rw [audit_idle found aside]
  exact ⟨(List.append_nil history).symm ▸ stage,
    fun new member => idle.2 new (List.mem_append_right _ member), .kept idle.1⟩

theorem reserve_turned {code slotToken : String}
    (found : hub.threads[thread]? = some [.reserve ip code slotToken])
    (ran : hub.run (.reserve ip code slotToken) answer = some outcome)
    (fresh : marksOf thread history = []) :
    Turned hub history thread [] outcome (hub.audit (.step thread answer)) := by
  cases ran
  simp only [Hub.audit, found, Hub.reserve]
  split
  · rename_i refused
    simp only [refused, Option.isSome_none, Bool.false_eq_true, if_false]
    refine ⟨.apart ?_ (List.forall_mem_nil _), List.forall_mem_nil _, .kept rfl⟩
    rw [List.append_nil, fresh]
  · rename_i reserved taken
    simp only [taken, Option.isSome_some, if_true]
    refine ⟨.holding ip ?_ ?_, List.forall_mem_nil _, .reserved ip taken fresh⟩
    · rw [marksOf_append_self, fresh]
      rfl
    · exact ⟨[], _, [], rfl, rfl, List.forall_mem_nil _⟩

theorem release_turned (found : hub.threads[thread]? = some (.release ip :: rest))
    (ran : hub.run (.release ip) answer = some outcome)
    (holding : marksOf thread history = [.reserved ip])
    (aside : ∀ op ∈ rest, op.admits = false) :
    Turned hub history thread rest outcome (hub.audit (.step thread answer)) := by
  cases ran
  simp only [Hub.audit, found]
  refine ⟨.released ip ?_ aside, nofun, .released ip rfl holding⟩
  rw [marksOf_append_self, holding]
  rfl

theorem passes_turned (found : hub.threads[thread]? = some (op :: rest))
    (owed : hub.owes op = some ip) (unreleased : op ≠ .release ip)
    (ran : hub.run op answer = some outcome) (holding : marksOf thread history = [.reserved ip])
    (aside : ∀ op ∈ rest, op.admits = false) :
    Turned hub history thread rest outcome (hub.audit (.step thread answer)) := by
  obtain ⟨same, holds, spawned⟩ := Hub.run_passes owed unreleased ran
  rw [audit_passes found owed unreleased]
  refine ⟨.holding ip ?_ (holds.append aside), spawned, .kept same⟩
  rw [List.append_nil, holding]

/-- The turn rule: by the stage of the goroutine, and for a handler that holds a place,
by whether its next operation is the one that owes it. -/
theorem Stage.turn (stage : Stage hub history thread (op :: rest))
    (found : hub.threads[thread]? = some (op :: rest))
    (ran : hub.run op answer = some outcome) :
    Turned hub history thread rest outcome (hub.audit (.step thread answer)) := by
  cases stage with
  | apart none aside =>
      have split := List.forall_mem_cons.mp aside
      have idle := Hub.run_idle split.1 ran
      exact idle_turned found split.1 ran (.apart none (List.forall_mem_append.mpr
        ⟨fun new member => idle.2 new (List.mem_append_left _ member), split.2⟩))
  | asking ip code slotToken none first =>
      cases first
      exact reserve_turned found ran none
  | holding ip one holds =>
      obtain ⟨first, owing, last, listed, owed, others⟩ := holds
      have split := List.forall_mem_append.mp others
      cases first with
      | nil =>
          cases listed
          -- The owing operation comes now: it releases the place or passes it on.
          by_cases release : op = .release ip
          · cases release
            exact release_turned found ran one split.2
          · exact passes_turned found owed release ran one split.2
      | cons head before =>
          cases listed
          -- Something else comes first and leaves the place alone.
          have earlier := List.forall_mem_cons.mp split.1
          have idle := Hub.run_idle earlier.1 ran
          have later : hub.Holds ip (before ++ owing :: last) :=
            ⟨before, owing, last, rfl, owed, List.forall_mem_append.mpr ⟨earlier.2, split.2⟩⟩
          exact idle_turned found earlier.1 ran (.holding ip one
            ((later.of_ips (Hub.run_ips ran)).prepend
              fun new member => idle.2 new (List.mem_append_left _ member)))
  | released ip both aside =>
      have split := List.forall_mem_cons.mp aside
      have idle := Hub.run_idle split.1 ran
      exact idle_turned found split.1 ran (.released ip both (List.forall_mem_append.mpr
        ⟨fun new member => idle.2 new (List.mem_append_left _ member), split.2⟩))

theorem Marked.owner {after : Hub} {new : List Audit} (marked : Marked hub after history thread new)
    {audit : Audit} (member : audit ∈ new) : audit.thread = thread := by
  cases marked with
  | kept => cases member
  | reserved => rw [List.mem_singleton.mp member]
  | released => rw [List.mem_singleton.mp member]

theorem marksOf_others {new : List Audit} {other : Nat}
    (unmarked : ∀ audit ∈ new, audit.thread ≠ other) :
    marksOf other (history ++ new) = marksOf other history := by
  have none : new.filter (fun audit => audit.thread = other) = [] :=
    List.filter_eq_nil_iff.mpr fun audit member => by simpa using unmarked audit member
  simp [marksOf, none]

theorem marksOf_unborn (born : ∀ audit ∈ history, audit.thread ≠ thread) :
    marksOf thread history = [] := by
  have none : marksOf thread ([] ++ history) = marksOf thread [] := marksOf_others born
  exact none

theorem Counted.turn {after : Hub} {new : List Audit} (counted : Counted hub history ip)
    (named : ip ≠ "") (marked : Marked hub after history thread new)
    (config : after.config = hub.config) : Counted after (history ++ new) ip := by
  cases marked with
  | kept same =>
      rw [List.append_nil]
      exact counted.kept same config
  | reserved other taken fresh => exact counted.reserve taken fresh
  | released other given holding =>
      subst given
      exact counted.release named holding

end Turn

/-- The invariant: every goroutine is at a stage, only goroutines that exist have left
marks, and every address is counted. -/
structure Accounted (hub : Hub) (history : List Audit) : Prop where
  staged : ∀ thread ops, hub.threads[thread]? = some ops → Stage hub history thread ops
  born : ∀ audit ∈ history, audit.thread < hub.threads.length
  counted : ∀ ip, ip ≠ "" → Counted hub history ip

section Steps
variable {hub after : Hub} {history new : List Audit} {event : Event}

theorem newHub_accounted (config : Config) (ttl : Time) : Accounted (newHub config ttl) [] where
  staged := nofun
  born := nofun
  counted ip _ := newHub_counted config ttl ip

/-- A goroutine that a call starts: a handler about to ask for a place, or one that
never will. -/
theorem Accounted.call (accounted : Accounted hub history) (call : Call) :
    Accounted { hub with threads := hub.threads ++ [(hub.begin call).1] } history where
  staged thread ops found := by
    by_cases old : thread < hub.threads.length
    · rw [List.getElem?_append_left old] at found
      exact (accounted.staged thread ops found).lasts List.prefix_rfl rfl
    · rw [List.getElem?_append_right (not_lt.mp old)] at found
      have same := List.mem_singleton.mp (List.mem_of_getElem? found)
      subst same
      have none : marksOf thread history = [] :=
        marksOf_unborn fun audit member => ((accounted.born audit member).trans_le (not_lt.mp old)).ne
      by_cases handler : ∃ ip code slotToken, call = .serveHTTP ip code slotToken
      · obtain ⟨ip, code, slotToken, rfl⟩ := handler
        simp only [Hub.begin]
        split
        · exact .apart none (List.forall_mem_nil _)
        · exact .asking ip code slotToken none rfl
      · refine .apart none fun op member => ?_
        cases Hub.begin_begins member with
        | reserve ip code slotToken => exact absurd ⟨ip, code, slotToken, rfl⟩ handler
        | _ => rfl
  born audit member := by
    have below := accounted.born audit member
    rw [List.length_append]
    exact Nat.lt_add_right _ below
  counted ip named := (accounted.counted ip named).kept rfl rfl

theorem Accounted.turn {thread : Nat} {answer : Answer} {op : Op} {rest : List Op}
    {outcome : Outcome} (accounted : Accounted hub history)
    (found : hub.threads[thread]? = some (op :: rest))
    (ran : hub.run op answer = some outcome) (config : outcome.hub.config = hub.config) :
    Accounted (hub.advance thread rest outcome)
      (history ++ hub.audit (.step thread answer)) := by
  have turned := (accounted.staged thread _ found).turn found ran
  have below := (List.getElem?_eq_some_iff.mp found).1
  have born : ∀ audit ∈ history ++ hub.audit (.step thread answer),
      audit.thread < hub.threads.length := List.forall_mem_append.mpr
    ⟨accounted.born, fun audit member => turned.marked.owner member ▸ below⟩
  constructor
  · intro other ops listed
    simp only [Hub.advance] at listed
    by_cases old : other < hub.threads.length
    · rw [List.getElem?_append_left (by rwa [List.length_set])] at listed
      by_cases same : thread = other
      · subst same
        rw [List.getElem?_set_self below] at listed
        cases listed
        exact turned.stage.lasts List.prefix_rfl rfl
      · rw [List.getElem?_set_ne same] at listed
        refine (accounted.staged other ops listed).lasts (Hub.run_ips ran) (marksOf_others ?_)
        exact fun audit member => turned.marked.owner member ▸ same
    · -- A goroutine that the operation has just started.
      rw [List.getElem?_append_right (by rw [List.length_set]; exact not_lt.mp old)] at listed
      have spawned := List.mem_of_getElem? listed
      refine .apart (marksOf_unborn fun audit member => ?_) fun op member =>
        turned.spawned op (List.mem_flatten_of_mem spawned member)
      exact ((born audit member).trans_le (not_lt.mp old)).ne
  · intro audit member
    have earlier := born audit member
    simp only [Hub.advance, List.length_append, List.length_set]
    exact Nat.lt_add_right _ earlier
  · intro ip named
    exact ((accounted.counted ip named).turn named turned.marked config).kept rfl rfl

theorem Accounted.next (accounted : Accounted hub history)
    (stepped : audited.step hub event = some (after, new)) :
    Accounted after (history ++ new) := by
  obtain ⟨⟨reached, notes⟩, taken, same⟩ := Option.map_eq_some_iff.mp stepped
  cases same
  obtain ⟨_, _, _, config⟩ := Hub.step_section taken
  rcases Hub.step_cases taken with ⟨elapsed, rfl, rfl, rfl⟩ | ⟨call, rfl, rfl, rfl⟩ |
    ⟨thread, answer, op, rest, outcome, rfl, found, ran, rfl, rfl⟩
  · rw [Hub.audit, List.append_nil]
    · exact ⟨fun thread ops found => (accounted.staged thread ops found).lasts List.prefix_rfl rfl,
        accounted.born, fun ip named => (accounted.counted ip named).kept rfl rfl⟩
    · nofun
  · rw [Hub.audit, List.append_nil]
    · exact accounted.call call
    · nofun
  · exact accounted.turn found ran config

theorem run_accounted {config : Config} {ttl : Time}
    (run : audited.Run Machine.Unrestricted (newHub config ttl) hub history) :
    Accounted hub history ∧ hub.config = config := by
  refine run.invariant (fun hub past => Accounted hub past ∧ hub.config = config)
    ⟨newHub_accounted config ttl, rfl⟩ ?_
  rintro before past event after new ⟨accounted, same⟩ _ stepped
  obtain ⟨⟨reached, notes⟩, taken, kept⟩ := Option.map_eq_some_iff.mp stepped
  cases kept
  obtain ⟨_, _, _, config⟩ := Hub.step_section taken
  exact ⟨accounted.next stepped, config.trans same⟩

end Steps

/-- A handler has reserved nothing, holds the one place it reserved, or has released
it once. -/
theorem Stage.marks {hub : Hub} {history : List Audit} {thread : Nat} {ops : List Op}
    (stage : Stage hub history thread ops) :
    marksOf thread history = [] ∨ (∃ ip, marksOf thread history = [.reserved ip] ∧ ops ≠ []) ∨
      ∃ ip, marksOf thread history = [.reserved ip, .released ip] := by
  cases stage with
  | apart none => exact .inl none
  | asking _ _ _ none => exact .inl none
  | holding ip one holds =>
      obtain ⟨first, owing, last, rfl, _⟩ := holds
      exact .inr (.inl ⟨ip, one, by simp⟩)
  | released ip both => exact .inr (.inr ⟨ip, both⟩)

/-- Whatever calls come and however the goroutines are scheduled, the count of an
address is the number of goroutines that hold a place of it, within the limit, and no
goroutine ends without releasing what it reserved or releases it twice. -/
theorem admission_accounted {config : Config} {ttl : Time} {hub : Hub} {history : List Audit}
    (run : audited.Run Machine.Unrestricted (newHub config ttl) hub history) :
    (∀ ip, ip ≠ "" →
      (holders history ip).Nodup ∧
      (hub.connsByIp.get? ip).getD 0 = (holders history ip).length ∧
      (holders history ip = [] → hub.connsByIp.get? ip = none) ∧
      (0 < config.maxConnectionsPerIp →
        (((hub.connsByIp.get? ip).getD 0 : Nat) : Int) ≤ config.maxConnectionsPerIp)) ∧
    ∀ thread, marksOf thread history = [] ∨
      (∃ ip, marksOf thread history = [.reserved ip] ∧ hub.threads[thread]? ≠ some []) ∨
      ∃ ip, marksOf thread history = [.reserved ip, .released ip] := by
  obtain ⟨accounted, same⟩ := run_accounted run
  constructor
  · intro ip named
    have counted := accounted.counted ip named
    refine ⟨counted.distinct, counted.count, counted.absent, fun positive => ?_⟩
    rw [counted.count, ← same]
    exact counted.bounded (same ▸ positive)
  · intro thread
    cases found : hub.threads[thread]? with
    | none =>
        refine .inl (marksOf_unborn fun audit member => ?_)
        exact ((accounted.born audit member).trans_le (List.getElem?_eq_none_iff.mp found)).ne
    | some ops =>
        rcases (accounted.staged thread ops found).marks with none | ⟨ip, one, ahead⟩ | both
        · exact .inl none
        · exact .inr (.inl ⟨ip, one, fun done => ahead (Option.some.inj done)⟩)
        · exact .inr (.inr both)

/-- One handler has come and gone, another one of the same address has just got in. -/
def placePassedOn : List Event :=
  roomJoined ++ .step 1 (.incoming .failed) :: proceed 1 3 ++
    .call (.serveHTTP "10.0.0.1" sampleCode secondSlot) :: proceed 3 1

theorem place_passed_on :
    ∃ hub history,
      audited.Run Machine.Unrestricted (newHub sampleConfig 10) hub history ∧
      marksOf 1 history = [.reserved "10.0.0.1", .released "10.0.0.1"] ∧
      holders history "10.0.0.1" = [3] ∧ (hub.connsByIp.get? "10.0.0.1").getD 0 = 1 := by
  have ran : (audited.execute (newHub sampleConfig 10) placePassedOn).map
      (fun result => (marksOf 1 result.2, holders result.2 "10.0.0.1")) =
      some ([.reserved "10.0.0.1", .released "10.0.0.1"], [3]) := by decide +kernel
  obtain ⟨⟨hub, history⟩, executed, shown⟩ := Option.map_eq_some_iff.mp ran
  obtain ⟨marks, holding⟩ := Prod.mk.inj shown
  have reached := Machine.execute_run _ (Machine.along_unrestricted _ _) executed
  obtain ⟨_, count, _⟩ := (admission_accounted reached).1 "10.0.0.1" (by decide)
  rw [holding] at count
  exact ⟨hub, history, reached, marks, holding, count⟩

end OnlyTwo.Relay
