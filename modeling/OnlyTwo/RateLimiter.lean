import OnlyTwo.InsertionMap
import Mathlib.Algebra.Order.Ring.Int
import Mathlib.Logic.Function.Basic

/-!
`RateLimiter` of internal/ws/rate_limiter.go. The calls are taken in the order in which
they hold the lock, each with the clock reading it starts with. A sweep happens inside
any call and throws windows of other keys away; that it never shows is proved against
one window for each key that nothing but calls with the key can touch.
-/

namespace OnlyTwo.Relay

/-- `time.Minute`. -/
def minute : Int := 60 * 1000000000

structure RateWindow where
  count : Nat
  startedAt : Int
  deriving DecidableEq, Repr

structure RateLimiter where
  limit : Int
  windows : InsertionMap String RateWindow
  lastSweep : Int

def newRateLimiter (limitPerMinute now : Int) : RateLimiter := ⟨limitPerMinute, .empty, now⟩

namespace RateLimiter

/-- `lastSweep` is a clock reading from the start, so its `IsZero` is never true. -/
def sweepLocked (self : RateLimiter) (now : Int) : RateLimiter :=
  if now - self.lastSweep < minute then self
  else { self with
    windows := self.windows.filter fun _ w => !decide (w.startedAt < now - 2 * minute)
    lastSweep := now }

/-- `Allow` after its sweep. A key without a window reads the zero value, whose
`startedAt` is zero. -/
def countCall (self : RateLimiter) (key : String) (now : Int) : RateLimiter × Bool :=
  match self.windows.get? key with
  | none => ({ self with windows := self.windows.set key ⟨1, now⟩ }, true)
  | some w =>
      if minute ≤ now - w.startedAt then
        ({ self with windows := self.windows.set key ⟨1, now⟩ }, true)
      else if self.limit ≤ w.count then (self, false)
      else ({ self with windows := self.windows.set key { w with count := w.count + 1 } }, true)

def allow (self : RateLimiter) (key : String) (now : Int) : RateLimiter × Bool :=
  if self.limit ≤ 0 then (self, true) else (self.sweepLocked now).countCall key now

/-- `Allow` of a limiter that never sweeps. -/
def allowUnswept (self : RateLimiter) (key : String) (now : Int) : RateLimiter × Bool :=
  if self.limit ≤ 0 then (self, true) else self.countCall key now

end RateLimiter

inductive LimiterCall where
  | allow (key : String) (now : Int)
  | sweep (now : Int)
  deriving DecidableEq

def LimiterCall.now : LimiterCall → Int
  | .allow _ now => now
  | .sweep now => now

def LimiterCall.asks (key : String) : LimiterCall → Bool
  | .allow asked _ => asked == key
  | .sweep _ => false

/-- What a call to `Allow` answered, and the start of the window that its key then has. -/
structure RateAnswer where
  key : String
  now : Int
  allowed : Bool
  startedAt : Int
  deriving DecidableEq

namespace RateLimiter

def answer (key : String) (now : Int) (result : RateLimiter × Bool) : RateAnswer :=
  ⟨key, now, result.2, ((result.1.windows.get? key).map RateWindow.startedAt).getD now⟩

def answers : RateLimiter → List LimiterCall → List RateAnswer
  | _, [] => []
  | self, .allow key now :: rest =>
      answer key now (self.allow key now) :: answers (self.allow key now).1 rest
  | self, .sweep now :: rest => answers (self.sweepLocked now) rest

def answersUnswept : RateLimiter → List LimiterCall → List RateAnswer
  | _, [] => []
  | self, .allow key now :: rest =>
      answer key now (self.allowUnswept key now) :: answersUnswept (self.allowUnswept key now).1 rest
  | self, .sweep _ :: rest => answersUnswept self rest

end RateLimiter

/-! One window, which only the calls with its key reach. -/
section Meter

/-- A call with the key, `none` before the first one. -/
def meter (limit : Int) (window : Option RateWindow) (now : Int) : RateWindow × Bool :=
  match window with
  | none => (⟨1, now⟩, true)
  | some w =>
      if minute ≤ now - w.startedAt then (⟨1, now⟩, true)
      else if limit ≤ w.count then (w, false)
      else ({ w with count := w.count + 1 }, true)

/-- The answers of a limiter that keeps one window for each key. -/
def meterAnswers (limit : Int) : (String → Option RateWindow) → List LimiterCall → List RateAnswer
  | _, [] => []
  | windows, .allow key now :: rest =>
      ⟨key, now, (meter limit (windows key) now).2,
          (meter limit (windows key) now).1.startedAt⟩ ::
        meterAnswers limit (Function.update windows key (some (meter limit (windows key) now).1))
          rest
  | windows, .sweep _ :: rest => meterAnswers limit windows rest

/-- No later call is counted in the window. -/
def Over (window : Option RateWindow) (clock : Int) : Prop :=
  ∀ w ∈ window, minute ≤ clock - w.startedAt

theorem Over.later {window : Option RateWindow} {clock now : Int} (expired : Over window clock)
    (later : clock ≤ now) : Over window now := by
  intro w held
  have before := expired w held
  omega

theorem meter_over {limit now : Int} {window : Option RateWindow} (expired : Over window now) :
    meter limit window now = (⟨1, now⟩, true) := by
  cases window with
  | none => rfl
  | some w => rw [meter, if_pos (expired w rfl)]

end Meter

section Refinement
variable {limit : Int} {limiter : RateLimiter} {windows : String → Option RateWindow}

/-- The limiter holds the window of every key, or none where that window is over. -/
def Tracks (limiter : RateLimiter) (windows : String → Option RateWindow) (clock : Int) : Prop :=
  ∀ key, limiter.windows.get? key = windows key ∨
    limiter.windows.get? key = none ∧ Over (windows key) clock

theorem Tracks.later {clock now : Int} (tracks : Tracks limiter windows clock)
    (later : clock ≤ now) : Tracks limiter windows now := fun key =>
  (tracks key).imp id fun gone => ⟨gone.1, gone.2.later later⟩

theorem newRateLimiter_tracks (limit created clock : Int) :
    Tracks (newRateLimiter limit created) (fun _ => none) clock := fun _ => Or.inl rfl

/-- What a sweep throws away has been over for a minute. -/
theorem sweepLocked_tracks {now : Int} (tracks : Tracks limiter windows now) :
    Tracks (limiter.sweepLocked now) windows now := by
  rw [RateLimiter.sweepLocked]
  split
  · exact tracks
  · intro key
    cases found : limiter.windows.get? key with
    | none =>
        have absent : (limiter.windows.filter fun _ w =>
            !decide (w.startedAt < now - 2 * minute)).get? key = none := by
          by_contra held
          obtain ⟨w, kept⟩ := Option.ne_none_iff_exists'.mp held
          rw [InsertionMap.get?_filter_eq_some_iff, found] at kept
          cases kept.1
        rcases tracks key with same | gone
        · exact Or.inl (absent.trans (found.symm.trans same))
        · exact Or.inr ⟨absent, gone.2⟩
    | some w =>
        have held : windows key = some w := by
          rcases tracks key with same | gone
          · exact same.symm.trans found
          · rw [found] at gone
            cases gone.1
        by_cases old : w.startedAt < now - 2 * minute
        · refine Or.inr ⟨?_, ?_⟩
          · by_contra kept
            obtain ⟨other, stays⟩ := Option.ne_none_iff_exists'.mp kept
            rw [InsertionMap.get?_filter_eq_some_iff, found] at stays
            obtain ⟨same, young⟩ := stays
            cases same
            simp [old] at young
          · intro other same
            rw [held] at same
            cases same
            unfold minute at old ⊢
            omega
        · refine Or.inl ?_
          rw [held, InsertionMap.get?_filter_eq_some_iff]
          exact ⟨found, by simpa using old⟩

theorem sweepLocked_limit (limiter : RateLimiter) (now : Int) : (limiter.sweepLocked now).limit = limiter.limit := by
  rw [RateLimiter.sweepLocked]
  split <;> rfl

theorem countCall_limit (limiter : RateLimiter) (key : String) (now : Int) :
    (limiter.countCall key now).1.limit = limiter.limit := by
  rw [RateLimiter.countCall]
  repeat' split
  all_goals rfl

/-- `countCall` answers as the window of its key does, and leaves what that leaves. -/
theorem countCall_meter (key : String) {now : Int} (tracks : Tracks limiter windows now) :
    (limiter.countCall key now).2 = (meter limiter.limit (windows key) now).2 ∧
      (limiter.countCall key now).1.windows.get? key =
        some (meter limiter.limit (windows key) now).1 ∧
      ∀ other, other ≠ key →
        (limiter.countCall key now).1.windows.get? other = limiter.windows.get? other := by
  have kept : ∀ window other, other ≠ key →
      (limiter.windows.set key window).get? other = limiter.windows.get? other :=
    fun window other different => InsertionMap.get?_set_ne _ window different
  cases found : limiter.windows.get? key with
  | none =>
      have expired : Over (windows key) now := by
        rcases tracks key with same | gone
        · rw [← same, found]
          nofun
        · exact gone.2
      simp only [RateLimiter.countCall, found, meter_over expired, InsertionMap.get?_set_self, true_and]
      exact kept _
  | some w =>
      have held : windows key = some w := by
        rcases tracks key with same | gone
        · exact same.symm.trans found
        · rw [found] at gone
          cases gone.1
      simp only [RateLimiter.countCall, found, held, meter]
      split
      · simp only [InsertionMap.get?_set_self, true_and]
        exact kept _
      · split
        · exact ⟨rfl, found, fun _ _ => rfl⟩
        · simp only [InsertionMap.get?_set_self, true_and]
          exact kept _

theorem countCall_tracks (key : String) {now : Int} (tracks : Tracks limiter windows now) :
    Tracks (limiter.countCall key now).1
      (Function.update windows key (some (meter limiter.limit (windows key) now).1)) now := by
  obtain ⟨_, own, others⟩ := countCall_meter key tracks
  intro other
  by_cases same : other = key
  · subst same
    rw [Function.update_self]
    exact Or.inl own
  · rw [Function.update_of_ne same, others other same]
    exact tracks other

theorem answer_meter (key : String) {now : Int} (tracks : Tracks limiter windows now) :
    RateLimiter.answer key now (limiter.countCall key now) =
      ⟨key, now, (meter limiter.limit (windows key) now).2,
        (meter limiter.limit (windows key) now).1.startedAt⟩ := by
  obtain ⟨same, own, _⟩ := countCall_meter key tracks
  rw [RateLimiter.answer, same, own]
  rfl

/-- The calls come one after the other, from this moment on. -/
def Ordered (clock : Int) (calls : List LimiterCall) : Prop :=
  (∀ call ∈ calls, clock ≤ call.now) ∧ calls.Pairwise (·.now ≤ ·.now)

theorem Ordered.cons {clock : Int} {call : LimiterCall} {rest : List LimiterCall}
    (ordered : Ordered clock (call :: rest)) : clock ≤ call.now ∧ Ordered call.now rest :=
  ⟨ordered.1 call List.mem_cons_self, (List.pairwise_cons.mp ordered.2).1,
    (List.pairwise_cons.mp ordered.2).2⟩

theorem answers_meter (calls : List LimiterCall) {clock : Int} (positive : 0 < limiter.limit)
    (tracks : Tracks limiter windows clock) (ordered : Ordered clock calls) :
    limiter.answers calls = meterAnswers limiter.limit windows calls := by
  induction calls generalizing limiter windows clock with
  | nil => rfl
  | cons call rest ih =>
      obtain ⟨later, ordered⟩ := ordered.cons
      have current := sweepLocked_tracks (tracks.later later)
      cases call with
      | allow key now =>
          have swept : Tracks (limiter.sweepLocked now) windows now := current
          have limited := sweepLocked_limit limiter now
          have allowed : limiter.allow key now = (limiter.sweepLocked now).countCall key now :=
            if_neg (Int.not_le.mpr positive)
          have kept := countCall_limit (limiter.sweepLocked now) key now
          have answered := answer_meter key swept
          have next := countCall_tracks key swept
          rw [limited] at kept answered next
          rw [RateLimiter.answers, meterAnswers, allowed, answered,
            ih (kept.symm ▸ positive) next ordered, kept]
      | sweep now =>
          have swept : Tracks (limiter.sweepLocked now) windows now := current
          have limited := sweepLocked_limit limiter now
          rw [RateLimiter.answers, meterAnswers, ih (limited.symm ▸ positive) swept ordered, limited]

theorem answersUnswept_meter (calls : List LimiterCall) {clock : Int}
    (positive : 0 < limiter.limit) (tracks : Tracks limiter windows clock)
    (ordered : Ordered clock calls) :
    limiter.answersUnswept calls = meterAnswers limiter.limit windows calls := by
  induction calls generalizing limiter windows clock with
  | nil => rfl
  | cons call rest ih =>
      obtain ⟨later, ordered⟩ := ordered.cons
      cases call with
      | allow key now =>
          have current : Tracks limiter windows now := tracks.later later
          have allowed : limiter.allowUnswept key now = limiter.countCall key now :=
            if_neg (Int.not_le.mpr positive)
          have kept := countCall_limit limiter key now
          rw [RateLimiter.answersUnswept, meterAnswers, allowed, answer_meter key current,
            ih (kept.symm ▸ positive) (countCall_tracks key current) ordered, kept]
      | sweep now =>
          rw [RateLimiter.answersUnswept, meterAnswers, ih positive (tracks.later later) ordered]

/-- The answers for a key are those of its own calls. -/
theorem meterAnswers_alone (limit : Int) (key : String) (calls : List LimiterCall)
    {alone : String → Option RateWindow} (same : windows key = alone key) :
    (meterAnswers limit windows calls).filter (·.key == key) =
      meterAnswers limit alone (calls.filter (·.asks key)) := by
  induction calls generalizing windows alone with
  | nil => rfl
  | cons call rest ih =>
      cases call with
      | allow asked now =>
          by_cases own : asked = key
          · subst own
            have next : ∀ window, (meterAnswers limit (Function.update windows asked window)
                rest).filter (·.key == asked) = meterAnswers limit
                  (Function.update alone asked window) (rest.filter (·.asks asked)) :=
              fun window => ih (by rw [Function.update_self, Function.update_self])
            simp only [meterAnswers, LimiterCall.asks, beq_self_eq_true, List.filter_cons_of_pos,
              next, same]
          · have next : ∀ window, (meterAnswers limit (Function.update windows asked window)
                rest).filter (·.key == key) = meterAnswers limit alone
                  (rest.filter (·.asks key)) :=
              fun window => ih (by rw [Function.update_of_ne (Ne.symm own), same])
            simp only [meterAnswers, LimiterCall.asks, beq_iff_eq, own, not_false_eq_true,
              List.filter_cons_of_neg, next]
      | sweep now =>
          simp only [meterAnswers, LimiterCall.asks, Bool.false_eq_true, not_false_eq_true,
            List.filter_cons_of_neg, ih same]

end Refinement

/-! How many calls a window lets through, and how many windows a minute meets. -/
section Bounds
variable {limit : Int} {window : Option RateWindow} {clock now : Int} {granted : List RateAnswer}

/-- The allowed calls with a key are counted in windows of a minute. -/
structure Metered (limit : Int) (window : Option RateWindow) (clock : Int)
    (granted : List RateAnswer) : Prop where
  earlier : ∀ one ∈ granted, one.startedAt + minute ≤ clock ∨
    ∃ w ∈ window, one.startedAt = w.startedAt
  current : ∀ w ∈ window, w.startedAt ≤ clock ∧ (w.count : Int) ≤ limit ∧
    granted.countP (·.startedAt = w.startedAt) = w.count ∧
    ∀ one ∈ granted, one.startedAt = w.startedAt ∨ one.startedAt + minute ≤ w.startedAt
  full : ∀ start, (granted.countP (·.startedAt = start) : Int) ≤ limit
  inside : ∀ one ∈ granted, one.startedAt ≤ one.now ∧ one.now < one.startedAt + minute
  apart : ∀ one ∈ granted, ∀ other ∈ granted, one.startedAt = other.startedAt ∨
    one.startedAt + minute ≤ other.startedAt ∨ other.startedAt + minute ≤ one.startedAt

theorem Metered.start (positive : 0 < limit) (clock : Int) : Metered limit none clock [] :=
  ⟨nofun, nofun, fun _ => Int.le_of_lt positive, nofun, nofun⟩

theorem Metered.later (metered : Metered limit window clock granted) (later : clock ≤ now) :
    Metered limit window now granted := by
  refine ⟨?_, ?_, metered.full, metered.inside, metered.apart⟩
  · intro one member
    exact (metered.earlier one member).imp (fun before => before.trans later) id
  · intro w held
    obtain ⟨started, rest⟩ := metered.current w held
    exact ⟨started.trans later, rest⟩

/-- One more allowed call: every other one is in its window or a minute before it. -/
theorem Metered.grant (metered : Metered limit window clock granted)
    {w : RateWindow} {answer : RateAnswer} (counted : answer.startedAt = w.startedAt)
    (taken : answer.now = now) (started : w.startedAt ≤ now) (running : now < w.startedAt + minute)
    (others : ∀ one ∈ granted, one.startedAt = w.startedAt ∨ one.startedAt + minute ≤ w.startedAt)
    (count : granted.countP (·.startedAt = w.startedAt) + 1 = w.count)
    (room : (w.count : Int) ≤ limit) :
    Metered limit (some w) now (granted ++ [answer]) := by
  have near : ∀ one ∈ granted ++ [answer],
      one.startedAt = w.startedAt ∨ one.startedAt + minute ≤ w.startedAt := by
    intro one member
    rcases List.mem_append.mp member with old | new
    · exact others one old
    · rw [List.mem_singleton.mp new]
      exact Or.inl counted
  -- Only the new call is added to the window's own count.
  have total : (granted ++ [answer]).countP (·.startedAt = w.startedAt) = w.count := by
    rw [List.countP_append, List.countP_singleton, if_pos (by simp [counted])]
    exact count
  refine ⟨?_, ?_, ?_, ?_, ?_⟩
  · intro one member
    exact (near one member).symm.imp (fun before => before.trans started)
      fun same => ⟨w, rfl, same⟩
  · rintro _ ⟨⟩
    exact ⟨started, room, total, near⟩
  · intro start
    by_cases same : start = w.startedAt
    · rw [same, total]
      exact room
    · -- Windows that started at another time keep their calls.
      have apart : ¬ decide (answer.startedAt = start) = true := by
        simpa [counted] using Ne.symm same
      rw [List.countP_append, List.countP_singleton, if_neg apart]
      exact metered.full start
  · intro one member
    rcases List.mem_append.mp member with old | new
    · exact metered.inside one old
    · rw [List.mem_singleton.mp new, counted, taken]
      exact ⟨started, running⟩
  · intro one first other second
    rcases List.mem_append.mp first with old | new
    · rcases List.mem_append.mp second with older | newer
      · exact metered.apart one old other older
      · rw [List.mem_singleton.mp newer, counted]
        exact (others one old).imp id Or.inl
    · rw [List.mem_singleton.mp new, counted]
      exact (near other second).imp Eq.symm Or.inr

theorem countP_eq_zero_of_before {start : Int}
    (before : ∀ one ∈ granted, one.startedAt + minute ≤ start) :
    granted.countP (·.startedAt = start) = 0 := by
  rw [List.countP_eq_zero]
  intro one member same
  have early := before one member
  rw [of_decide_eq_true same, minute] at early
  omega

theorem Metered.meter (metered : Metered limit window clock granted) (later : clock ≤ now)
    (positive : 0 < limit) (key : String) :
    Metered limit (some (Relay.meter limit window now).1) now
      (granted ++ if (Relay.meter limit window now).2 then
        [⟨key, now, true, (Relay.meter limit window now).1.startedAt⟩] else []) := by
  by_cases expired : Over window now
  · -- the call opens a window, a minute after every other one has started
    have before : ∀ one ∈ granted, one.startedAt + minute ≤ now := by
      intro one member
      rcases metered.earlier one member with early | ⟨w, held, same⟩
      · exact early.trans later
      · have passed := expired w held
        omega
    rw [meter_over expired, if_pos rfl]
    refine metered.grant rfl rfl le_rfl ?_ (fun one member => Or.inr (before one member))
      ?_ ?_
    · change now < now + minute
      unfold minute
      omega
    · rw [countP_eq_zero_of_before before]
    · change ((1 : Nat) : Int) ≤ limit
      omega
  · obtain ⟨w, held, running⟩ : ∃ w ∈ window, ¬ minute ≤ now - w.startedAt := by
      simpa [Over] using expired
    cases held
    obtain ⟨started, room, count, others⟩ := metered.current w rfl
    simp only [Relay.meter, if_neg running]
    split
    · simpa using metered.later later
    · rename_i below
      refine metered.grant rfl rfl (started.trans later) ?_ others ?_ ?_
      · change now < w.startedAt + minute
        omega
      · rw [count]
      · change ((w.count + 1 : Nat) : Int) ≤ limit
        omega

/-- The allowed calls with a key. -/
def grants (key : String) (answers : List RateAnswer) : List RateAnswer :=
  answers.filter fun one => one.key == key && one.allowed

theorem grants_cons (key : String) (one : RateAnswer) (rest : List RateAnswer) :
    grants key (one :: rest) =
      (if one.key == key && one.allowed then [one] else []) ++ grants key rest := by
  rw [grants, List.filter_cons]
  split <;> rfl

theorem meterAnswers_metered (calls : List LimiterCall) (key : String) (positive : 0 < limit)
    (windows : String → Option RateWindow)
    (metered : Metered limit (windows key) clock granted) (ordered : Ordered clock calls) :
    ∃ window clock, Metered limit window clock
      (granted ++ grants key (meterAnswers limit windows calls)) := by
  induction calls generalizing windows clock granted with
  | nil => exact ⟨windows key, clock, by simpa [meterAnswers, grants] using metered⟩
  | cons call rest ih =>
      obtain ⟨later, ordered⟩ := ordered.cons
      cases call with
      | allow asked now =>
          have later : clock ≤ now := later
          have ordered : Ordered now rest := ordered
          rw [meterAnswers, grants_cons, ← List.append_assoc]
          by_cases own : asked = key
          · subst own
            have next := metered.meter later positive asked
            refine ih _ ?_ ordered
            rw [Function.update_self]
            cases allowed : (meter limit (windows asked) now).2 <;>
              simpa [allowed] using next
          · refine ih _ ?_ ordered
            rw [Function.update_of_ne (Ne.symm own)]
            simpa [own] using metered.later later
      | sweep now =>
          exact ih windows (metered.later later) ordered

/-- Allowed calls whose windows start together are no more than the limit. -/
theorem Metered.together (metered : Metered limit window clock granted) (positive : 0 < limit)
    (chosen : RateAnswer → Bool)
    (same : ∀ one ∈ granted, ∀ other ∈ granted, chosen one = true → chosen other = true →
      one.startedAt = other.startedAt) : (granted.countP chosen : Int) ≤ limit := by
  by_cases some : ∃ one ∈ granted, chosen one = true
  · obtain ⟨one, member, taken⟩ := some
    have fewer : granted.countP chosen ≤ granted.countP (·.startedAt = one.startedAt) := by
      refine List.countP_mono_left fun other listed also => ?_
      exact decide_eq_true (same other listed one member also taken)
    exact (Int.ofNat_le.mpr fewer).trans (metered.full one.startedAt)
  · have none : granted.countP chosen = 0 := by
      rw [List.countP_eq_zero]
      intro one member taken
      exact some ⟨one, member, taken⟩
    rw [none]
    exact Int.le_of_lt positive

/-- A minute meets two windows at most: one that started before it, one that starts in it. -/
theorem Metered.minute_bound (metered : Metered limit window clock granted)
    (positive : 0 < limit) (opening : Int) :
    (granted.countP (fun one => opening ≤ one.now ∧ one.now < opening + minute) : Int) ≤
      2 * limit := by
  have before := metered.together positive
    (fun one => decide (opening ≤ one.now ∧ one.now < opening + minute) &&
      decide (one.startedAt < opening)) (by
        intro one first other second taken also
        simp only [Bool.and_eq_true, decide_eq_true_eq] at taken also
        have left := metered.inside one first
        have right := metered.inside other second
        have apart := metered.apart one first other second
        omega)
  have within := metered.together positive
    (fun one => decide (opening ≤ one.now ∧ one.now < opening + minute) &&
      !decide (one.startedAt < opening)) (by
        intro one first other second taken also
        simp only [Bool.and_eq_true, decide_eq_true_eq, Bool.not_eq_true',
          decide_eq_false_iff_not] at taken also
        have left := metered.inside one first
        have right := metered.inside other second
        have apart := metered.apart one first other second
        omega)
  rw [List.countP_eq_countP_filter_add granted _ (fun one => decide (one.startedAt < opening)),
    List.countP_filter, List.countP_filter]
  push_cast
  omega

end Bounds

section Claims
variable {limit : Int} {calls : List LimiterCall}

theorem ordered_of_pairwise (ordered : calls.Pairwise (·.now ≤ ·.now)) :
    ∃ clock, Ordered clock calls := by
  cases calls with
  | nil => exact ⟨0, nofun, ordered⟩
  | cons call rest =>
      refine ⟨call.now, ?_, ordered⟩
      intro other member
      rcases List.mem_cons.mp member with rfl | later
      · exact le_rfl
      · exact (List.pairwise_cons.mp ordered).1 other later

/-- With a limit and a clock that does not go back: sweeping does not show, a key's answers
depend on its own calls only, a window lets through no more than the limit and a minute
no more than twice that. -/
theorem limiter_bounded (created : Int) (positive : 0 < limit)
    (ordered : calls.Pairwise (·.now ≤ ·.now)) :
    (newRateLimiter limit created).answers calls =
        (newRateLimiter limit created).answersUnswept calls ∧
      ∀ key,
        ((newRateLimiter limit created).answers calls).filter (·.key == key) =
          (newRateLimiter limit created).answers (calls.filter (·.asks key)) ∧
        (∀ one ∈ grants key ((newRateLimiter limit created).answers calls),
          one.startedAt ≤ one.now ∧ one.now < one.startedAt + minute) ∧
        (∀ start, ((grants key ((newRateLimiter limit created).answers calls)).countP
          (·.startedAt = start) : Int) ≤ limit) ∧
        ∀ opening, ((grants key ((newRateLimiter limit created).answers calls)).countP
          (fun one => opening ≤ one.now ∧ one.now < opening + minute) : Int) ≤ 2 * limit := by
  obtain ⟨clock, timely⟩ := ordered_of_pairwise ordered
  have swept := answers_meter calls positive (newRateLimiter_tracks limit created clock) timely
  refine ⟨swept.trans (answersUnswept_meter calls positive
    (newRateLimiter_tracks limit created clock) timely).symm, ?_⟩
  intro key
  obtain ⟨window, last, metered⟩ := meterAnswers_metered calls key positive
    (fun _ => none) (Metered.start positive clock) timely
  have few : Ordered clock (calls.filter (·.asks key)) :=
    ⟨fun call member => timely.1 call (List.mem_of_mem_filter member), timely.2.filter _⟩
  have alone := answers_meter (calls.filter (·.asks key)) positive
    (newRateLimiter_tracks limit created clock) few
  have separate : (meterAnswers limit (fun _ => none) calls).filter (·.key == key) =
      meterAnswers limit (fun _ => none) (calls.filter (·.asks key)) :=
    meterAnswers_alone limit key calls rfl
  rw [swept, alone]
  exact ⟨separate, metered.inside, metered.full, metered.minute_bound positive⟩

/-- Calls of another key sweep twice; the third call in a window stays refused. -/
def interleaved : List LimiterCall :=
  [.allow "a" 0, .allow "b" minute, .allow "a" (minute + 1), .allow "a" (minute + 2),
    .allow "a" (minute + 3), .sweep (minute + 4), .allow "b" (2 * minute),
    .allow "a" (2 * minute + 1)]

theorem interleaved_bounded :
    ((newRateLimiter 2 0).answers interleaved).map RateAnswer.allowed =
        [true, true, true, true, false, true, true] ∧
      (newRateLimiter 2 0).answers interleaved = (newRateLimiter 2 0).answersUnswept interleaved :=
  ⟨by decide, (limiter_bounded 0 (by decide) (by decide)).1⟩

end Claims

end OnlyTwo.Relay
