import OnlyTwo.JitterBuffer
import OnlyTwo.VoiceCapture
import Mathlib.Order.Lattice

/-!
The playing half of `VoiceService` of client/src/features/audio/VoiceService.ts: `play`,
`enablePlayback`, `flushPlayback`, `stopPlayback` and what else touches their fields. A call of
`play` or `enablePlayback` awaits the audio context; it may come back after anything else has
happened. Both clocks are read at an event and may show anything there, since a new context
starts a new clock. The time of a context stands still while a handler runs, `performance.now`
need not. Of their numbers the results use no more than `Clocks` says.
-/

namespace OnlyTwo.VoicePlayback

open Profiles (Voice)
open VoiceCapture (VoiceFrame decodeInboundVoiceFrame)

/-- `later t ms` is `t + ms / 1000`, `beyond t now ms` is `t - now > ms / 1000`, and
`stale t now ms` is `now - t > ms`. -/
structure Clocks (Time : Type) [LinearOrder Time] where
  zero : Time
  later : Time → Nat → Time
  beyond : Time → Time → Nat → Bool
  stale : Time → Time → Nat → Bool
  le_later : ∀ time ms, time ≤ later time ms
  beyond_self : ∀ time ms, beyond time time ms = false

structure PlaybackFrame (Time : Type) where
  frame : VoiceFrame
  pcm16 : Bytes
  receivedAt : Time
  deriving DecidableEq

def PlaybackFrame.seq {Time : Type} (item : PlaybackFrame Time) : Int := item.frame.seq

inductive VoiceDropReason where
  | playbackStale
  | playbackLeadReset
  deriving DecidableEq, Repr

/-- A source that was started, with the time of the context and the bound at that moment. -/
structure Scheduled (Time : Type) where
  source : Nat
  item : PlaybackFrame Time
  startAt : Time
  currentTime : Time
  now : Time
  maxLatencyMs : Nat
  deriving DecidableEq

/-- What playback does, and where it starts its order or its time line afresh. -/
inductive Note (Time : Type) where
  | refused (reason : String)
  | admitted (frame : VoiceFrame) (pcm16 : Bytes)
  | dropped (reason : VoiceDropReason)
  | scheduled (entry : Scheduled Time)
  | ended (source : Nat)
  | stopped (source : Nat)
  | emptied
  | rewound
  deriving DecidableEq

/-- The sources are numbered as they are made; `awaiting` holds the calls that await the context,
those of `play` with their frame. -/
structure VoiceService (Time : Type) where
  voice : Voice
  outputCtx : Bool
  jitter : JitterBuffer (PlaybackFrame Time)
  playbackTimer : Bool
  nextPlaybackTime : Time
  playbackBlocked : Bool
  scheduledSources : List Nat
  sources : Nat
  awaiting : List (Option (VoiceFrame × Bytes))

inductive Event (Time : Type) where
  | setProfile (voice : Voice)
  | opened
  | unblocked
  | play (frame : VoiceFrame) (opens : Bool)
  | enablePlayback (opens : Bool)
  | resumed (call : Nat) (runs : Bool) (currentTime now : Time)
  | flushPlayback (currentTime : Time) (now : Nat → Time)
  | ended (source : Nat)
  | stopPlayback
  | stop

namespace VoiceService

section Playback
variable {Time : Type} [LinearOrder Time] (clocks : Clocks Time)

def create (voice : Voice) : VoiceService Time where
  voice := voice
  outputCtx := false
  jitter := .create voice.jitterMaxFrames
  playbackTimer := false
  nextPlaybackTime := clocks.zero
  playbackBlocked := false
  scheduledSources := []
  sources := 0
  awaiting := []

def setProfile (self : VoiceService Time) (voice : Voice) : VoiceService Time :=
  { self with voice := voice, jitter := .create voice.jitterMaxFrames }

/-- `enablePlayback` up to its `await`; `opens` tells whether a context can be made. -/
def enablePlayback (self : VoiceService Time) (opens : Bool)
    (call : Option (VoiceFrame × Bytes)) : VoiceService Time :=
  if self.outputCtx || opens then
    { self with outputCtx := true, awaiting := self.awaiting ++ [call] }
  else { self with playbackBlocked := true }

def play (self : VoiceService Time) (frame : VoiceFrame) (opens : Bool) :
    VoiceService Time × List (Note Time) :=
  match decodeInboundVoiceFrame frame self.voice with
  | .error reason => (self, [.refused reason])
  | .ok pcm16 => (self.enablePlayback opens (some (frame, pcm16)), [.admitted frame pcm16])

/-- `play` once the context runs. A call that `stop` has overtaken still buffers its frame. -/
def receive (self : VoiceService Time) (item : PlaybackFrame Time) (currentTime : Time) :
    VoiceService Time × List (Note Time) :=
  let pushed := { self with jitter := self.jitter.push PlaybackFrame.seq item }
  if !self.playbackTimer && self.outputCtx then
    ({ pushed with
        playbackTimer := true
        nextPlaybackTime := clocks.later currentTime self.voice.jitterTargetMs }, [.rewound])
  else (pushed, [])

def resume (self : VoiceService Time) (call : Nat) (runs : Bool) (currentTime now : Time) :
    Option (VoiceService Time × List (Note Time)) :=
  (self.awaiting[call]?).map fun awaited =>
    let back := { self with
      playbackBlocked := !runs
      awaiting := self.awaiting.eraseIdx call }
    match awaited with
    | some (frame, pcm16) =>
        if runs then back.receive clocks ⟨frame, pcm16, now⟩ currentTime else (back, [])
    | none => (back, [])

/-- The pops of `flushPlayback`: what is left, the number of stale frames, and the frame to play
with the time it was found fresh. Every round takes a frame away, so their number bounds the loop;
`now` is what the clock shows in a round. -/
def popFresh (now : Nat → Time) (maxLatencyMs : Nat) :
    Nat → JitterBuffer (PlaybackFrame Time) →
      JitterBuffer (PlaybackFrame Time) × Nat × Option (PlaybackFrame Time × Time)
  | 0, jitter => (jitter, 0, none)
  | rounds + 1, jitter =>
      match jitter.pop with
      | (left, none) => (left, 0, none)
      | (left, some item) =>
          if clocks.stale item.receivedAt (now rounds) maxLatencyMs then
            let later := popFresh now maxLatencyMs rounds left
            (later.1, later.2.1 + 1, later.2.2)
          else (left, 0, some (item, now rounds))

def flushPlayback (self : VoiceService Time) (currentTime : Time) (now : Nat → Time) :
    VoiceService Time × List (Note Time) :=
  if !self.outputCtx then (self, [])
  else if clocks.beyond self.nextPlaybackTime currentTime self.voice.maxQueuedLatencyMs then
    ({ self with
        jitter := self.jitter.clear
        nextPlaybackTime := clocks.later currentTime self.voice.jitterTargetMs },
      [.emptied, .rewound, .dropped .playbackLeadReset])
  else
    let popped := popFresh clocks now self.voice.maxQueuedLatencyMs (self.jitter.size + 1)
      self.jitter
    let drops := List.replicate popped.2.1 (Note.dropped .playbackStale)
    match popped.2.2 with
    | none => ({ self with jitter := popped.1 }, drops)
    | some (item, read) =>
        let startAt := max currentTime self.nextPlaybackTime
        ({ self with
            jitter := popped.1
            scheduledSources := self.scheduledSources ++ [self.sources]
            sources := self.sources + 1
            nextPlaybackTime := clocks.later startAt item.frame.frameMs },
          drops ++ [.scheduled ⟨self.sources, item, startAt, currentTime, read,
            self.voice.maxQueuedLatencyMs⟩])

def stopPlayback (self : VoiceService Time) : VoiceService Time × List (Note Time) :=
  ({ self with
      jitter := self.jitter.clear
      nextPlaybackTime := clocks.zero
      playbackTimer := false
      scheduledSources := [] },
    [.emptied, .rewound] ++ self.scheduledSources.map .stopped)

def stop (self : VoiceService Time) : VoiceService Time × List (Note Time) :=
  let stopped := self.stopPlayback clocks
  ({ stopped.1 with outputCtx := false, playbackBlocked := false }, stopped.2)

/-- A flush needs the interval, and a call that comes back one that awaits. -/
def step (self : VoiceService Time) :
    Event Time → Option (VoiceService Time × List (Note Time))
  | .setProfile voice => some (self.setProfile voice, [.emptied])
  | .opened => some ({ self with outputCtx := true }, [])
  | .unblocked => some ({ self with playbackBlocked := false }, [])
  | .play frame opens => some (self.play frame opens)
  | .enablePlayback opens => some (self.enablePlayback opens none, [])
  | .resumed call runs currentTime now => self.resume clocks call runs currentTime now
  | .flushPlayback currentTime now =>
      if self.playbackTimer then some (self.flushPlayback clocks currentTime now) else none
  | .ended source =>
      if source ∈ self.scheduledSources then
        some ({ self with scheduledSources := self.scheduledSources.erase source },
          [.ended source])
      else none
  | .stopPlayback => some (self.stopPlayback clocks)
  | .stop => some (self.stop clocks)

/-- The timer of `flushPlayback` and the calls of the session, in any order. -/
def machine : Machine (VoiceService Time) (Event Time) (Note Time) := ⟨step clocks⟩

end Playback

end VoiceService

section Since
variable {Time : Type}

/-- The sources started since the last note of a kind. -/
def since (marks : Note Time → Bool) (history : List (Note Time)) : List (Scheduled Time) :=
  history.foldl (fun recent note =>
    if marks note then []
    else match note with
      | .scheduled entry => recent ++ [entry]
      | _ => recent) []

def Note.empties : Note Time → Bool
  | .emptied => true
  | _ => false

def Note.rewinds : Note Time → Bool
  | .rewound => true
  | _ => false

/-- Neither a start of a source nor a mark. -/
def Note.plain : Note Time → Bool
  | .scheduled _ | .emptied | .rewound => false
  | _ => true

variable {marks : Note Time → Bool} {past notes : List (Note Time)}

/-- Notes without a start leave the sources or forget them all. -/
theorem since_unscheduled (silent : ∀ entry, .scheduled entry ∉ notes) :
    since marks (past ++ notes) = if notes.any marks then [] else since marks past := by
  rw [since, List.foldl_append, ← since]
  generalize since marks past = recent
  induction notes generalizing recent with
  | nil => rfl
  | cons note rest ih =>
      have later : ∀ entry, .scheduled entry ∉ rest := fun entry member =>
        silent entry (List.mem_cons_of_mem _ member)
      rw [List.foldl_cons, ih later, List.any_cons]
      by_cases marked : marks note = true
      · simp [marked]
      · cases note with
        | scheduled entry => exact absurd List.mem_cons_self (silent entry)
        | _ => simp [marked]

theorem empties_of_plain {note : Note Time} (plain : note.plain = true) : note.empties = false := by
  cases note with
  | emptied => cases plain
  | _ => rfl

theorem rewinds_of_plain {note : Note Time} (plain : note.plain = true) : note.rewinds = false := by
  cases note with
  | rewound => cases plain
  | _ => rfl

theorem unscheduled_of_plain (silent : ∀ note ∈ notes, note.plain = true) :
    ∀ entry, .scheduled entry ∉ notes := by
  intro entry member
  exact Bool.false_ne_true (silent _ member)

theorem since_plain (silent : ∀ note ∈ notes, note.plain = true)
    (spares : ∀ note : Note Time, note.plain = true → marks note = false) :
    since marks (past ++ notes) = since marks past := by
  rw [since_unscheduled (unscheduled_of_plain silent), if_neg]
  simp only [List.any_eq_true, not_exists, not_and]
  intro note member marked
  rw [spares note (silent note member)] at marked
  cases marked

theorem since_scheduled {entry : Scheduled Time} (unmarked : marks (.scheduled entry) = false) :
    since marks (past ++ [.scheduled entry]) = since marks past ++ [entry] := by
  rw [since, List.foldl_append, ← since]
  simp [unmarked]

theorem mem_of_marked {entry : Scheduled Time} {mark : Note Time} (marks : mark ≠ .scheduled entry)
    (member : .scheduled entry ∈ past ++ [mark]) : .scheduled entry ∈ past := by
  rcases List.mem_append.mp member with old | new
  · exact old
  · exact absurd (List.mem_singleton.mp new).symm marks

/-- Nothing is buffered yet that anything could have been popped before. -/
theorem clear_playing (jitter : JitterBuffer (PlaybackFrame Time)) :
    JitterBuffer.Playing PlaybackFrame.seq jitter.clear jitter.clear [] :=
  ⟨JitterBuffer.clear_ordered jitter, rfl, Nat.zero_le _, nofun, List.Pairwise.nil⟩

theorem get?_evict (rounds : Nat) {jitter : JitterBuffer (PlaybackFrame Time)} {key : Int}
    {item : PlaybackFrame Time} (found : (JitterBuffer.evict rounds jitter).frames.get? key = some item) :
    jitter.frames.get? key = some item := by
  induction rounds generalizing jitter with
  | zero => exact found
  | succ rounds ih =>
      rw [JitterBuffer.evict] at found
      split at found
      · have later := ih found
        unfold JitterBuffer.evictOldest at later
        split at later
        · exact later
        · exact JitterBuffer.get?_of_delete later
      · exact found

theorem dropped_plain (reason : VoiceDropReason) (count : Nat) :
    ∀ note ∈ List.replicate count (Note.dropped reason : Note Time), note.plain = true := by
  intro note member
  rw [List.eq_of_mem_replicate member]
  rfl

theorem get?_push {jitter : JitterBuffer (PlaybackFrame Time)} {frame item : PlaybackFrame Time}
    {key : Int} (found : (jitter.push PlaybackFrame.seq frame).frames.get? key = some item) :
    item = frame ∨ jitter.frames.get? key = some item := by
  unfold JitterBuffer.push at found
  split at found
  · exact Or.inr found
  · have stored := get?_evict _ found
    rw [InsertionMap.get?_set] at stored
    split at stored
    · cases stored
      exact Or.inl rfl
    · exact Or.inr stored

end Since

namespace VoiceService

section Order
variable {Time : Type} [LinearOrder Time] {clocks : Clocks Time} {self : VoiceService Time}
  {past notes : List (Note Time)} {currentTime now : Time}

/-- What was started when it was due and not too far ahead, and came from a frame that `play` has
admitted. -/
structure Timely (clocks : Clocks Time) (past : List (Note Time)) (entry : Scheduled Time) :
    Prop where
  due : entry.currentTime ≤ entry.startAt
  near : clocks.beyond entry.startAt entry.currentTime entry.maxLatencyMs = false
  fresh : clocks.stale entry.item.receivedAt entry.now entry.maxLatencyMs = false
  admitted : .admitted entry.item.frame entry.item.pcm16 ∈ past

/-- The sources played since the buffer was emptied are among the popped frames, and the time line
is past the slots of those started since it was rewound. -/
structure Sound (clocks : Clocks Time) (service : VoiceService Time) (past : List (Note Time)) :
    Prop where
  popped : ∃ start popped, JitterBuffer.Playing PlaybackFrame.seq start service.jitter popped ∧
    start.maxFrames = service.voice.jitterMaxFrames ∧
    ((since Note.empties past).map Scheduled.item).Sublist popped
  onward : ∀ entry ∈ since Note.rewinds past,
    clocks.later entry.startAt entry.item.frame.frameMs ≤ service.nextPlaybackTime
  apart : (since Note.rewinds past).Pairwise fun earlier later =>
    clocks.later earlier.startAt earlier.item.frame.frameMs ≤ later.startAt
  timely : ∀ entry, .scheduled entry ∈ past → Timely clocks past entry
  buffered : ∀ key item, service.jitter.frames.get? key = some item →
    .admitted item.frame item.pcm16 ∈ past
  awaited : ∀ frame pcm16, some (frame, pcm16) ∈ service.awaiting → .admitted frame pcm16 ∈ past
  sources : ∀ entry, .scheduled entry ∈ past → entry.source ∈ service.scheduledSources ∨
    .ended entry.source ∈ past ∨ .stopped entry.source ∈ past

theorem Timely.mono {entry : Scheduled Time} (timely : Timely clocks past entry) :
    Timely clocks (past ++ notes) entry :=
  ⟨timely.due, timely.near, timely.fresh, List.mem_append_left _ timely.admitted⟩

theorem create_sound (voice : Voice) : Sound clocks (create clocks voice) [] where
  popped := ⟨_, [], clear_playing (.create voice.jitterMaxFrames), rfl, List.Sublist.refl _⟩
  onward := nofun
  apart := List.Pairwise.nil
  timely := nofun
  buffered := nofun
  awaited := nofun
  sources := nofun

theorem Sound.maxFrames (sound : Sound clocks self past) :
    self.jitter.maxFrames = self.voice.jitterMaxFrames := by
  obtain ⟨start, popped, playing, limit, _⟩ := sound.popped
  exact playing.limit.trans limit

/-- Notes that start nothing and mark nothing, where buffer and time line stay. -/
theorem Sound.noted {after : VoiceService Time} (sound : Sound clocks self past)
    (silent : ∀ note ∈ notes, note.plain = true)
    (same : after.voice = self.voice ∧ after.jitter = self.jitter ∧
      after.nextPlaybackTime = self.nextPlaybackTime)
    (awaited : ∀ frame pcm16, some (frame, pcm16) ∈ after.awaiting →
      .admitted frame pcm16 ∈ past ++ notes)
    (sources : ∀ source ∈ self.scheduledSources, source ∈ after.scheduledSources ∨
      .ended source ∈ notes ∨ .stopped source ∈ notes) : Sound clocks after (past ++ notes) := by
  obtain ⟨voice, jitter, next⟩ := same
  have unscheduled := unscheduled_of_plain silent
  have empties : since Note.empties (past ++ notes) = since Note.empties past :=
    since_plain silent fun _ => empties_of_plain
  have rewinds : since Note.rewinds (past ++ notes) = since Note.rewinds past :=
    since_plain silent fun _ => rewinds_of_plain
  have older : ∀ entry, .scheduled entry ∈ past ++ notes → .scheduled entry ∈ past :=
    fun entry member => (List.mem_append.mp member).resolve_right (unscheduled entry)
  refine ⟨?_, ?_, ?_, fun entry member => (sound.timely entry (older entry member)).mono, ?_,
    awaited, ?_⟩
  · rw [voice, jitter, empties]
    exact sound.popped
  · rw [next, rewinds]
    exact sound.onward
  · rw [rewinds]
    exact sound.apart
  · rw [jitter]
    exact fun key item found => List.mem_append_left _ (sound.buffered key item found)
  · intro entry member
    rcases sound.sources entry (older entry member) with held | ended | stopped
    · rcases sources _ held with still | ended | stopped
      · exact Or.inl still
      · exact Or.inr (Or.inl (List.mem_append_right _ ended))
      · exact Or.inr (Or.inr (List.mem_append_right _ stopped))
    · exact Or.inr (Or.inl (List.mem_append_left _ ended))
    · exact Or.inr (Or.inr (List.mem_append_left _ stopped))

theorem Sound.quiet {after : VoiceService Time} (sound : Sound clocks self past)
    (same : after.voice = self.voice ∧ after.jitter = self.jitter ∧
      after.nextPlaybackTime = self.nextPlaybackTime)
    (awaits : ∀ call ∈ after.awaiting, call ∈ self.awaiting)
    (sources : after.scheduledSources = self.scheduledSources) : Sound clocks after past := by
  have noted : Sound clocks after (past ++ []) := sound.noted nofun same
    (fun frame pcm16 waits => List.mem_append_left _ (sound.awaited frame pcm16 (awaits _ waits)))
    fun source held => Or.inl (sources ▸ held)
  rwa [List.append_nil] at noted

/-- The buffer starts afresh and with it the order of the frames. -/
theorem Sound.emptied (sound : Sound clocks self past) (voice : Voice)
    (jitter : JitterBuffer (PlaybackFrame Time))
    (limit : jitter.maxFrames = voice.jitterMaxFrames) :
    Sound clocks { self with voice := voice, jitter := jitter.clear } (past ++ [.emptied]) := by
  have unscheduled : ∀ entry : Scheduled Time, .scheduled entry ∉ [Note.emptied] := by simp
  have empties : since Note.empties (past ++ [.emptied]) = [] := since_unscheduled unscheduled
  have rewinds : since Note.rewinds (past ++ [.emptied]) = since Note.rewinds past :=
    since_unscheduled unscheduled
  have older : ∀ entry, .scheduled entry ∈ past ++ [.emptied] → .scheduled entry ∈ past :=
    fun entry => mem_of_marked nofun
  refine ⟨?_, ?_, ?_, fun entry member => (sound.timely entry (older entry member)).mono, nofun,
    fun frame pcm16 waits => List.mem_append_left _ (sound.awaited frame pcm16 waits), ?_⟩
  · rw [empties]
    exact ⟨_, [], clear_playing jitter, limit, List.Sublist.refl _⟩
  · rw [rewinds]
    exact sound.onward
  · rw [rewinds]
    exact sound.apart
  · intro entry member
    exact (sound.sources entry (older entry member)).imp_right
      (Or.imp (List.mem_append_left _) (List.mem_append_left _))

/-- The time line starts afresh wherever it likes. -/
theorem Sound.rewound (sound : Sound clocks self past) (timer : Bool) (next : Time) :
    Sound clocks { self with playbackTimer := timer, nextPlaybackTime := next }
      (past ++ [.rewound]) := by
  have unscheduled : ∀ entry : Scheduled Time, .scheduled entry ∉ [Note.rewound] := by simp
  have empties : since Note.empties (past ++ [.rewound]) = since Note.empties past :=
    since_unscheduled unscheduled
  have rewinds : since Note.rewinds (past ++ [.rewound]) = [] := since_unscheduled unscheduled
  have older : ∀ entry, .scheduled entry ∈ past ++ [.rewound] → .scheduled entry ∈ past :=
    fun entry => mem_of_marked nofun
  refine ⟨?_, ?_, ?_, fun entry member => (sound.timely entry (older entry member)).mono,
    fun key item found => List.mem_append_left _ (sound.buffered key item found),
    fun frame pcm16 waits => List.mem_append_left _ (sound.awaited frame pcm16 waits), ?_⟩
  · rw [empties]
    exact sound.popped
  · rw [rewinds]
    exact nofun
  · rw [rewinds]
    exact List.Pairwise.nil
  · intro entry member
    exact (sound.sources entry (older entry member)).imp_right
      (Or.imp (List.mem_append_left _) (List.mem_append_left _))

theorem Sound.pushed {item : PlaybackFrame Time} (sound : Sound clocks self past)
    (admitted : .admitted item.frame item.pcm16 ∈ past) :
    Sound clocks { self with jitter := self.jitter.push PlaybackFrame.seq item } past := by
  obtain ⟨start, popped, playing, limit, among⟩ := sound.popped
  refine ⟨⟨start, popped, playing.push item, limit, among⟩, sound.onward, sound.apart,
    sound.timely, ?_, sound.awaited, sound.sources⟩
  intro key other found
  rcases get?_push found with rfl | old
  · exact admitted
  · exact sound.buffered key other old

/-- The loop pops stale frames, then at most one that is fresh. -/
theorem popFresh_playing (clocks : Clocks Time) (now : Nat → Time) (maxLatencyMs rounds : Nat)
    {start jitter : JitterBuffer (PlaybackFrame Time)} {popped : List (PlaybackFrame Time)}
    (playing : JitterBuffer.Playing PlaybackFrame.seq start jitter popped) :
    ∃ dropped, JitterBuffer.Playing PlaybackFrame.seq start
        (popFresh clocks now maxLatencyMs rounds jitter).1
        (popped ++ dropped ++
          ((popFresh clocks now maxLatencyMs rounds jitter).2.2.map Prod.fst).toList) ∧
      (∀ key item, (popFresh clocks now maxLatencyMs rounds jitter).1.frames.get? key = some item →
        jitter.frames.get? key = some item) ∧
      ∀ item read, (popFresh clocks now maxLatencyMs rounds jitter).2.2 = some (item, read) →
        clocks.stale item.receivedAt read maxLatencyMs = false ∧
          ∃ key, jitter.frames.get? key = some item := by
  induction rounds generalizing jitter popped with
  | zero => exact ⟨[], by simpa [popFresh] using playing, fun _ _ found => found,
      fun _ _ found => absurd found (Option.some_ne_none _).symm⟩
  | succ rounds ih =>
      rcases Nat.eq_zero_or_pos jitter.frames.size with empty | held
      · simp only [popFresh, JitterBuffer.pop_empty empty]
        exact ⟨[], by simpa using playing, fun _ _ found => found,
          fun _ _ found => absurd found (Option.some_ne_none _).symm⟩
      · obtain ⟨item, result, took⟩ := JitterBuffer.pop_popped playing.ordered held
        have after := playing.pop took
        have left : ∀ key other, jitter.pop.1.frames.get? key = some other →
            jitter.frames.get? key = some other := by
          intro key other found
          rw [took.after] at found
          exact JitterBuffer.get?_of_delete found
        rw [popFresh, result]
        dsimp only
        split
        · obtain ⟨dropped, later, fewer, fresh⟩ := ih after
          refine ⟨item :: dropped, by simpa using later, fun key other found =>
            left key other (fewer key other found), fun other read found => ?_⟩
          obtain ⟨young, key, known⟩ := fresh other read found
          exact ⟨young, key, left key other known⟩
        · rename_i young
          refine ⟨[], by simpa using after, left, ?_⟩
          rintro other read ⟨⟩
          exact ⟨by simpa using young, _, took.held⟩

/-- A source starts behind everything on its time line and after everything of its order. -/
theorem Sound.started {jitter : JitterBuffer (PlaybackFrame Time)} {item : PlaybackFrame Time}
    (sound : Sound clocks self past)
    (popped : ∃ start popped, JitterBuffer.Playing PlaybackFrame.seq start jitter
        (popped ++ [item]) ∧ start.maxFrames = self.voice.jitterMaxFrames ∧
      ((since Note.empties past).map Scheduled.item).Sublist popped)
    (fewer : ∀ key other, jitter.frames.get? key = some other →
      self.jitter.frames.get? key = some other)
    (held : ∃ key, self.jitter.frames.get? key = some item)
    (fresh : clocks.stale item.receivedAt now self.voice.maxQueuedLatencyMs = false)
    (near : clocks.beyond self.nextPlaybackTime currentTime self.voice.maxQueuedLatencyMs = false) :
    Sound clocks { self with
        jitter := jitter
        scheduledSources := self.scheduledSources ++ [self.sources]
        sources := self.sources + 1
        nextPlaybackTime :=
          clocks.later (max currentTime self.nextPlaybackTime) item.frame.frameMs }
      (past ++ [.scheduled ⟨self.sources, item, max currentTime self.nextPlaybackTime, currentTime,
        now, self.voice.maxQueuedLatencyMs⟩]) := by
  obtain ⟨start, popped, playing, limit, among⟩ := popped
  obtain ⟨key, known⟩ := held
  have reached : self.nextPlaybackTime ≤
      clocks.later (max currentTime self.nextPlaybackTime) item.frame.frameMs :=
    (le_max_right _ _).trans (clocks.le_later _ _)
  refine ⟨⟨start, popped ++ [item], playing, limit, ?_⟩, ?_, ?_, ?_, ?_, ?_, ?_⟩
  · rw [since_scheduled rfl, List.map_append]
    exact among.append_right _
  · rw [since_scheduled rfl]
    intro entry member
    rcases List.mem_append.mp member with old | new
    · exact (sound.onward entry old).trans reached
    · cases List.mem_singleton.mp new
      exact le_rfl
  · rw [since_scheduled rfl]
    refine List.pairwise_append.mpr ⟨sound.apart, List.pairwise_singleton _ _, ?_⟩
    intro earlier member later new
    cases List.mem_singleton.mp new
    exact (sound.onward earlier member).trans (le_max_right _ _)
  · intro entry member
    rcases List.mem_append.mp member with old | new
    · exact (sound.timely entry old).mono
    · cases List.mem_singleton.mp new
      refine ⟨le_max_left _ _, ?_, fresh, List.mem_append_left _ (sound.buffered key item known)⟩
      rcases max_choice currentTime self.nextPlaybackTime with current | next
      · simp only [current]
        exact clocks.beyond_self currentTime _
      · simp only [next]
        exact near
  · exact fun key other found =>
      List.mem_append_left _ (sound.buffered key other (fewer key other found))
  · exact fun frame pcm16 waits => List.mem_append_left _ (sound.awaited frame pcm16 waits)
  · intro entry member
    rcases List.mem_append.mp member with old | new
    · exact (sound.sources entry old).imp (List.mem_append_left _)
        (Or.imp (List.mem_append_left _) (List.mem_append_left _))
    · cases List.mem_singleton.mp new
      exact Or.inl (List.mem_append_right _ List.mem_cons_self)

theorem flushPlayback_sound (currentTime : Time) (now : Nat → Time) (sound : Sound clocks self past) :
    Sound clocks (self.flushPlayback clocks currentTime now).1
      (past ++ (self.flushPlayback clocks currentTime now).2) := by
  unfold flushPlayback
  split
  · rw [List.append_nil]
    exact sound
  · split
    · -- The lead is lost: buffer and time line start afresh together.
      have again := (sound.emptied self.voice self.jitter sound.maxFrames).rewound
        self.playbackTimer (clocks.later currentTime self.voice.jitterTargetMs)
      have noted := again.noted (dropped_plain .playbackLeadReset 1) ⟨rfl, rfl, rfl⟩
        (fun frame pcm16 waits => List.mem_append_left _ (again.awaited frame pcm16 waits))
        fun source held => Or.inl held
      simpa using noted
    · rename_i near
      obtain ⟨start, earlier, playing, limit, among⟩ := sound.popped
      obtain ⟨stale, after, fewer, fresh⟩ := popFresh_playing clocks now
        self.voice.maxQueuedLatencyMs (self.jitter.size + 1) playing
      dsimp only
      generalize popFresh clocks now self.voice.maxQueuedLatencyMs (self.jitter.size + 1)
        self.jitter = popped at after fewer fresh
      obtain ⟨jitter, drops, first⟩ := popped
      have plain : ∀ note ∈ List.replicate drops (.dropped .playbackStale : Note Time),
          note.plain = true := dropped_plain .playbackStale drops
      cases first with
      | none =>
          have emptier : JitterBuffer.Playing PlaybackFrame.seq start jitter (earlier ++ stale) := by
            simpa using after
          have left : Sound clocks { self with jitter := jitter } past :=
            ⟨⟨start, _, emptier, limit, among.trans (List.sublist_append_left _ _)⟩, sound.onward,
              sound.apart, sound.timely,
              fun key item found => sound.buffered key item (fewer key item found),
              sound.awaited, sound.sources⟩
          exact left.noted plain ⟨rfl, rfl, rfl⟩
            (fun frame pcm16 waits => List.mem_append_left _ (left.awaited frame pcm16 waits))
            fun source held => Or.inl held
      | some chosen =>
          obtain ⟨item, read⟩ := chosen
          obtain ⟨young, held⟩ := fresh item read rfl
          have noted : Sound clocks self (past ++ List.replicate drops (.dropped .playbackStale)) :=
            sound.noted plain ⟨rfl, rfl, rfl⟩
              (fun frame pcm16 waits => List.mem_append_left _ (sound.awaited frame pcm16 waits))
              fun source held => Or.inl held
          have started := noted.started ⟨start, _, after, limit, by
            rw [since_plain plain fun _ => empties_of_plain]
            exact among.trans (List.sublist_append_left _ _)⟩ fewer held young
              (by simpa using near)
          simpa [List.append_assoc] using started

theorem enablePlayback_sound {opens : Bool} {call : Option (VoiceFrame × Bytes)}
    (sound : Sound clocks self past) (silent : ∀ note ∈ notes, note.plain = true)
    (admitted : ∀ frame pcm16, call = some (frame, pcm16) → .admitted frame pcm16 ∈ notes) :
    Sound clocks (self.enablePlayback opens call) (past ++ notes) := by
  unfold enablePlayback
  split
  · refine sound.noted silent ⟨rfl, rfl, rfl⟩ ?_ fun source held => Or.inl held
    intro frame pcm16 waits
    rcases List.mem_append.mp waits with old | new
    · exact List.mem_append_left _ (sound.awaited frame pcm16 old)
    · exact List.mem_append_right _ (admitted frame pcm16 (List.mem_singleton.mp new).symm)
  · exact sound.noted silent ⟨rfl, rfl, rfl⟩
      (fun frame pcm16 waits => List.mem_append_left _ (sound.awaited frame pcm16 waits))
      fun source held => Or.inl held

theorem play_sound (frame : VoiceFrame) (opens : Bool) (sound : Sound clocks self past) :
    Sound clocks (self.play frame opens).1 (past ++ (self.play frame opens).2) := by
  unfold play
  split
  · exact sound.noted (by simp [Note.plain]) ⟨rfl, rfl, rfl⟩
      (fun frame pcm16 waits => List.mem_append_left _ (sound.awaited frame pcm16 waits))
      fun source held => Or.inl held
  · apply enablePlayback_sound sound (by simp [Note.plain])
    rintro frame pcm16 ⟨⟩
    exact List.mem_cons_self

theorem receive_sound (item : PlaybackFrame Time) (currentTime : Time)
    (sound : Sound clocks self past) (admitted : .admitted item.frame item.pcm16 ∈ past) :
    Sound clocks (self.receive clocks item currentTime).1
      (past ++ (self.receive clocks item currentTime).2) := by
  have pushed := sound.pushed admitted
  unfold receive
  dsimp only
  split
  · exact pushed.rewound true _
  · rw [List.append_nil]
    exact pushed

/-- A call comes back: `play` has its frame checked already. -/
theorem resume_sound {after : VoiceService Time} {call : Nat} {runs : Bool}
    (sound : Sound clocks self past)
    (resumed : self.resume clocks call runs currentTime now = some (after, notes)) :
    Sound clocks after (past ++ notes) := by
  obtain ⟨awaited, found, same⟩ := Option.map_eq_some_iff.mp resumed
  have back : Sound clocks
      { self with playbackBlocked := !runs, awaiting := self.awaiting.eraseIdx call } past :=
    sound.quiet ⟨rfl, rfl, rfl⟩ (fun _ waits => List.mem_of_mem_eraseIdx waits) rfl
  split at same
  · rename_i frame pcm16
    split at same
    · have received := receive_sound ⟨frame, pcm16, now⟩ currentTime back
        (sound.awaited frame pcm16 (List.mem_of_getElem? found))
      rw [same] at received
      exact received
    · cases same
      rw [List.append_nil]
      exact back
  · cases same
    rw [List.append_nil]
    exact back

theorem stopPlayback_sound (sound : Sound clocks self past) :
    Sound clocks (self.stopPlayback clocks).1 (past ++ (self.stopPlayback clocks).2) := by
  have again := (sound.emptied self.voice self.jitter sound.maxFrames).rewound false clocks.zero
  have stops : ∀ note ∈ self.scheduledSources.map (.stopped : Nat → Note Time),
      note.plain = true := by simp [Note.plain]
  have noted : Sound clocks (self.stopPlayback clocks).1
      (past ++ [.emptied] ++ [.rewound] ++ self.scheduledSources.map .stopped) :=
    again.noted stops ⟨rfl, rfl, rfl⟩
      (fun frame pcm16 waits => List.mem_append_left _ (again.awaited frame pcm16 waits))
      fun source held => Or.inr (Or.inr (List.mem_map_of_mem held))
  simpa [stopPlayback] using noted

/-- Whatever happens next, order and time line hold. -/
theorem Sound.step {after : VoiceService Time} {event : Event Time} (sound : Sound clocks self past)
    (stepped : (machine clocks).step self event = some (after, notes)) :
    Sound clocks after (past ++ notes) := by
  have awaits : ∀ frame pcm16, some (frame, pcm16) ∈ self.awaiting →
      .admitted frame pcm16 ∈ past ++ notes := fun frame pcm16 waits =>
    List.mem_append_left _ (sound.awaited frame pcm16 waits)
  cases event with
  | setProfile voice =>
      cases stepped
      exact sound.emptied voice (.create voice.jitterMaxFrames) rfl
  | opened =>
      cases stepped
      rw [List.append_nil]
      exact sound.quiet ⟨rfl, rfl, rfl⟩ (fun _ waits => waits) rfl
  | unblocked =>
      cases stepped
      rw [List.append_nil]
      exact sound.quiet ⟨rfl, rfl, rfl⟩ (fun _ waits => waits) rfl
  | play frame opens =>
      have played := play_sound frame opens sound
      rw [Option.some.inj stepped] at played
      exact played
  | enablePlayback opens =>
      cases stepped
      exact enablePlayback_sound sound nofun nofun
  | resumed call runs currentTime now => exact resume_sound sound stepped
  | flushPlayback currentTime now =>
      obtain ⟨_, same⟩ := Option.ite_none_right_eq_some.mp stepped
      have flushed := flushPlayback_sound currentTime now sound
      rw [Option.some.inj same] at flushed
      exact flushed
  | ended source =>
      obtain ⟨_, same⟩ := Option.ite_none_right_eq_some.mp stepped
      cases same
      refine sound.noted (by simp [Note.plain]) ⟨rfl, rfl, rfl⟩ awaits fun other held => ?_
      by_cases own : other = source
      · subst own
        exact Or.inr (Or.inl List.mem_cons_self)
      · exact Or.inl ((List.mem_erase_of_ne own).mpr held)
  | stopPlayback =>
      cases stepped
      exact stopPlayback_sound sound
  | stop =>
      cases stepped
      exact (stopPlayback_sound sound).quiet ⟨rfl, rfl, rfl⟩ (fun _ waits => waits) rfl

end Order

/-- Whatever interleaves, calls that come back late included: since the buffer was last emptied
the sources are started in the order of their frames, since the time line was last set each one
starts no earlier than a frame after the one before; none starts in the past, further ahead than
the profile allows, or with a frame too old or refused by `play`; the buffer keeps its limit, and
a source that is no longer held has ended or been stopped. -/
theorem playback_in_order {Time : Type} [LinearOrder Time] {clocks : Clocks Time} {voice : Voice}
    {self : VoiceService Time} {history : List (Note Time)}
    (run : (machine clocks).Run Machine.Unrestricted (create clocks voice) self history) :
    ((since Note.empties history).Pairwise fun earlier later => earlier.item.seq < later.item.seq) ∧
      ((since Note.rewinds history).Pairwise fun earlier later =>
        clocks.later earlier.startAt earlier.item.frame.frameMs ≤ later.startAt) ∧
      (∀ entry, .scheduled entry ∈ history → Timely clocks history entry) ∧
      self.jitter.size ≤ self.voice.jitterMaxFrames ∧
      ∀ entry, .scheduled entry ∈ history → entry.source ∈ self.scheduledSources ∨
        .ended entry.source ∈ history ∨ .stopped entry.source ∈ history := by
  have sound : Sound clocks self history := run.invariant (Sound clocks) (create_sound voice)
    fun _ _ _ _ _ sound _ stepped => sound.step stepped
  obtain ⟨start, popped, playing, limit, among⟩ := sound.popped
  refine ⟨?_, sound.apart, sound.timely, ?_, sound.sources⟩
  · have increasing : ((since Note.empties history).map Scheduled.item).Pairwise
        fun earlier later => earlier.seq < later.seq := playing.increasing.sublist among
    exact (List.pairwise_map.mp increasing).imp id
  · rw [← sound.maxFrames]
    exact playing.fits

section Samples

/-- Both clocks in milliseconds, without rounding. -/
def milliseconds : Clocks Int where
  zero := 0
  later time ms := time + ms
  beyond time now ms := decide (ms < time - now)
  stale time now ms := decide (ms < now - time)
  le_later time ms := by omega
  beyond_self time ms := by simp

def samplePcm16 : Bytes := List.replicate 640 0

def sampleFrame (pcm16 : Bytes) (seq : Nat) : VoiceFrame :=
  ⟨"voice", seq, 0, 8000, 40, Bytes.bytesToBase64Url pcm16⟩

def sampleStart : VoiceService Int :=
  create milliseconds (Profiles.getProfile .balanced).voice

/-- Both frames are in, and their calls await the context. -/
def sampleAwaiting (late early : VoiceFrame) (pcm16 : Bytes) : VoiceService Int :=
  { sampleStart with
    outputCtx := true
    awaiting := [some (late, pcm16), some (early, pcm16)] }

/-- Two frames come in the wrong order; the first flush plays the earlier one. -/
def samplePlayed : List (Event Int) :=
  [.resumed 0 true 1000 50, .resumed 0 true 1000 60, .flushPlayback 1040 fun _ => 100,
    .flushPlayback 1080 fun _ => 140, .ended 0]

theorem sampleFrame_decoded {pcm16 : Bytes} {seq : Nat} (numbered : 0 < seq)
    (few : seq ≤ Js.maxSafeInteger) (sized : pcm16.length = 640) :
    decodeInboundVoiceFrame (sampleFrame pcm16 seq) sampleStart.voice = .ok pcm16 := by
  have safe : 192000 ≤ Js.maxSafeInteger := by decide
  have length : sampleStart.voice.frameMs = 40 := by decide
  rw [decodeInboundVoiceFrame, length, if_neg, sampleFrame, Bytes.base64Url_roundtrip]
  · dsimp only
    rw [if_neg (by rw [sized]; decide)]
  · simp only [sampleFrame, ne_eq, not_true_eq_false, false_or, or_false, not_or]
    omega

theorem execute_plays {late early : VoiceFrame} {pcm16 : Bytes} (events : List (Event Int))
    (second : decodeInboundVoiceFrame late sampleStart.voice = .ok pcm16)
    (first : decodeInboundVoiceFrame early sampleStart.voice = .ok pcm16) :
    (machine milliseconds).execute sampleStart (.play late true :: .play early true :: events) =
      ((machine milliseconds).execute (sampleAwaiting late early pcm16) events).map fun result =>
        (result.1, [.admitted late pcm16] ++ ([.admitted early pcm16] ++ result.2)) := by
  have played : (machine milliseconds).step sampleStart (.play late true) =
      some ({ sampleStart with outputCtx := true, awaiting := [some (late, pcm16)] },
        [.admitted late pcm16]) := by
    simp only [machine, step, play, second, enablePlayback, Bool.or_true, if_true]
    rfl
  rw [Machine.execute, played]
  dsimp only
  have again : (machine milliseconds).step
      { sampleStart with outputCtx := true, awaiting := [some (late, pcm16)] } (.play early true) =
      some (sampleAwaiting late early pcm16, [.admitted early pcm16]) := by
    simp only [machine, step, play, first, enablePlayback, Bool.or_true, if_true]
    rfl
  rw [Machine.execute, again, Option.map_map]
  rfl

theorem since_admitted (frame : VoiceFrame) (pcm16 : Bytes) (later : List (Note Int)) :
    since Note.empties ([.admitted frame pcm16] ++ later) = since Note.empties later := rfl

theorem samplePlayed_starts :
    ((machine milliseconds).execute (sampleAwaiting (sampleFrame samplePcm16 2)
      (sampleFrame samplePcm16 1) samplePcm16)
      samplePlayed).map (fun result => (result.1.scheduledSources,
        (since Note.empties result.2).map (fun entry => entry.startAt))) =
      some ([1], [1120, 1160]) := by decide +kernel

end Samples

theorem sample_playback_in_order :
    ∃ self history, (machine milliseconds).execute sampleStart
        (.play (sampleFrame samplePcm16 2) true :: .play (sampleFrame samplePcm16 1) true ::
          samplePlayed) = some (self, history) ∧ self.scheduledSources = [1] ∧
      (since Note.empties history).map (fun entry => entry.startAt) = [1120, 1160] ∧
      (since Note.empties history).Pairwise fun earlier later =>
        earlier.item.seq < later.item.seq := by
  have sized : samplePcm16.length = 640 := by rw [samplePcm16, List.length_replicate]
  have whole := execute_plays samplePlayed
    (sampleFrame_decoded (Nat.succ_pos 1) (by decide) sized)
    (sampleFrame_decoded (Nat.succ_pos 0) (by decide) sized)
  obtain ⟨⟨self, history⟩, ran, shown⟩ := Option.map_eq_some_iff.mp samplePlayed_starts
  obtain ⟨held, starts⟩ := Prod.mk.inj shown
  rw [ran, Option.map_some] at whole
  refine ⟨self, _, whole, held, ?_, (playback_in_order
    (Machine.execute_run _ (Machine.along_unrestricted _ _) whole)).1⟩
  rw [since_admitted, since_admitted]
  exact starts

end VoiceService

end OnlyTwo.VoicePlayback
