import OnlyTwo.Machine
import OnlyTwo.Negotiation

/-!
How `VoiceService.start` of client/src/features/audio/VoiceService.ts turns what the
microphone delivers into voice frames, with the gate of VadGate.ts in between, and
`decodeInboundVoiceFrame` on the other side. A capture lives from `start` to `stop`; its
sample rate and the profile stay the same. Samples are opaque: `loud` compares the
level of a frame with a threshold, `pcm` gives the two bytes of a sample.
-/

namespace OnlyTwo.VoiceCapture

open Bytes
open Js (maxSafeInteger)
open Profiles (Voice)

section Gate

structure VadConfig where
  enabled : Bool
  startDb : Int
  stopDb : Int
  preRollFrames : Nat
  hangoverFrames : Nat
  minSpeechFrames : Nat
  deriving DecidableEq, Repr

variable {Sample : Type}

structure VadGate (Sample : Type) where
  config : VadConfig
  speaking : Bool
  aboveStartFrames : Nat
  hangoverRemaining : Nat
  preRoll : List (List Sample)

structure VadDecision (Sample : Type) where
  send : Bool
  started : Bool
  stopped : Bool
  frames : List (List Sample)

def VadGate.reset (gate : VadGate Sample) : VadGate Sample := ⟨gate.config, false, 0, 0, []⟩

/-- `loud frame threshold` is `rmsDb(frame) >= threshold`. -/
def VadGate.process (loud : List Sample → Int → Bool) (gate : VadGate Sample)
    (frame : List Sample) : VadGate Sample × VadDecision Sample :=
  if !gate.config.enabled then (gate, ⟨true, false, false, [frame]⟩)
  else if !gate.speaking then
    let pushed := gate.preRoll ++ [frame]
    let preRoll := pushed.drop (pushed.length - gate.config.preRollFrames)
    let aboveStartFrames :=
      if loud frame gate.config.startDb then gate.aboveStartFrames + 1 else 0
    if gate.config.minSpeechFrames ≤ aboveStartFrames then
      ({ gate with
          preRoll := []
          speaking := true
          hangoverRemaining := gate.config.hangoverFrames
          aboveStartFrames := 0 }, ⟨true, true, false, preRoll⟩)
    else ({ gate with preRoll, aboveStartFrames }, ⟨false, false, false, []⟩)
  else if loud frame gate.config.stopDb then
    ({ gate with hangoverRemaining := gate.config.hangoverFrames }, ⟨true, false, false, [frame]⟩)
  else if 0 < gate.hangoverRemaining then
    ({ gate with hangoverRemaining := gate.hangoverRemaining - 1 }, ⟨true, false, false, [frame]⟩)
  else
    -- `[frame].slice(-0)` is the whole array too.
    ({ gate with speaking := false, preRoll := [frame] }, ⟨false, false, true, []⟩)

def framesFromMs (durationMs frameMs : Nat) : Nat :=
  if durationMs = 0 ∨ frameMs = 0 then 0 else max 1 ((durationMs + frameMs - 1) / frameMs)

def vadConfig (voice : Voice) : VadConfig where
  enabled := voice.vadEnabled && voice.mode = .efficient
  startDb := voice.vadStartDb
  stopDb := voice.vadStopDb
  preRollFrames := framesFromMs voice.vadPreRollMs voice.frameMs
  hangoverFrames := framesFromMs voice.vadHangoverMs voice.frameMs
  minSpeechFrames := framesFromMs voice.vadMinSpeechMs voice.frameMs

end Gate

section Capture

structure VoiceFrame where
  streamId : String
  seq : Nat
  sentAt : Nat
  sampleRate : Nat
  frameMs : Nat
  pcm16 : String
  deriving DecidableEq, Repr

def samplesPerFrame (sampleRate frameMs : Nat) : Nat := max 320 (sampleRate * frameMs / 1000)

/-- What a capture reads and never changes. `clock` is `Date.now()` at a frame, a time value. -/
structure Source (Sample : Type) where
  voice : Voice
  sampleRate : Nat
  loud : List Sample → Int → Bool
  pcm : Sample → UInt8 × UInt8
  clock : Nat → Nat
  timely : ∀ seq, clock seq ≤ AppCodec.maxTimestamp

structure Capture (Sample : Type) where
  stream : Bool
  muted : Bool
  captureBuffer : List (List Sample)
  captureSamples : Nat
  seq : Nat
  vad : VadGate Sample

variable {Sample : Type} (source : Source Sample)

def start : Capture Sample where
  stream := true
  muted := false
  captureBuffer := []
  captureSamples := 0
  seq := 0
  vad := ⟨vadConfig source.voice, false, 0, 0, []⟩

/-- The loop of `readFrame`: whole chunks as long as they fit, then the front of one. -/
def fill : Nat → List (List Sample) → List Sample × List (List Sample)
  | _, [] => ([], [])
  | need, first :: rest =>
      if need = 0 then ([], first :: rest)
      else if first.length ≤ need then
        let others := fill (need - first.length) rest
        (first ++ others.1, others.2)
      else (first.take need, first.drop need :: rest)

def floatToPcm16 (frame : List Sample) : Bytes :=
  frame.flatMap fun sample => [(source.pcm sample).1, (source.pcm sample).2]

def framesAllowedByVoiceMode (vad : VadGate Sample) (frame : List Sample) :
    VadGate Sample × List (List Sample) :=
  if source.voice.mode = .maximumPrivacy then (vad, [frame])
  else
    let decided := vad.process source.loud frame
    (decided.1, if decided.2.send then decided.2.frames else [])

def outboundFrame (seq : Nat) (frame : List Sample) : VoiceFrame where
  streamId := "voice"
  seq := seq
  sentAt := source.clock seq
  sampleRate := source.sampleRate
  frameMs := source.voice.frameMs
  pcm16 := bytesToBase64Url (floatToPcm16 source frame)

/-- The `for` loop over the frames the gate lets through. -/
def number : Nat → List (List Sample) → List VoiceFrame
  | _, [] => []
  | seq, frame :: rest => outboundFrame source (seq + 1) frame :: number (seq + 1) rest

/-- The `while` loop; each round takes samples away, so their number bounds it. -/
def drainCapture (size : Nat) : Nat → Capture Sample → Capture Sample × List VoiceFrame
  | 0, self => (self, [])
  | rounds + 1, self =>
      if size ≤ self.captureSamples then
        let read := fill size self.captureBuffer
        let allowed := framesAllowedByVoiceMode source self.vad read.1
        let after := drainCapture size rounds { self with
          captureBuffer := read.2
          captureSamples := self.captureSamples - size
          vad := allowed.1
          seq := self.seq + allowed.2.length }
        (after.1, number source self.seq allowed.2 ++ after.2)
      else (self, [])

inductive Event (Sample : Type) where
  | message (chunk : List Sample)
  | setMuted (muted : Bool)
  | stop

def step (self : Capture Sample) : Event Sample → Capture Sample × List VoiceFrame
  | .message chunk =>
      if !self.stream || self.muted then (self, [])
      else
        let heard := { self with
          captureBuffer := self.captureBuffer ++ [chunk]
          captureSamples := self.captureSamples + chunk.length }
        drainCapture source (samplesPerFrame source.sampleRate source.voice.frameMs)
          heard.captureSamples heard
  | .setMuted muted =>
      ({ self with muted, captureBuffer := [], captureSamples := 0, vad := self.vad.reset }, [])
  | .stop =>
      ({ self with
          stream := false
          muted := false
          captureBuffer := []
          captureSamples := 0
          vad := self.vad.reset }, [])

def machine : Machine (Capture Sample) (Event Sample) VoiceFrame :=
  ⟨fun self event => some (step source self event)⟩

def decodeInboundVoiceFrame (frame : VoiceFrame) (voice : Voice) : Except String Bytes :=
  if frame.streamId ≠ "voice" ∨ maxSafeInteger < frame.seq ∨ frame.seq = 0 ∨
      maxSafeInteger < frame.sampleRate ∨ frame.sampleRate < 8000 ∨ 192000 < frame.sampleRate ∨
      frame.frameMs ≠ voice.frameMs then .error "Invalid voice frame metadata"
  else
    match base64UrlToBytes frame.pcm16 with
    | none => .error "InvalidCharacterError"
    | some pcm16 =>
        if pcm16.length ≠ samplesPerFrame frame.sampleRate frame.frameMs * 2 then
          .error "Invalid voice frame payload"
        else .ok pcm16

end Capture

section Frames

variable {Sample : Type} {source : Source Sample}

def samplesOf (buffer : List (List Sample)) : Nat := (buffer.map List.length).sum

theorem fill_spec (need : Nat) (buffer : List (List Sample)) (enough : need ≤ samplesOf buffer) :
    (fill need buffer).1.length = need ∧
      samplesOf (fill need buffer).2 = samplesOf buffer - need := by
  induction buffer generalizing need with
  | nil =>
      simp only [samplesOf, List.map_nil, List.sum_nil, Nat.le_zero] at enough
      subst enough
      exact ⟨rfl, rfl⟩
  | cons first rest ih =>
      simp only [samplesOf, List.map_cons, List.sum_cons] at enough ih ⊢
      simp only [fill]
      split
      · rename_i none
        simp [none]
      · split
        · rename_i whole
          obtain ⟨length, left⟩ := ih (need - first.length) (by omega)
          simp only [List.length_append, length, left]
          omega
        · rename_i partly
          simp only [List.length_take, List.map_cons, List.length_drop, List.sum_cons]
          omega

/-- What the handler of the port relies on between two messages. -/
structure Steady (size : Nat) (capture : Capture Sample) : Prop where
  counted : capture.captureSamples = samplesOf capture.captureBuffer
  kept : ∀ frame ∈ capture.vad.preRoll, frame.length = size

theorem start_steady (size : Nat) : Steady size (start source) := ⟨rfl, nofun⟩

theorem process_sized (loud : List Sample → Int → Bool) {gate : VadGate Sample} {size : Nat}
    {frame : List Sample} (kept : ∀ held ∈ gate.preRoll, held.length = size)
    (sized : frame.length = size) :
    (∀ held ∈ (gate.process loud frame).1.preRoll, held.length = size) ∧
      ∀ sent ∈ (gate.process loud frame).2.frames, sent.length = size := by
  have only : ∀ held ∈ [frame], held.length = size := by
    intro held member
    rw [List.mem_singleton.mp member]
    exact sized
  have rolled : ∀ count, ∀ held ∈ (gate.preRoll ++ [frame]).drop count, held.length = size := by
    intro count held member
    rcases List.mem_append.mp (List.mem_of_mem_drop member) with early | late
    · exact kept held early
    · exact only held late
  simp only [VadGate.process]
  generalize (if loud frame gate.config.startDb then gate.aboveStartFrames + 1 else 0) = above
  split
  · exact ⟨kept, only⟩
  · split
    · split
      · exact ⟨nofun, rolled _⟩
      · exact ⟨rolled _, nofun⟩
    · split
      · exact ⟨kept, only⟩
      · split
        · exact ⟨kept, only⟩
        · exact ⟨only, nofun⟩

theorem allowed_sized (source : Source Sample) {vad : VadGate Sample} {size : Nat} {frame : List Sample}
    (kept : ∀ held ∈ vad.preRoll, held.length = size) (sized : frame.length = size) :
    (∀ held ∈ (framesAllowedByVoiceMode source vad frame).1.preRoll, held.length = size) ∧
      ∀ sent ∈ (framesAllowedByVoiceMode source vad frame).2, sent.length = size := by
  simp only [framesAllowedByVoiceMode]
  split
  · refine ⟨kept, ?_⟩
    intro sent member
    rw [List.mem_singleton.mp member]
    exact sized
  · obtain ⟨held, frames⟩ := process_sized source.loud kept sized
    refine ⟨held, ?_⟩
    split
    · exact frames
    · nofun

/-- A frame that a capture builds after `earlier` others and before it has built `later`. -/
structure Built (source : Source Sample) (earlier later : Nat) (frame : VoiceFrame) : Prop where
  made : ∃ samples, samples.length = samplesPerFrame source.sampleRate source.voice.frameMs ∧
    frame = outboundFrame source frame.seq samples
  after : earlier < frame.seq
  before : frame.seq ≤ later

theorem Built.widen {earlier later first last : Nat} {frame : VoiceFrame}
    (built : Built source first last frame) (low : earlier ≤ first) (high : last ≤ later) :
    Built source earlier later frame :=
  ⟨built.made, lt_of_le_of_lt low built.after, built.before.trans high⟩

theorem number_built {frames : List (List Sample)} {seq : Nat}
    (sized : ∀ sent ∈ frames, sent.length = samplesPerFrame source.sampleRate source.voice.frameMs) :
    ∀ frame ∈ number source seq frames, Built source seq (seq + frames.length) frame := by
  induction frames generalizing seq with
  | nil => nofun
  | cons first rest ih =>
      intro frame member
      rw [number] at member
      rw [List.length_cons]
      rcases List.mem_cons.mp member with rfl | later
      · refine ⟨⟨first, sized first List.mem_cons_self, rfl⟩, Nat.lt_succ_self seq, ?_⟩
        change seq + 1 ≤ seq + (rest.length + 1)
        omega
      · have built := ih (fun sent listed => sized sent (List.mem_cons_of_mem first listed)) frame later
        exact built.widen (Nat.le_succ seq) (by omega)

/-- One turn of the capture builds proper frames and stays steady. -/
structure Turned (source : Source Sample) (before : Capture Sample)
    (result : Capture Sample × List VoiceFrame) : Prop where
  steady : Steady (samplesPerFrame source.sampleRate source.voice.frameMs) result.1
  counts : before.seq ≤ result.1.seq
  built : ∀ frame ∈ result.2, Built source before.seq result.1.seq frame

theorem drain_turned (rounds : Nat) {self : Capture Sample}
    (steady : Steady (samplesPerFrame source.sampleRate source.voice.frameMs) self) :
    Turned source self
      (drainCapture source (samplesPerFrame source.sampleRate source.voice.frameMs) rounds self) := by
  induction rounds generalizing self with
  | zero => exact ⟨steady, le_rfl, nofun⟩
  | succ rounds ih =>
      simp only [drainCapture]
      split
      · rename_i enough
        rw [steady.counted] at enough
        obtain ⟨length, left⟩ := fill_spec _ _ enough
        obtain ⟨kept, sized⟩ := allowed_sized source steady.kept length
        generalize allowed : framesAllowedByVoiceMode source self.vad
          (fill (samplesPerFrame source.sampleRate source.voice.frameMs) self.captureBuffer).1 = passed
        rw [allowed] at kept sized
        -- The buffer is short by exactly the samples of the frame.
        have rest : Steady (samplesPerFrame source.sampleRate source.voice.frameMs)
            { self with
              captureBuffer := (fill (samplesPerFrame source.sampleRate source.voice.frameMs)
                self.captureBuffer).2
              captureSamples := self.captureSamples -
                samplesPerFrame source.sampleRate source.voice.frameMs
              vad := passed.1
              seq := self.seq + passed.2.length } := by
          refine ⟨?_, kept⟩
          rw [steady.counted]
          exact left.symm
        have next := ih rest
        refine ⟨next.steady, (Nat.le_add_right _ _).trans next.counts, ?_⟩
        intro frame member
        rcases List.mem_append.mp member with now | later
        · -- Frames of this round are numbered before those of the later ones.
          exact (number_built sized frame now).widen le_rfl next.counts
        · exact (next.built frame later).widen (Nat.le_add_right _ _) le_rfl
      · exact ⟨steady, le_rfl, nofun⟩

theorem step_turned {self : Capture Sample} (event : Event Sample)
    (steady : Steady (samplesPerFrame source.sampleRate source.voice.frameMs) self) :
    Turned source self (step source self event) := by
  cases event with
  | message chunk =>
      simp only [step]
      split
      · exact ⟨steady, le_rfl, nofun⟩
      · have heard : Steady (samplesPerFrame source.sampleRate source.voice.frameMs)
            { self with
              captureBuffer := self.captureBuffer ++ [chunk]
              captureSamples := self.captureSamples + chunk.length } := by
          refine ⟨?_, steady.kept⟩
          simp only [samplesOf, List.map_append, List.sum_append, List.map_cons, List.map_nil,
            List.sum_cons, List.sum_nil, Nat.add_zero, steady.counted]
        have turned := drain_turned
          (self.captureSamples + chunk.length) heard
        exact ⟨turned.steady, turned.counts, turned.built⟩
  | setMuted muted => exact ⟨⟨rfl, nofun⟩, le_rfl, nofun⟩
  | stop => exact ⟨⟨rfl, nofun⟩, le_rfl, nofun⟩

/-- Every frame of a capture is cut to size and numbered from one on. -/
theorem run_built {self : Capture Sample} {history : List VoiceFrame}
    {allowed : Capture Sample → Event Sample → Prop}
    (run : Machine.Run (machine source) allowed (start source) self history) :
    ∀ frame ∈ history, Built source 0 self.seq frame := by
  have whole : Turned source (start source) (self, history) := by
    refine run.invariant (fun self history => Turned source (start source) (self, history))
      ⟨start_steady _, le_rfl, nofun⟩ ?_
    intro before past event after outputs turned _ stepped
    have next := step_turned event turned.steady
    rw [Option.some.inj stepped] at next
    refine ⟨next.steady, turned.counts.trans next.counts, ?_⟩
    intro frame member
    rcases List.mem_append.mp member with early | late
    · exact (turned.built frame early).widen le_rfl next.counts
    · exact (next.built frame late).widen turned.counts le_rfl
  exact whole.built

/-- How many samples an event brings. -/
def Event.samples : Event Sample → Nat
  | .message chunk => chunk.length
  | _ => 0

def delivered (events : List (Event Sample)) : Nat := (events.map Event.samples).sum

/-- How many frames the delivered samples fill. -/
def framesDelivered (source : Source Sample) (events : List (Event Sample)) : Nat :=
  delivered events / samplesPerFrame source.sampleRate source.voice.frameMs

/-- The samples of the frames built or kept back, and those that are no frame yet. -/
def Capture.account (size : Nat) (self : Capture Sample) : Nat :=
  (self.seq + self.vad.preRoll.length) * size + self.captureSamples

theorem process_account (loud : List Sample → Int → Bool) (gate : VadGate Sample)
    (frame : List Sample) :
    (gate.process loud frame).2.frames.length + (gate.process loud frame).1.preRoll.length ≤
      gate.preRoll.length + 1 := by
  simp only [VadGate.process]
  generalize (if loud frame gate.config.startDb then gate.aboveStartFrames + 1 else 0) = above
  repeat' split
  all_goals
    simp only [List.length_cons, List.length_nil, List.length_drop, List.length_append]
    omega

theorem allowed_account (source : Source Sample) (vad : VadGate Sample) (frame : List Sample) :
    (framesAllowedByVoiceMode source vad frame).2.length +
      (framesAllowedByVoiceMode source vad frame).1.preRoll.length ≤ vad.preRoll.length + 1 := by
  have decided := process_account source.loud vad frame
  simp only [framesAllowedByVoiceMode]
  split
  · simp only [List.length_cons, List.length_nil]
    omega
  · split
    · exact decided
    · simp only [List.length_nil]
      omega

theorem samplesPerFrame_pos (sampleRate frameMs : Nat) : 0 < samplesPerFrame sampleRate frameMs := by
  rw [samplesPerFrame]
  omega

/-- The bound on the rounds of the loop is never reached. -/
theorem drain_complete {size : Nat} (positive : 0 < size) (rounds : Nat) (self : Capture Sample)
    (enough : self.captureSamples ≤ rounds) :
    (drainCapture source size rounds self).1.captureSamples < size := by
  induction rounds generalizing self with
  | zero =>
      change self.captureSamples < size
      omega
  | succ rounds ih =>
      simp only [drainCapture]
      split
      · apply ih
        change self.captureSamples - size ≤ rounds
        omega
      · rename_i short
        exact Nat.lt_of_not_le short

/-- A frame is paid for with its samples. -/
theorem drain_account (size rounds : Nat) (self : Capture Sample) :
    (drainCapture source size rounds self).1.account size ≤ self.account size := by
  induction rounds generalizing self with
  | zero => exact le_rfl
  | succ rounds ih =>
      simp only [drainCapture]
      split
      · rename_i enough
        refine (ih _).trans ?_
        have paid := allowed_account source self.vad (fill size self.captureBuffer).1
        generalize framesAllowedByVoiceMode source self.vad (fill size self.captureBuffer).1 = passed
          at paid ⊢
        have counted : self.seq + passed.2.length + passed.1.preRoll.length ≤
            self.seq + self.vad.preRoll.length + 1 := by omega
        have scaled := Nat.mul_le_mul_right size counted
        rw [Nat.succ_mul] at scaled
        simp only [Capture.account]
        omega
      · exact le_rfl

theorem step_account (source : Source Sample) (self : Capture Sample) (event : Event Sample) :
    (step source self event).1.account (samplesPerFrame source.sampleRate source.voice.frameMs) ≤
      self.account (samplesPerFrame source.sampleRate source.voice.frameMs) + event.samples := by
  have cleared : self.seq * samplesPerFrame source.sampleRate source.voice.frameMs ≤
      self.account (samplesPerFrame source.sampleRate source.voice.frameMs) :=
    (Nat.mul_le_mul_right _ (Nat.le_add_right _ _)).trans (Nat.le_add_right _ _)
  cases event with
  | message chunk =>
      simp only [step]
      split
      · exact Nat.le_add_right _ _
      · refine (drain_account _ _ _).trans ?_
        simp only [Capture.account, Event.samples]
        omega
  | setMuted muted => exact cleared
  | stop => exact cleared

theorem execute_account (events : List (Event Sample)) {self final : Capture Sample}
    {frames : List VoiceFrame}
    (ran : (machine source).execute self events = some (final, frames)) :
    final.account (samplesPerFrame source.sampleRate source.voice.frameMs) ≤
      self.account (samplesPerFrame source.sampleRate source.voice.frameMs) + delivered events := by
  induction events generalizing self frames with
  | nil =>
      cases ran
      exact Nat.le_add_right _ _
  | cons event rest ih =>
      obtain ⟨next, first, later, stepped, remaining, _⟩ := Machine.execute_cons.mp ran
      have now := step_account source self event
      rw [Option.some.inj stepped] at now
      have after := ih remaining
      simp only [delivered, List.map_cons, List.sum_cons] at now after ⊢
      omega

/-- The numbers of a capture stay below the number of frames that its samples fill. -/
theorem execute_built (events : List (Event Sample)) {final : Capture Sample}
    {frames : List VoiceFrame}
    (ran : (machine source).execute (start source) events = some (final, frames)) :
    ∀ frame ∈ frames, Built source 0 (framesDelivered source events) frame := by
  intro frame member
  have built := run_built (Machine.execute_run events (Machine.along_unrestricted _ events) ran)
    frame member
  have paid := execute_account events ran
  refine built.widen le_rfl ?_
  rw [framesDelivered, Nat.le_div_iff_mul_le (samplesPerFrame_pos _ _)]
  simp only [Capture.account, start, List.length_nil] at paid
  have fewer := Nat.mul_le_mul_right (samplesPerFrame source.sampleRate source.voice.frameMs)
    (Nat.le_add_right final.seq final.vad.preRoll.length)
  omega

theorem floatToPcm16_length (samples : List Sample) :
    (floatToPcm16 source samples).length = samples.length * 2 := by
  simp [floatToPcm16, List.length_flatMap]

/-- A frame is what the other side expects under the same profile. -/
theorem Built.decoded {earlier later : Nat} {frame : VoiceFrame}
    (built : Built source earlier later frame) (few : later ≤ maxSafeInteger)
    (least : 8000 ≤ source.sampleRate) (most : source.sampleRate ≤ 192000) :
    ∃ pcm16, decodeInboundVoiceFrame frame source.voice = .ok pcm16 := by
  obtain ⟨samples, sized, shape⟩ := built.made
  have numbered := built.after
  have bounded := built.before.trans few
  have safe : (192000 : Nat) ≤ maxSafeInteger := by decide
  refine ⟨floatToPcm16 source samples, ?_⟩
  have rate : frame.sampleRate = source.sampleRate := by rw [shape]; rfl
  have length : frame.frameMs = source.voice.frameMs := by rw [shape]; rfl
  have payload : frame.pcm16 = bytesToBase64Url (floatToPcm16 source samples) := by rw [shape]; rfl
  have stream : frame.streamId = "voice" := by rw [shape]; rfl
  have metadata : ¬ (frame.streamId ≠ "voice" ∨ maxSafeInteger < frame.seq ∨ frame.seq = 0 ∨
      maxSafeInteger < frame.sampleRate ∨ frame.sampleRate < 8000 ∨ 192000 < frame.sampleRate ∨
      frame.frameMs ≠ source.voice.frameMs) := by
    rw [stream, rate, length]
    simp only [ne_eq, not_true_eq_false, false_or, or_false, not_or]
    omega
  rw [decodeInboundVoiceFrame, if_neg metadata, payload, base64Url_roundtrip]
  simp only [floatToPcm16_length, sized, rate, length, ne_eq, not_true_eq_false, if_false]

end Frames

end OnlyTwo.VoiceCapture
