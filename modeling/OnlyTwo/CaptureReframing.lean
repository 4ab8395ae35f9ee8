import OnlyTwo.VoiceCapture

/-!
`readFrame` of client/src/features/audio/VoiceService.ts and the `while` loop of the
capture handler, round by round: a round reads `captureBuffer[0]`, which may not be
there, and takes what it read off a counter of its own. `Counted` says that counter and
buffer agree; it is what keeps every read inside the buffer. `fill` and `drainCapture`
are these loops once they are known to end.
-/

namespace OnlyTwo.VoiceCapture

section Loops
variable {Sample : Type}

/-- A loop ends with a result or on a block that is not there, or is still running. -/
inductive Ending (Result : Type) where
  | done (result : Result)
  | missing
  | running
  deriving DecidableEq

structure Buffered (Sample : Type) where
  captureBuffer : List (List Sample)
  captureSamples : Int
  deriving DecidableEq

/-- What `setMuted`, `start` and `stop` leave. -/
def Buffered.reset : Buffered Sample := ⟨[], 0⟩

/-- The loop of `readFrame`; `offset` is the length of what the frame holds so far. -/
def readRounds (size : Nat) : Nat → List Sample → Buffered Sample →
    Ending (Buffered Sample × List Sample)
  | 0, frame, self => if frame.length < size then .running else .done (self, frame)
  | rounds + 1, frame, self =>
      if frame.length < size then
        match self.captureBuffer with
        | [] => .missing
        | first :: rest =>
            let take := min first.length (size - frame.length)
            readRounds size rounds (frame ++ first.take take)
              ⟨if take = first.length then rest else first.drop take :: rest,
                self.captureSamples - take⟩
      else .done (self, frame)

/-- Every round but the last takes a block out of the buffer. -/
def readFrame (size : Nat) (self : Buffered Sample) : Ending (Buffered Sample × List Sample) :=
  readRounds size self.captureBuffer.length [] self

/-- The loop of the handler, with the frames it reads. -/
def drainRounds (size : Nat) : Nat → Buffered Sample →
    Ending (Buffered Sample × List (List Sample))
  | 0, self => if size ≤ self.captureSamples then .running else .done (self, [])
  | rounds + 1, self =>
      if size ≤ self.captureSamples then
        match readFrame size self with
        | .missing => .missing
        | .running => .running
        | .done (after, frame) =>
            match drainRounds size rounds after with
            | .missing => .missing
            | .running => .running
            | .done (last, frames) => .done (last, frame :: frames)
      else .done (self, [])

/-- The handler of the port, up to what it does with the frames. -/
def onmessage (size : Nat) (self : Buffered Sample) (chunk : List Sample) :
    Ending (Buffered Sample × List (List Sample)) :=
  let heard : Buffered Sample :=
    ⟨self.captureBuffer ++ [chunk], self.captureSamples + chunk.length⟩
  drainRounds size heard.captureSamples.toNat heard

/-- The blocks between two resets, one after the other. -/
def reframe (size : Nat) : Buffered Sample → List (List Sample) →
    Ending (Buffered Sample × List (List Sample))
  | self, [] => .done (self, [])
  | self, chunk :: rest =>
      match onmessage size self chunk with
      | .missing => .missing
      | .running => .running
      | .done (after, frames) =>
          match reframe size after rest with
          | .missing => .missing
          | .running => .running
          | .done (last, later) => .done (last, frames ++ later)

end Loops

section Reads
variable {Sample : Type}

/-- The counter is the number of buffered samples. -/
def Counted (self : Buffered Sample) : Prop :=
  self.captureSamples = self.captureBuffer.flatten.length

theorem fill_parts (need : Nat) (buffer : List (List Sample)) :
    (fill need buffer).1 ++ (fill need buffer).2.flatten = buffer.flatten := by
  induction buffer generalizing need with
  | nil => rfl
  | cons first rest ih =>
      simp only [fill]
      split
      · rfl
      · split
        · simp only [List.flatten_cons, List.append_assoc, ih]
        · simp only [List.flatten_cons, ← List.append_assoc, List.take_append_drop]

theorem samplesOf_flatten (buffer : List (List Sample)) :
    samplesOf buffer = buffer.flatten.length := List.length_flatten.symm

theorem fill_length (need : Nat) (buffer : List (List Sample))
    (enough : need ≤ buffer.flatten.length) : (fill need buffer).1.length = need :=
  (fill_spec need buffer (by rwa [samplesOf_flatten])).1

theorem readRounds_full {size rounds : Nat} {frame : List Sample} {self : Buffered Sample}
    (full : size ≤ frame.length) : readRounds size rounds frame self = .done (self, frame) := by
  cases rounds with
  | zero => rw [readRounds, if_neg (Nat.not_lt.mpr full)]
  | succ rounds => rw [readRounds, if_neg (Nat.not_lt.mpr full)]

/-- With samples enough for the frame the loop meets a block in every round, and does
what `fill` does. -/
theorem readRounds_fill (size rounds : Nat) (frame : List Sample) (self : Buffered Sample)
    (room : frame.length ≤ size)
    (enough : size ≤ frame.length + self.captureBuffer.flatten.length)
    (fuel : self.captureBuffer.length ≤ rounds) :
    readRounds size rounds frame self =
      .done (⟨(fill (size - frame.length) self.captureBuffer).2,
        self.captureSamples - (size - frame.length : Nat)⟩,
        frame ++ (fill (size - frame.length) self.captureBuffer).1) := by
  induction rounds generalizing frame self with
  | zero =>
      have empty := List.length_eq_zero_iff.mp (Nat.le_zero.mp fuel)
      rw [empty, List.flatten_nil, List.length_nil, Nat.add_zero] at enough
      rw [readRounds_full enough, Nat.sub_eq_zero_of_le enough, empty, fill, List.append_nil]
      simp [← empty]
  | succ rounds ih =>
      by_cases full : size ≤ frame.length
      · rw [readRounds_full full, Nat.sub_eq_zero_of_le full]
        cases listed : self.captureBuffer with
        | nil => simp [fill, ← listed]
        | cons first rest => simp [fill, ← listed]
      · rw [readRounds, if_pos (Nat.not_le.mp full)]
        cases listed : self.captureBuffer with
        | nil =>
            rw [listed, List.flatten_nil, List.length_nil] at enough
            omega
        | cons first rest =>
            rw [listed, List.flatten_cons, List.length_append] at enough
            rw [listed, List.length_cons] at fuel
            have needed : ¬ size - frame.length = 0 := by omega
            simp only [fill, if_neg needed]
            by_cases whole : first.length ≤ size - frame.length
            · -- the block goes into the frame whole
              have length : (frame ++ first).length = frame.length + first.length :=
                List.length_append
              have inside : (frame ++ first).length ≤ size := by omega
              have supply : size ≤ (frame ++ first).length + rest.flatten.length := by omega
              have left : ((size - frame.length : Nat) : Int) =
                  first.length + (size - (frame.length + first.length) : Nat) := by omega
              have next := ih (frame ++ first) ⟨rest, self.captureSamples - first.length⟩
                inside supply (Nat.le_of_succ_le_succ fuel)
              rw [if_pos whole, Nat.min_eq_left whole, if_pos rfl, List.take_length, next, length,
                Nat.sub_add_eq, List.append_assoc, ← Nat.sub_add_eq, left, Int.sub_sub]
            · -- the frame takes the front of the block and is full
              have front := Nat.min_eq_right (Nat.le_of_not_le whole)
              have length : (frame ++ first.take (size - frame.length)).length = size := by
                rw [List.length_append, List.length_take, Nat.min_comm, front]
                omega
              rw [if_neg whole, front, if_neg (by omega), readRounds_full length.ge]

theorem fill_counted {self : Buffered Sample} (counted : Counted self) {size : Nat}
    (enough : size ≤ self.captureBuffer.flatten.length) :
    Counted (⟨(fill size self.captureBuffer).2, self.captureSamples - size⟩ : Buffered Sample) := by
  have parts := congrArg List.length (fill_parts size self.captureBuffer)
  rw [List.length_append, fill_length size self.captureBuffer enough] at parts
  have before : self.captureSamples = self.captureBuffer.flatten.length := counted
  change self.captureSamples - size = ((fill size self.captureBuffer).2.flatten.length : Int)
  omega

theorem Counted.enough {self : Buffered Sample} (counted : Counted self) {size : Nat}
    (ready : size ≤ self.captureSamples) : size ≤ self.captureBuffer.flatten.length := by
  have same : self.captureSamples = self.captureBuffer.flatten.length := counted
  omega

theorem readFrame_fill {self : Buffered Sample} (counted : Counted self) {size : Nat}
    (ready : size ≤ self.captureSamples) :
    readFrame size self = .done (⟨(fill size self.captureBuffer).2, self.captureSamples - size⟩,
      (fill size self.captureBuffer).1) := by
  have enough := counted.enough ready
  have read := readRounds_fill size self.captureBuffer.length [] self (Nat.zero_le size)
    (by simpa using enough) le_rfl
  simpa [readFrame] using read

/-- Frames cut off the front of what was buffered. -/
structure Reframed (size : Nat) (before : List Sample) (after : Buffered Sample)
    (frames : List (List Sample)) : Prop where
  whole : frames.flatten ++ after.captureBuffer.flatten = before
  counted : Counted after
  sized : ∀ frame ∈ frames, frame.length = size

theorem Reframed.cons {size : Nat} {before rest : List Sample} {after : Buffered Sample}
    {frame : List Sample} {frames : List (List Sample)} (reframed : Reframed size rest after frames)
    (parts : frame ++ rest = before) (sized : frame.length = size) :
    Reframed size before after (frame :: frames) := by
  refine ⟨?_, reframed.counted, ?_⟩
  · rw [List.flatten_cons, List.append_assoc, reframed.whole, parts]
  · intro other member
    rcases List.mem_cons.mp member with rfl | later
    · exact sized
    · exact reframed.sized other later

/-- A frame takes at least one sample away, so the loop of the handler ends. -/
theorem drainRounds_done {size : Nat} (positive : 1 ≤ size) (rounds : Nat)
    {self : Buffered Sample} (counted : Counted self) (fuel : self.captureSamples ≤ rounds) :
    ∃ after frames, drainRounds size rounds self = .done (after, frames) ∧
      Reframed size self.captureBuffer.flatten after frames ∧ after.captureSamples < size := by
  have none : Reframed size self.captureBuffer.flatten self [] := ⟨rfl, counted, nofun⟩
  induction rounds generalizing self with
  | zero =>
      have short : ¬ (size : Int) ≤ self.captureSamples := by omega
      exact ⟨self, [], by rw [drainRounds, if_neg short], none, by omega⟩
  | succ rounds ih =>
      by_cases ready : (size : Int) ≤ self.captureSamples
      · have enough := counted.enough ready
        have left := fill_counted counted enough
        obtain ⟨after, frames, drained, reframed, short⟩ := ih left
          (by change self.captureSamples - size ≤ rounds; omega) ⟨rfl, left, nofun⟩
        refine ⟨after, (fill size self.captureBuffer).1 :: frames, ?_, ?_, short⟩
        · rw [drainRounds, if_pos ready, readFrame_fill counted ready]
          simp only [drained]
        · exact reframed.cons (fill_parts size self.captureBuffer)
            (fill_length size self.captureBuffer enough)
      · exact ⟨self, [], by rw [drainRounds, if_neg ready], none, by omega⟩

theorem onmessage_done {size : Nat} (positive : 1 ≤ size) {self : Buffered Sample}
    (counted : Counted self) (chunk : List Sample) :
    ∃ after frames, onmessage size self chunk = .done (after, frames) ∧
      Reframed size (self.captureBuffer.flatten ++ chunk) after frames ∧
      after.captureSamples < size := by
  have heard : Counted (⟨self.captureBuffer ++ [chunk],
      self.captureSamples + chunk.length⟩ : Buffered Sample) := by
    have same : self.captureSamples = self.captureBuffer.flatten.length := counted
    simp [Counted, same]
  obtain ⟨after, frames, drained, reframed, short⟩ :=
    drainRounds_done positive (self.captureSamples + chunk.length).toNat heard (Int.self_le_toNat _)
  refine ⟨after, frames, drained, ?_, short⟩
  simpa using reframed

theorem reframe_done {size : Nat} (positive : 1 ≤ size) (chunks : List (List Sample))
    {self : Buffered Sample} (counted : Counted self) :
    ∃ after frames, reframe size self chunks = .done (after, frames) ∧
      Reframed size (self.captureBuffer.flatten ++ chunks.flatten) after frames := by
  induction chunks generalizing self with
  | nil => exact ⟨self, [], rfl, by simp, counted, nofun⟩
  | cons chunk rest ih =>
      obtain ⟨after, frames, heard, reframed, _⟩ := onmessage_done positive counted chunk
      obtain ⟨last, later, ran, further⟩ := ih reframed.counted
      refine ⟨last, frames ++ later, by simp only [reframe, heard, ran], ?_, further.counted, ?_⟩
      · rw [List.flatten_append, List.append_assoc, further.whole, ← List.append_assoc,
          reframed.whole, List.flatten_cons, List.append_assoc]
      · intro frame member
        rcases List.mem_append.mp member with now | next
        · exact reframed.sized frame now
        · exact further.sized frame next

/-- Between two resets nothing is lost or repeated, whatever the lengths of the blocks:
the loops end without a read of a missing block, the frames and what is left over are the
blocks one after the other, and the counter is the number of samples left over. -/
theorem reframing_lossless (size : Nat) (positive : 1 ≤ size) (chunks : List (List Sample)) :
    ∃ after frames, reframe size .reset chunks = .done (after, frames) ∧
      frames.flatten ++ after.captureBuffer.flatten = chunks.flatten ∧
      after.captureSamples = after.captureBuffer.flatten.length ∧
      ∀ frame ∈ frames, frame.length = size := by
  have counted : Counted (.reset : Buffered Sample) := rfl
  obtain ⟨after, frames, ran, reframed⟩ := reframe_done positive chunks counted
  exact ⟨after, frames, ran, reframed.whole, reframed.counted, reframed.sized⟩

/-- Frames of three samples out of blocks of one, none, five and two. -/
theorem uneven_blocks_reframed : ∃ after frames,
    reframe 3 .reset [[1], [], [2, 3, 4, 5, 6], [7, 8]] = .done (after, frames) ∧
      frames.flatten ++ after.captureBuffer.flatten = [1, 2, 3, 4, 5, 6, 7, 8] ∧
      frames = [[1, 2, 3], [4, 5, 6]] := by
  obtain ⟨after, frames, ran, whole, _, _⟩ :=
    reframing_lossless 3 (by decide) [[1], [], [2, 3, 4, 5, 6], [7, 8]]
  refine ⟨after, frames, ran, whole, ?_⟩
  have result : reframe 3 .reset [[1], [], [2, 3, 4, 5, 6], [7, 8]] =
      .done (⟨[[7, 8]], 2⟩, [[1, 2, 3], [4, 5, 6]]) := by decide
  cases ran.symm.trans result
  rfl

end Reads

/-! The capture of a session reads its frames with these loops. -/
section Capture
variable {Sample : Type} (source : Source Sample)

/-- The frames that the mode and the gate let through, in the order they were read. -/
def gated (vad : VadGate Sample) : List (List Sample) → VadGate Sample × List (List Sample)
  | [] => (vad, [])
  | frame :: rest =>
      let allowed := framesAllowedByVoiceMode source vad frame
      ((gated allowed.1 rest).1, allowed.2 ++ (gated allowed.1 rest).2)

theorem number_append (seq : Nat) (first second : List (List Sample)) :
    number source seq (first ++ second) =
      number source seq first ++ number source (seq + first.length) second := by
  induction first generalizing seq with
  | nil => rfl
  | cons frame rest ih =>
      rw [List.cons_append, number, number, ih, List.length_cons, List.cons_append,
        Nat.add_right_comm, Nat.add_assoc]

def Capture.buffered (self : Capture Sample) : Buffered Sample :=
  ⟨self.captureBuffer, self.captureSamples⟩

theorem drainCapture_frames (size rounds : Nat) {self : Capture Sample}
    (counted : Counted self.buffered) {after : Buffered Sample} {frames : List (List Sample)}
    (drained : drainRounds size rounds self.buffered = .done (after, frames)) :
    (drainCapture source size rounds self).1.buffered = after ∧
      (drainCapture source size rounds self).2 =
        number source self.seq (gated source self.vad frames).2 := by
  induction rounds generalizing self frames with
  | zero =>
      rw [drainRounds] at drained
      split at drained
      · cases drained
      · cases drained
        exact ⟨rfl, rfl⟩
  | succ rounds ih =>
      by_cases ready : size ≤ self.captureSamples
      · have large : (size : Int) ≤ self.buffered.captureSamples := Int.ofNat_le.mpr ready
        rw [drainRounds, if_pos large, readFrame_fill counted large] at drained
        have rest : (⟨(fill size self.buffered.captureBuffer).2,
            self.buffered.captureSamples - size⟩ : Buffered Sample) = Capture.buffered { self with
              captureBuffer := (fill size self.captureBuffer).2
              captureSamples := self.captureSamples - size
              vad := (framesAllowedByVoiceMode source self.vad (fill size self.captureBuffer).1).1
              seq := self.seq + (framesAllowedByVoiceMode source self.vad
                (fill size self.captureBuffer).1).2.length } := by
          simp only [Capture.buffered, Buffered.mk.injEq, true_and]
          omega
        have left := fill_counted counted (counted.enough large)
        rw [rest] at drained left
        simp only at drained
        split at drained
        · cases drained
        · cases drained
        · rename_i last later ran
          cases drained
          obtain ⟨buffer, sent⟩ := ih left ran
          rw [drainCapture, if_pos ready]
          refine ⟨buffer, ?_⟩
          simp only [gated, number_append, sent]
          rfl
      · have short : ¬ (size : Int) ≤ self.buffered.captureSamples := fun large =>
          ready (Int.ofNat_le.mp large)
        rw [drainRounds, if_neg short] at drained
        cases drained
        rw [drainCapture, if_neg ready]
        exact ⟨rfl, rfl⟩

/-- A delivered block is reframed, and every frame of it goes through the gate. -/
theorem message_reframed {self : Capture Sample} (counted : Counted self.buffered)
    (listening : self.stream = true) (unmuted : self.muted = false) (chunk : List Sample) :
    ∃ frames, onmessage (samplesPerFrame source.sampleRate source.voice.frameMs) self.buffered
        chunk = .done ((step source self (.message chunk)).1.buffered, frames) ∧
      (step source self (.message chunk)).2 =
        number source self.seq (gated source self.vad frames).2 := by
  obtain ⟨after, frames, heard, _, _⟩ := onmessage_done
    (samplesPerFrame_pos source.sampleRate source.voice.frameMs) counted chunk
  have pushed : Counted (Capture.buffered { self with
      captureBuffer := self.captureBuffer ++ [chunk]
      captureSamples := self.captureSamples + chunk.length }) := by
    have same : (self.captureSamples : Int) = self.captureBuffer.flatten.length := counted
    simp [Counted, Capture.buffered, same]
  have drained := drainCapture_frames source
    (samplesPerFrame source.sampleRate source.voice.frameMs)
    (self.captureSamples + chunk.length) pushed heard
  have stepped : step source self (.message chunk) =
      drainCapture source (samplesPerFrame source.sampleRate source.voice.frameMs)
        (self.captureSamples + chunk.length) { self with
          captureBuffer := self.captureBuffer ++ [chunk]
          captureSamples := self.captureSamples + chunk.length } := by
    simp [step, listening, unmuted]
  rw [stepped]
  exact ⟨frames, by rw [heard, drained.1], drained.2⟩

end Capture

end OnlyTwo.VoiceCapture
