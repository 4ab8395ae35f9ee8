import Mathlib.Data.List.DropRight
import OnlyTwo.VoiceCapture

/-!
What the gate of client/src/features/audio/VadGate.ts lets through over a run of frames
under one configuration. A frame that stops the speech is not sent but kept for the next
pre-roll, so sent and kept frames are followed together: side by side they stay a
subsequence of what was heard. Levels enter through comparisons only.
-/

namespace OnlyTwo.VoiceCapture

section Gate
variable {Sample : Type} (loud : List Sample → Int → Bool)

/-- What a decision lets `framesAllowedByVoiceMode` return. -/
def VadDecision.passed (decision : VadDecision Sample) : List (List Sample) :=
  if decision.send then decision.frames else []

/-- A frame with what the gate decided on it. -/
abbrev Heard (Sample : Type) := List Sample × VadDecision Sample

def gateMachine : Machine (VadGate Sample) (List Sample) (Heard Sample) :=
  ⟨fun gate frame => some ((gate.process loud frame).1, [(frame, (gate.process loud frame).2)])⟩

def VadGate.create (config : VadConfig) : VadGate Sample := ⟨config, false, 0, 0, []⟩

def input (history : List (Heard Sample)) : List (List Sample) := history.map Prod.fst

def emitted (history : List (Heard Sample)) : List (List Sample) :=
  history.flatMap fun heard => heard.2.passed

/-- The frames after the last one that started speech. -/
def sinceStart (history : List (Heard Sample)) : List (List Sample) :=
  input (history.rtakeWhile fun heard => !heard.2.started)

/-- How many frames at the end are in a row below a threshold. -/
def quietFrames (threshold : Int) (frames : List (List Sample)) : Nat :=
  (frames.rtakeWhile fun frame => !loud frame threshold).length

/-- The pre-roll once a frame has come in and the oldest ones are gone. -/
def VadGate.rolled (gate : VadGate Sample) (frame : List Sample) : List (List Sample) :=
  (gate.preRoll ++ [frame]).drop ((gate.preRoll ++ [frame]).length - gate.config.preRollFrames)

def VadGate.above (gate : VadGate Sample) (frame : List Sample) : Nat :=
  if loud frame gate.config.startDb then gate.aboveStartFrames + 1 else 0

/-- Everything an enabled gate can do with a frame. -/
inductive Moves (gate : VadGate Sample) (frame : List Sample) :
    VadGate Sample → VadDecision Sample → Prop where
  | wait (silent : gate.speaking = false)
      (few : gate.above loud frame < gate.config.minSpeechFrames) :
      Moves gate frame
        { gate with preRoll := gate.rolled frame, aboveStartFrames := gate.above loud frame }
        ⟨false, false, false, []⟩
  | start (silent : gate.speaking = false)
      (enough : gate.config.minSpeechFrames ≤ gate.above loud frame) :
      Moves gate frame
        { gate with
          preRoll := []
          speaking := true
          hangoverRemaining := gate.config.hangoverFrames
          aboveStartFrames := 0 }
        ⟨true, true, false, gate.rolled frame⟩
  | speak (speaking : gate.speaking = true) (level : loud frame gate.config.stopDb = true) :
      Moves gate frame { gate with hangoverRemaining := gate.config.hangoverFrames }
        ⟨true, false, false, [frame]⟩
  | hang (speaking : gate.speaking = true) (level : loud frame gate.config.stopDb = false)
      (left : 0 < gate.hangoverRemaining) :
      Moves gate frame { gate with hangoverRemaining := gate.hangoverRemaining - 1 }
        ⟨true, false, false, [frame]⟩
  | stop (speaking : gate.speaking = true) (level : loud frame gate.config.stopDb = false)
      (none : gate.hangoverRemaining = 0) :
      Moves gate frame { gate with speaking := false, preRoll := [frame] }
        ⟨false, false, true, []⟩

theorem process_moves {gate : VadGate Sample} (enabled : gate.config.enabled = true)
    (frame : List Sample) :
    Moves loud gate frame (gate.process loud frame).1 (gate.process loud frame).2 := by
  simp only [VadGate.process, enabled, Bool.not_true, Bool.false_eq_true, if_false]
  cases speaking : gate.speaking with
  | false =>
      simp only [Bool.not_false, if_true]
      by_cases enough : gate.config.minSpeechFrames ≤ gate.above loud frame
      · have reached := enough
        rw [VadGate.above] at reached
        rw [if_pos reached]
        exact Moves.start speaking enough
      · have short := enough
        rw [VadGate.above] at short
        rw [if_neg short]
        exact speaking ▸ Moves.wait speaking (Nat.not_le.mp enough)
  | true =>
      simp only [Bool.not_true, Bool.false_eq_true, if_false]
      split
      · rename_i level
        exact speaking ▸ Moves.speak speaking level
      · rename_i level
        rw [Bool.not_eq_true] at level
        split
        · rename_i left
          exact speaking ▸ Moves.hang speaking level left
        · rename_i none
          exact Moves.stop speaking level (Nat.eq_zero_of_not_pos none)

/-- The run so far, in the terms of what was heard. -/
structure Gated (config : VadConfig) (gate : VadGate Sample) (history : List (Heard Sample)) :
    Prop where
  settled : gate.config = config
  held : gate.preRoll.length ≤ config.preRollFrames
  once : (emitted history ++ gate.preRoll).Sublist (input history)
  silent : gate.speaking = false → gate.aboveStartFrames < config.minSpeechFrames ∧
    gate.preRoll <:+ input history ∧ ∃ risen, risen <:+ gate.preRoll ∧
      risen.length = gate.aboveStartFrames ∧ ∀ frame ∈ risen, loud frame config.startDb = true
  speaking : gate.speaking = true → gate.aboveStartFrames = 0 ∧ gate.preRoll = [] ∧
    gate.hangoverRemaining + quietFrames loud config.stopDb (sinceStart history) =
      config.hangoverFrames

variable {loud} {config : VadConfig} {gate : VadGate Sample} {history : List (Heard Sample)}

theorem create_gated (some : 1 ≤ config.minSpeechFrames) :
    Gated loud config (VadGate.create config) [] :=
  ⟨rfl, Nat.zero_le _, List.Sublist.slnil, fun _ => ⟨some, List.suffix_rfl, [], List.suffix_rfl,
    rfl, nofun⟩, nofun⟩

section History

@[simp] theorem input_concat (history : List (Heard Sample)) (heard : Heard Sample) :
    input (history ++ [heard]) = input history ++ [heard.1] := List.map_append

@[simp] theorem emitted_concat (history : List (Heard Sample)) (heard : Heard Sample) :
    emitted (history ++ [heard]) = emitted history ++ heard.2.passed := by
  simp [emitted]

theorem sinceStart_concat (history : List (Heard Sample)) (heard : Heard Sample) :
    sinceStart (history ++ [heard]) =
      if heard.2.started then [] else sinceStart history ++ [heard.1] := by
  rw [sinceStart, List.rtakeWhile_concat]
  cases heard.2.started with
  | false => exact input_concat _ heard
  | true => rfl

theorem quietFrames_concat (loud : List Sample → Int → Bool) (threshold : Int)
    (frames : List (List Sample)) (frame : List Sample) :
    quietFrames loud threshold (frames ++ [frame]) =
      if loud frame threshold then 0 else quietFrames loud threshold frames + 1 := by
  rw [quietFrames, List.rtakeWhile_concat]
  cases loud frame threshold with
  | false => exact List.length_append
  | true => rfl

end History

theorem rolled_suffix (gate : VadGate Sample) (frame : List Sample) :
    gate.rolled frame <:+ gate.preRoll ++ [frame] := List.drop_suffix _ _

theorem rolled_length (gate : VadGate Sample) (frame : List Sample) :
    (gate.rolled frame).length = min gate.config.preRollFrames (gate.preRoll.length + 1) := by
  rw [VadGate.rolled, List.length_drop, List.length_append, List.length_singleton]
  omega

/-- The frames in a row at or above the start threshold, with the new one. -/
theorem Gated.risen (gated : Gated loud config gate history) (silent : gate.speaking = false)
    (room : config.minSpeechFrames ≤ config.preRollFrames) (frame : List Sample) :
    ∃ risen, risen <:+ gate.rolled frame ∧ risen.length = gate.above loud frame ∧
      ∀ one ∈ risen, loud one config.startDb = true := by
  obtain ⟨few, _, risen, suffix, length, high⟩ := gated.silent silent
  rw [VadGate.above, gated.settled]
  by_cases level : loud frame config.startDb = true
  · refine ⟨risen ++ [frame], ?_, ?_, ?_⟩
    · refine List.suffix_of_suffix_length_le ?_ (rolled_suffix gate frame) ?_
      · obtain ⟨older, whole⟩ := suffix
        exact ⟨older, by rw [← whole, List.append_assoc]⟩
      · have short := suffix.length_le
        rw [rolled_length, gated.settled, List.length_append, List.length_singleton]
        omega
    · rw [if_pos level, List.length_append, List.length_singleton, length]
    · intro one member
      rcases List.mem_append.mp member with early | last
      · exact high one early
      · rwa [List.mem_singleton.mp last]
  · exact ⟨[], List.nil_suffix, by rw [if_neg level, List.length_nil], nofun⟩

/-- The pre-roll and the frames that are already sent leave room for the new frame. -/
theorem Gated.rolled_once (gated : Gated loud config gate history) (frame : List Sample) :
    (emitted history ++ gate.rolled frame).Sublist (input history ++ [frame]) := by
  have appended := gated.once.append (List.Sublist.refl [frame])
  rw [List.append_assoc] at appended
  exact ((List.Sublist.refl _).append (rolled_suffix gate frame).sublist).trans appended

theorem Gated.rolled_suffix_input (gated : Gated loud config gate history)
    (silent : gate.speaking = false) (frame : List Sample) :
    gate.rolled frame <:+ input history ++ [frame] := by
  obtain ⟨_, ⟨older, whole⟩, _⟩ := gated.silent silent
  refine (rolled_suffix gate frame).trans ⟨older, ?_⟩
  rw [← whole, List.append_assoc]

/-- One frame keeps the account of the run. -/
theorem Gated.next (gated : Gated loud config gate history)
    (room : config.minSpeechFrames ≤ config.preRollFrames) (some : 1 ≤ config.minSpeechFrames)
    {frame : List Sample} {after : VadGate Sample} {decision : VadDecision Sample}
    (moves : Moves loud gate frame after decision) :
    Gated loud config after (history ++ [(frame, decision)]) := by
  cases moves with
  | wait silent few =>
      have kept : (gate.rolled frame).length ≤ config.preRollFrames := by
        rw [rolled_length, gated.settled]
        exact Nat.min_le_left _ _
      refine ⟨gated.settled, kept, ?_, ?_, ?_⟩
      · simpa [VadDecision.passed] using gated.rolled_once frame
      · intro _
        rw [gated.settled] at few
        rw [input_concat]
        exact ⟨few, gated.rolled_suffix_input silent frame, gated.risen silent room frame⟩
      · intro speaking
        exact absurd (silent.symm.trans speaking) (by decide)
  | start silent enough =>
      refine ⟨gated.settled, Nat.zero_le _, ?_, nofun, ?_⟩
      · simpa [VadDecision.passed] using gated.rolled_once frame
      · intro _
        rw [sinceStart_concat, gated.settled]
        exact ⟨rfl, rfl, rfl⟩
  | speak speaking level =>
      obtain ⟨counted, empty, hangover⟩ := gated.speaking speaking
      have once := gated.once
      rw [empty, List.append_nil] at once
      refine ⟨gated.settled, gated.held, ?_, ?_, ?_⟩
      · simpa [VadDecision.passed, empty] using once
      · intro silent
        exact absurd (speaking.symm.trans silent) (by decide)
      · intro _
        rw [gated.settled] at level
        rw [sinceStart_concat, if_neg Bool.false_ne_true, quietFrames_concat, if_pos level]
        exact ⟨counted, empty, by rw [gated.settled, Nat.add_zero]⟩
  | hang speaking level left =>
      obtain ⟨counted, empty, hangover⟩ := gated.speaking speaking
      have once := gated.once
      rw [empty, List.append_nil] at once
      refine ⟨gated.settled, gated.held, ?_, ?_, ?_⟩
      · simpa [VadDecision.passed, empty] using once
      · intro silent
        exact absurd (speaking.symm.trans silent) (by decide)
      · intro _
        rw [gated.settled] at level
        rw [sinceStart_concat, if_neg Bool.false_ne_true, quietFrames_concat, level]
        refine ⟨counted, empty, ?_⟩
        simp only [Bool.false_eq_true, if_false]
        omega
  | stop speaking level none =>
      obtain ⟨counted, empty, hangover⟩ := gated.speaking speaking
      have once := gated.once
      rw [empty, List.append_nil] at once
      refine ⟨gated.settled, some.trans room, ?_, ?_, nofun⟩
      · -- the frame that stopped the speech is kept, not sent
        simpa [VadDecision.passed] using once
      · intro _
        rw [input_concat, counted]
        exact ⟨some, List.suffix_append _ _, [], List.nil_suffix, rfl, nofun⟩

theorem run_gated {allowed : VadGate Sample → List Sample → Prop}
    (enabled : config.enabled = true) (room : config.minSpeechFrames ≤ config.preRollFrames)
    (some : 1 ≤ config.minSpeechFrames)
    (run : Machine.Run (gateMachine loud) allowed (VadGate.create config) gate history) :
    Gated loud config gate history := by
  refine run.invariant (fun gate history => Gated loud config gate history)
    (create_gated some) ?_
  intro before past frame after outputs gated _ stepped
  cases stepped
  exact gated.next room some (process_moves loud (gated.settled ▸ enabled) frame)

/-- Over a whole run what is sent is a subsequence of what was heard and the pre-roll keeps
its size. A frame that starts speech is sent last, behind the frames in a row that reached
the start threshold. During speech every frame is sent, until the one that makes it
`hangoverFrames + 1` frames in a row below the stop threshold: there the gate stops. -/
theorem gate_sends_cleanly (enabled : config.enabled = true)
    (room : config.minSpeechFrames ≤ config.preRollFrames) (some : 1 ≤ config.minSpeechFrames)
    (run : Machine.Run (gateMachine loud) Machine.Unrestricted (VadGate.create config) gate
      history) :
    (emitted history).Sublist (input history) ∧
      gate.preRoll.length ≤ config.preRollFrames ∧
      ∀ frame after decision, gate.process loud frame = (after, decision) →
        (decision.started = true → decision.passed.getLast? = Option.some frame ∧
          ∃ trigger, trigger.length = config.minSpeechFrames ∧
            (∀ one ∈ trigger, loud one config.startDb = true) ∧
            trigger <:+ input history ++ [frame] ∧ trigger <:+ decision.passed) ∧
        (gate.speaking = true →
          (decision.stopped = true ↔ quietFrames loud config.stopDb
            (sinceStart history ++ [frame]) = config.hangoverFrames + 1) ∧
          after.speaking = !decision.stopped ∧
          (decision.stopped = false → decision.passed = [frame])) := by
  have gated := run_gated enabled room some run
  refine ⟨(List.sublist_append_left _ _).trans gated.once, gated.held, ?_⟩
  intro frame after decision processed
  have moves := process_moves loud (gated.settled ▸ enabled) frame
  rw [processed] at moves
  refine ⟨?_, ?_⟩
  · intro started
    cases moves with
    | start silent enough =>
        obtain ⟨few, _⟩ := gated.silent silent
        obtain ⟨trigger, suffix, length, high⟩ := gated.risen silent room frame
        have reached : gate.above loud frame = config.minSpeechFrames := by
          rw [gated.settled] at enough
          -- The counter grows by one a frame, so it stands at the threshold when it reaches it.
          have above : gate.above loud frame ≤ gate.aboveStartFrames + 1 := by
            rw [VadGate.above]
            split <;> omega
          omega
        refine ⟨?_, trigger, length.trans reached, high,
          suffix.trans (gated.rolled_suffix_input silent frame), suffix⟩
        have sent : gate.rolled frame ≠ [] := by
          have long := suffix.length_le
          exact List.ne_nil_of_length_pos (by omega)
        change (gate.rolled frame).getLast? = _
        rw [List.getLast?_eq_some_getLast sent, (rolled_suffix gate frame).getLast sent,
          List.getLast_append_singleton]
    | _ => cases started
  · intro speaking
    obtain ⟨_, _, hangover⟩ := gated.speaking speaking
    -- The hangover counts down what the quiet frames in a row count up.
    rw [quietFrames_concat, ← gated.settled]
    rw [← gated.settled] at hangover
    cases moves with
    | wait silent _ => exact absurd (silent.symm.trans speaking) (by decide)
    | start silent _ => exact absurd (silent.symm.trans speaking) (by decide)
    | speak _ level =>
        rw [if_pos level]
        exact ⟨⟨nofun, nofun⟩, speaking, fun _ => rfl⟩
    | hang _ level left =>
        rw [level, if_neg Bool.false_ne_true]
        refine ⟨⟨nofun, ?_⟩, speaking, fun _ => rfl⟩
        intro quiet
        omega
    | stop _ level none =>
        rw [level, if_neg Bool.false_ne_true]
        refine ⟨⟨fun _ => by omega, fun _ => rfl⟩, rfl, nofun⟩

/-- Two frames start the speech and the second quiet one in a row stops it; the frame that
stops it opens the pre-roll of the next start. -/
theorem speech_sent_twice : ∃ gate history,
    Machine.Run (gateMachine fun frame threshold => decide (threshold ≤ frame.headD 0))
      Machine.Unrestricted (VadGate.create ⟨true, 5, 3, 3, 1, 2⟩) gate history ∧
      emitted history = [[1], [6], [7], [4], [2], [1], [8], [9]] ∧
      (emitted history).Sublist (input history) := by
  have ran : ((gateMachine fun frame threshold => decide (threshold ≤ frame.headD 0)).execute
      (VadGate.create ⟨true, 5, 3, 3, 1, 2⟩)
        [[6], [0], [1], [6], [7], [4], [2], [1], [8], [9]]).map
          (fun result => emitted result.2) = some [[1], [6], [7], [4], [2], [1], [8], [9]] := by
    decide
  obtain ⟨⟨gate, history⟩, executed, sent⟩ := Option.map_eq_some_iff.mp ran
  have run := Machine.execute_run _ (Machine.along_unrestricted _ _) executed
  exact ⟨gate, history, run, sent, (gate_sends_cleanly rfl (by decide) (by decide) run).1⟩

end Gate

end OnlyTwo.VoiceCapture
