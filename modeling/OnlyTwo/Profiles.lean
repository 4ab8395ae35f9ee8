/-!
The profiles of client/src/config/profiles.ts, without the texts of their labels and
descriptions. The session, the transport, the crypto worker and the safety phrase read
their parts of this one table.
-/

namespace OnlyTwo.Profiles

inductive TransportProfileId where
  | balanced
  | lowData
  | voiceFirst
  | maximumPrivacy
  deriving DecidableEq, Repr

inductive VoicePrivacyMode where
  | efficient
  | maximumPrivacy
  deriving DecidableEq, Repr

def kb : Nat := 1024

def mb : Nat := 1024 * kb

inductive DropPolicy where
  | fail
  | dropOldest
  deriving DecidableEq, Repr

structure LaneBudget where
  priority : Nat
  maxPackets : Nat
  maxBytes : Nat
  dropPolicy : DropPolicy
  deriving DecidableEq, Repr

structure OutboxLimits where
  maxPackets : Nat
  maxBytes : Nat
  maxBufferedAmountBytes : Nat
  resumeBufferedAmountBytes : Nat
  deriving DecidableEq, Repr

def controlBudget : LaneBudget := ⟨100, 128, 2 * mb, .fail⟩

def voiceBudget : LaneBudget := ⟨80, 12, 768 * kb, .dropOldest⟩

def textBudget : LaneBudget := ⟨60, 256, 4 * mb, .fail⟩

def fileBudget : LaneBudget := ⟨10, 16, 2 * mb, .fail⟩

structure Outbox extends OutboxLimits where
  drainYieldMs : Nat
  deriving DecidableEq, Repr

structure Lanes where
  control : LaneBudget
  voice : LaneBudget
  text : LaneBudget
  file : LaneBudget
  deriving DecidableEq, Repr

structure Reconnect where
  maxAttempts : Nat
  baseDelayMs : Nat
  maxDelayMs : Nat
  jitterMs : Nat
  deriving DecidableEq, Repr

structure Files where
  smallBytes : Nat
  mediumBytes : Nat
  maxFileBytes : Nat
  maxMemoryReceiveBytes : Nat
  chunkBytes : Nat
  windowChunks : Nat
  ackTimeoutMs : Nat
  maxRetries : Nat
  deriving DecidableEq, Repr

inductive VoiceCodec where
  | pcm16
  deriving DecidableEq, Repr

structure Voice where
  enabled : Bool
  mode : VoicePrivacyMode
  codec : VoiceCodec
  frameMs : Nat
  jitterTargetMs : Nat
  jitterMaxFrames : Nat
  vadEnabled : Bool
  vadStartDb : Int
  vadStopDb : Int
  vadPreRollMs : Nat
  vadHangoverMs : Nat
  vadMinSpeechMs : Nat
  maxQueuedLatencyMs : Nat
  deriving DecidableEq, Repr

/-- A profile without the texts of its label and description. -/
structure TransportProfile where
  id : TransportProfileId
  protocolVersion : Nat
  maxFrameBytes : Nat
  paddingBuckets : List Nat
  maxSkippedMessageKeys : Nat
  outbox : Outbox
  lanes : Lanes
  reconnect : Reconnect
  files : Files
  voice : Voice
  deriving DecidableEq, Repr

def commonReconnect : Reconnect := ⟨18, 450, 5000, 350⟩

/-- `PROFILES` -/
def getProfile : TransportProfileId → TransportProfile
  | .balanced =>
      { id := .balanced
        protocolVersion := 2
        maxFrameBytes := 256 * kb
        paddingBuckets := [4 * kb, 16 * kb, 64 * kb, 128 * kb]
        maxSkippedMessageKeys := 512
        outbox := ⟨⟨384, 16 * mb, 2 * mb, 768 * kb⟩, 0⟩
        lanes := ⟨controlBudget, voiceBudget, textBudget, fileBudget⟩
        reconnect := commonReconnect
        files := ⟨10 * mb, 25 * mb, 50 * mb, 50 * mb, 32 * kb, 4, 12000, 8⟩
        voice := ⟨true, .efficient, .pcm16, 40, 120, 12, true, -45, -52, 120, 250, 60, 400⟩ }
  | .lowData =>
      { id := .lowData
        protocolVersion := 2
        maxFrameBytes := 128 * kb
        paddingBuckets := [4 * kb, 16 * kb, 64 * kb]
        maxSkippedMessageKeys := 512
        outbox := ⟨⟨192, 8 * mb, 1 * mb, 384 * kb⟩, 0⟩
        lanes := ⟨controlBudget, { voiceBudget with maxPackets := 8, maxBytes := 384 * kb }, textBudget,
          { fileBudget with maxPackets := 8, maxBytes := 1 * mb }⟩
        reconnect := ⟨20, 600, 6000, 450⟩
        files := ⟨5 * mb, 10 * mb, 25 * mb, 25 * mb, 16 * kb, 2, 16000, 10⟩
        voice := ⟨true, .efficient, .pcm16, 60, 180, 10, true, -43, -50, 120, 300, 80, 500⟩ }
  | .voiceFirst =>
      { id := .voiceFirst
        protocolVersion := 2
        maxFrameBytes := 256 * kb
        paddingBuckets := [4 * kb, 16 * kb, 64 * kb]
        maxSkippedMessageKeys := 512
        outbox := ⟨⟨256, 10 * mb, 1536 * kb, 512 * kb⟩, 0⟩
        lanes := ⟨controlBudget, ⟨95, 10, 640 * kb, .dropOldest⟩, textBudget, ⟨5, 8, 1 * mb, .fail⟩⟩
        reconnect := ⟨18, 350, 4000, 250⟩
        files := ⟨5 * mb, 25 * mb, 50 * mb, 50 * mb, 24 * kb, 2, 12000, 8⟩
        voice := ⟨true, .efficient, .pcm16, 30, 100, 14, true, -47, -54, 120, 220, 50, 250⟩ }
  | .maximumPrivacy =>
      { id := .maximumPrivacy
        protocolVersion := 2
        maxFrameBytes := 256 * kb
        paddingBuckets := [64 * kb, 128 * kb]
        maxSkippedMessageKeys := 512
        outbox := ⟨⟨192, 24 * mb, 2 * mb, 768 * kb⟩, 0⟩
        lanes := ⟨controlBudget, ⟨85, 16, 1 * mb, .dropOldest⟩, textBudget,
          { fileBudget with maxPackets := 8, maxBytes := 1 * mb }⟩
        reconnect := ⟨18, 500, 5000, 400⟩
        files := ⟨5 * mb, 10 * mb, 25 * mb, 25 * mb, 24 * kb, 2, 16000, 10⟩
        voice := ⟨true, .maximumPrivacy, .pcm16, 60, 180, 10, false, -45, -52, 0, 0, 0, 500⟩ }

theorem getProfile_chunked (id : TransportProfileId) : 0 < (getProfile id).files.chunkBytes := by
  cases id <;> decide

end OnlyTwo.Profiles
