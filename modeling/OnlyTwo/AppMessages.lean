import OnlyTwo.FileProtocol
import OnlyTwo.Profiles
import OnlyTwo.Reliable

/-!
Profiles of client/src/config/profiles.ts and the decoded messages of
client/src/protocol/appMessages.ts, as far as the session reads them. The
decoder wraps only some kinds in a `reliable.msg`, so a body carries the proof
that it passed that test. Texts of a chat are UTF-16 code units.
-/

namespace OnlyTwo.AppMessages

open Bytes FileProtocol Reliable

section Profiles

export Profiles (TransportProfileId VoicePrivacyMode kb mb)

structure VoiceProfile where
  mode : VoicePrivacyMode
  frameMs : Nat
  maxQueuedLatencyMs : Nat
  deriving DecidableEq, Repr

structure TransportProfile where
  id : TransportProfileId
  files : FileLimits
  voice : VoiceProfile
  deriving DecidableEq

/-- What the session reads of a profile. Every call with one id returns the same object, so
profiles are the same object exactly if they are equal. -/
def getProfile (id : TransportProfileId) : TransportProfile :=
  let profile := Profiles.getProfile id
  { id := profile.id
    files :=
      { smallBytes := profile.files.smallBytes
        maxFileBytes := profile.files.maxFileBytes
        maxMemoryReceiveBytes := profile.files.maxMemoryReceiveBytes
        chunkBytes := profile.files.chunkBytes
        windowChunks := profile.files.windowChunks
        maxRetries := profile.files.maxRetries
        chunked := Profiles.getProfile_chunked id }
    voice := ⟨profile.voice.mode, profile.voice.frameMs, profile.voice.maxQueuedLatencyMs⟩ }

end Profiles

section Messages

inductive LaneName where
  | control
  | text
  | file
  | voice
  deriving DecidableEq, Repr

structure HandshakeMessage where
  publicKey : String
  profileId : TransportProfileId
  profileHash : String
  appVersion : String
  featureFlags : List String
  deriving DecidableEq, Repr

def appVersion : String := "onlytwo-client-2.0.0-beta.3"

def featureFlags : List String :=
  ["text.v2", "file.window.v1", "voice.pcm16.v2", "verify.phrase.v1", "reliable.v1", "voice.vad.v1",
    "voice.queue.v1", "relay.lifecycle.v1", "room.profile.v1"]

def maxTextMessageChars : Nat := 8000

/-- The fields of a `voice.start`. -/
structure VoiceStart where
  streamId : String
  sampleRate : Nat
  frameMs : Nat
  mode : Option VoicePrivacyMode
  deriving DecidableEq, Repr

inductive CoreAppMessage where
  | sessionVerified (time : Nat)
  | text (messageId : String) (body : Utf16) (createdAt : Nat)
  | file (message : FileMessage)
  | voiceStart (fields : VoiceStart)
  | voiceFrame (streamId : String) (seq sentAt sampleRate frameMs : Nat) (pcm16 : String)
  | voiceStop (streamId : String)
  deriving DecidableEq, Repr

def isReliableBody : CoreAppMessage → Bool
  | .file (.chunk _ _ _ _) => false
  | .file (.ack _ _) => false
  | .file (.nack _ _ _) => false
  | .voiceFrame _ _ _ _ _ _ => false
  | _ => true

abbrev ReliableBodyMessage := { message : CoreAppMessage // isReliableBody message = true }

inductive AppMessage where
  | core (message : CoreAppMessage)
  | reliable (message : ReliableEnvelopeMessage ReliableBodyMessage)
  deriving DecidableEq

def isText : CoreAppMessage → Bool
  | .text _ _ _ => true
  | _ => false

def validateInboundStream (message : AppMessage) (streamId : Nat) : Except String Unit :=
  match streamId, message with
  | 1, .reliable (.ack _) => .ok ()
  | 1, .reliable (.nack _ _) => .ok ()
  | 1, .core (.file (.ack _ _)) => .ok ()
  | 1, .core (.file (.nack _ _ _)) => .ok ()
  | 1, .reliable (.msg _ .control body _ _) =>
      if isText body.1 then .error "Message kind does not match control stream" else .ok ()
  | 1, _ => .error "Message kind does not match control stream"
  | 2, .reliable (.msg _ .text body _ _) =>
      if isText body.1 then .ok () else .error "Message kind does not match text stream"
  | 2, _ => .error "Message kind does not match text stream"
  | 3, .core (.file (.chunk _ _ _ _)) => .ok ()
  | 3, _ => .error "Message kind does not match file stream"
  | 4, .core (.voiceFrame _ _ _ _ _ _) => .ok ()
  | 4, _ => .error "Message kind does not match voice stream"
  | _, _ => .error "Unknown encrypted stream"

/-- `shouldSendReliably`, with the body it narrows the message to. -/
def reliableBody (message : CoreAppMessage) (lane : LaneName) : Option ReliableBodyMessage :=
  if fits : isReliableBody message = true then
    if lane = .control ∨ lane = .text then some ⟨message, fits⟩ else none
  else none

end Messages

end OnlyTwo.AppMessages
