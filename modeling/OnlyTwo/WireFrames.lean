import OnlyTwo.CryptoWorker
import OnlyTwo.PacketScheduler
import OnlyTwo.Session

/-!
What a client reads from and writes to its socket: the envelopes of
client/src/protocol/envelope.ts and the relay events of
client/src/protocol/relayControl.ts.
-/

namespace OnlyTwo.Transport

open Bytes OnlyTwo.Envelope AppMessages
open Session (RelayEvent)

section Envelopes

structure Envelope extends AadContext where
  counter : Nat
  nonce : Bytes
  payload : Bytes
  lane : LaneName
  deriving DecidableEq, Repr

def packEnvelope (env : Envelope) (profile : TransportLimits) : Except String Bytes :=
  let total := headerBytes + env.payload.length
  let limit := profile.maxFrameBytes
  if env.nonce.length ≠ nonceBytes then .error "Invalid nonce length"
  else if env.protocolVersion ≠ profile.protocolVersion then .error "Protocol/profile mismatch"
  else if limit < total then .error s!"Frame too large: {total} > {limit}"
  else .ok ([magicA, magicB] ++ bigEndian 1 profile.protocolVersion ++
    bigEndian 1 env.outerType.code ++ bigEndian 1 env.flags ++ bigEndian 1 headerBytes ++
    bigEndian 4 env.streamId ++ bigEndian 4 env.sequence ++ bigEndian 8 env.counter ++
    env.nonce ++ bigEndian 4 env.payload.length ++ env.payload)

/-- An unsigned integer of `width` bytes, as a `DataView` reads it. -/
def getUint (bytes : Bytes) (start width : Nat) : Nat :=
  readBigEndian ((bytes.drop start).take width)

def outerTypeOf : Nat → Option OuterType
  | 1 => some .handshake
  | 2 => some .data
  | _ => none

def laneOf : OuterType → LaneName
  | .handshake => .control
  | .data => .text

def unpackEnvelope (bytes : Bytes) (profile : TransportLimits) : Except String Envelope :=
  let protocolVersion := getUint bytes 2 1
  if bytes.length < headerBytes then .error "Frame too small"
  else if profile.maxFrameBytes < bytes.length then .error "Frame too large"
  else if bytes[0]? ≠ some magicA ∨ bytes[1]? ≠ some magicB then .error "Invalid frame magic"
  else if protocolVersion ≠ profile.protocolVersion then
    .error s!"Unsupported protocol version: {protocolVersion}"
  else
    match outerTypeOf (getUint bytes 3 1) with
    | none => .error "Unknown frame type"
    | some outerType =>
        if getUint bytes 4 1 ≠ 0 then .error "Reserved frame flags set"
        else if getUint bytes 5 1 ≠ headerBytes then .error "Invalid frame header length"
        else if getUint bytes 34 4 + headerBytes ≠ bytes.length then
          .error "Invalid frame payload length"
        else .ok
          { protocolVersion := protocolVersion
            outerType := outerType
            flags := getUint bytes 4 1
            streamId := getUint bytes 6 4
            sequence := getUint bytes 10 4
            counter := getUint bytes 14 8
            nonce := (bytes.drop 22).take nonceBytes
            payload := bytes.drop headerBytes
            lane := laneOf outerType }

end Envelopes

section RelayControl

def relayMagicA : UInt8 := 0x4f
def relayMagicB : UInt8 := 0x52
def relayVersion : UInt8 := 1

inductive RelayControlType where
  | peerPresent
  | peerDisconnected
  | peerRejoined
  | sessionEnd
  | sessionEnded
  deriving DecidableEq, Repr

def RelayControlType.code : RelayControlType → UInt8
  | .peerPresent => 1
  | .peerDisconnected => 2
  | .peerRejoined => 3
  | .sessionEnd => 4
  | .sessionEnded => 5

def encodeRelayControl (kind : RelayControlType) : Bytes :=
  [relayMagicA, relayMagicB, relayVersion, kind.code]

def encodeSessionEndCommand : Bytes := encodeRelayControl .sessionEnd

def relayControlTypeOf : UInt8 → Option RelayControlType
  | 1 => some .peerPresent
  | 2 => some .peerDisconnected
  | 3 => some .peerRejoined
  | 4 => some .sessionEnd
  | 5 => some .sessionEnded
  | _ => none

def decodeType : Bytes → Option RelayControlType
  | [first, second, version, kind] =>
      if first ≠ relayMagicA ∨ second ≠ relayMagicB ∨ version ≠ relayVersion then none
      else relayControlTypeOf kind
  | _ => none

def decodeRelayEvent (bytes : Bytes) : Option RelayEvent :=
  match decodeType bytes with
  | some .peerPresent => some .peerPresent
  | some .peerDisconnected => some .peerDisconnected
  | some .peerRejoined => some .peerRejoined
  | some .sessionEnded => some .sessionEnded
  | some .sessionEnd | none => none

end RelayControl

end OnlyTwo.Transport
