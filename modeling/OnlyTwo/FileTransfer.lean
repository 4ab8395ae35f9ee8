import OnlyTwo.FileSender
import OnlyTwo.FileReceiver

/-!
One `FileSender` and one `FileReceiver` joined by two wires. A chunk, an ACK or
a NACK that was ever handed to a wire may arrive any number of times, in any
order, or never. A control message arrives at most once, in any order. Local
calls, settled calls and timers of both sides run at any moment in between.
`handleAppMessage` of the session decides what a message does.
-/

namespace OnlyTwo.FileTransfer

open Bytes FileProtocol FileSender FileReceiver

structure Wire where
  control : List FileMessage
  frames : List FileMessage
  deriving DecidableEq

namespace Wire

/-- The messages that may be lost, repeated and delayed. -/
def lossy : FileMessage → Bool
  | .chunk _ _ _ _ => true
  | .ack _ _ => true
  | .nack _ _ _ => true
  | _ => false

def post (wire : Wire) (messages : List FileMessage) : Wire :=
  ⟨wire.control ++ messages.filter (fun message => !lossy message),
    wire.frames ++ messages.filter lossy⟩

/-- The wire after a delivery, if this message can arrive. -/
def take (wire : Wire) (message : FileMessage) : Option Wire :=
  if lossy message then if message ∈ wire.frames then some wire else none
  else if message ∈ wire.control then some { wire with control := wire.control.erase message }
  else none

end Wire

structure World where
  sender : Sender
  receiver : Receiver
  toReceiver : Wire
  toSender : Wire
  deriving DecidableEq

def start (ours theirs : FileLimits) : World :=
  ⟨Sender.create ours, Receiver.create theirs, ⟨[], []⟩, ⟨[], []⟩⟩

inductive Event where
  | sender (event : FileSender.Event)
  | receiver (event : FileReceiver.Event)
  | toReceiver (message : FileMessage)
  | toSender (message : FileMessage)

/-- The cases of `handleAppMessage` that reach the sender. -/
def senderEvent : FileMessage → Option FileSender.Event
  | .accept fileId => some (.accept fileId)
  | .reject fileId reason => some (.cancel fileId reason false)
  | .ack fileId index => some (.ack fileId index)
  | .nack fileId index reason => some (.nack fileId index reason)
  | .pause fileId reason => some (.pause fileId reason)
  | .resume fileId => some (.resume fileId)
  | .cancel fileId reason => some (.cancel fileId reason false)
  | _ => none

/-- The cases of `handleAppMessage` that reach the receiver. -/
def receiverEvent : FileMessage → Option FileReceiver.Event
  | .offer fields => some (.offer fields)
  | .chunk fileId index totalChunks data => some (.chunk fileId index totalChunks data)
  | .cancel fileId reason => some (.peerCancel fileId reason)
  | .complete fileId _ => some (.completeNotice fileId)
  | _ => none

/-- Events of the sender that only a message causes. -/
def remoteToSender : FileSender.Event → Bool
  | .accept _ => true
  | .ack _ _ => true
  | .nack _ _ _ => true
  | .pause _ _ => true
  | .resume _ => true
  | _ => false

def sentBySender : SenderNote → Option FileMessage
  | .sendApp message _ => some message
  | _ => none

def sentByReceiver : ReceiverNote → Option FileMessage
  | .sendApp message => some message
  | _ => none

abbrev Note := SenderNote ⊕ ReceiverNote

def stepSender (digest : Bytes → String) (world : World) (event : FileSender.Event) :
    Option (World × List Note) :=
  ((FileSender.machine digest).step world.sender event).map fun taken =>
    ({ world with
      sender := taken.1
      toReceiver := world.toReceiver.post (taken.2.filterMap sentBySender) },
      taken.2.map Sum.inl)

def stepReceiver (digest : Bytes → String) (world : World) (event : FileReceiver.Event) :
    Option (World × List Note) :=
  ((FileReceiver.machine digest).step world.receiver event).map fun taken =>
    ({ world with
      receiver := taken.1
      toSender := world.toSender.post (taken.2.filterMap sentByReceiver) },
      taken.2.map Sum.inr)

def machine (digest : Bytes → String) : Machine World Event Note where
  step world
    | .sender event => if remoteToSender event then none else stepSender digest world event
    | .receiver event => if event.inbound then none else stepReceiver digest world event
    | .toReceiver message =>
        (world.toReceiver.take message).bind fun rest =>
          (receiverEvent message).bind fun event =>
            stepReceiver digest { world with toReceiver := rest } event
    | .toSender message =>
        (world.toSender.take message).bind fun rest =>
          (senderEvent message).bind fun event =>
            stepSender digest { world with toSender := rest } event

end OnlyTwo.FileTransfer
