import OnlyTwo.InsertionMap
import OnlyTwo.Machine
import OnlyTwo.Bytes
import OnlyTwo.Profiles
import OnlyTwo.JsNumber
import OnlyTwo.Json
import OnlyTwo.JsonRoundTrip
import OnlyTwo.CryptoWorker
import OnlyTwo.Buffers
import OnlyTwo.WorkerBuffers
import OnlyTwo.KeyStore
import OnlyTwo.ReplayWindow
import OnlyTwo.KeyBuffers
import OnlyTwo.Padding
import OnlyTwo.TwoParty
import OnlyTwo.Callbacks
import OnlyTwo.Reliable
import OnlyTwo.ReliableOutcome
import OnlyTwo.ReliableDelivery
import OnlyTwo.Precedence
import OnlyTwo.ReliableOrder
import OnlyTwo.FileProtocol
import OnlyTwo.FileSender
import OnlyTwo.FileSenderEffects
import OnlyTwo.FileSenderCalls
import OnlyTwo.FileSenderStages
import OnlyTwo.FileSenderQueue
import OnlyTwo.FileSenderReset
import OnlyTwo.FileSenderLedger
import OnlyTwo.FileReceiver
import OnlyTwo.FileReceiverEffects
import OnlyTwo.FileAssembly
import OnlyTwo.FileReceiverUrls
import OnlyTwo.FileTransfer
import OnlyTwo.FileIntegrity
import OnlyTwo.FileCompletion
import OnlyTwo.AppMessages
import OnlyTwo.AppCodec
import OnlyTwo.Session
import OnlyTwo.SessionAudio
import OnlyTwo.SessionVoice
import OnlyTwo.SessionVoiceRuns
import OnlyTwo.OutboundVoice
import OnlyTwo.OutboundVoiceAccount
import OnlyTwo.SessionCalls
import OnlyTwo.SessionLoop
import OnlyTwo.SessionEffects
import OnlyTwo.SessionEpoch
import OnlyTwo.SessionIsolation
import OnlyTwo.SessionOutcalls
import OnlyTwo.SessionHandshake
import OnlyTwo.SessionTurns
import OnlyTwo.SessionMoves
import OnlyTwo.SessionVerified
import OnlyTwo.SessionStartups
import OnlyTwo.PacketScheduler
import OnlyTwo.Negotiation
import OnlyTwo.WireFrames
import OnlyTwo.WireOrder
import OnlyTwo.EnvelopeCodec
import OnlyTwo.WebSocketConnection
import OnlyTwo.TransportSilence
import OnlyTwo.SocketStates
import OnlyTwo.PacketFlow
import OnlyTwo.LaneQueues
import OnlyTwo.PacketAccounting
import OnlyTwo.PacketLanes
import OnlyTwo.DrainProgress
import OnlyTwo.Client
import OnlyTwo.ClientQueue
import OnlyTwo.ClientChain
import OnlyTwo.ClientIdentity
import OnlyTwo.VoiceCapture
import OnlyTwo.OutboundMessages
import OnlyTwo.FileSenderBounds
import OnlyTwo.FileReceiverBounds
import OnlyTwo.ReliableBounds
import OnlyTwo.Outbound
import OnlyTwo.RelaySession
import OnlyTwo.RelayRegistry
import OnlyTwo.Relay
import OnlyTwo.RelayTurns
import OnlyTwo.RelaySections
import OnlyTwo.RelayThreads
import OnlyTwo.RelayFrames
import OnlyTwo.RelayInvariant
import OnlyTwo.RelayExpiry
import OnlyTwo.RelayPeers
import OnlyTwo.RelayTombstones
import OnlyTwo.RelayEnding
import OnlyTwo.RelayBoard
import OnlyTwo.RelayPresence
import OnlyTwo.FileReceiverEdits
import OnlyTwo.FileReceiverStorage
import OnlyTwo.FileReceiverEndings
import OnlyTwo.FileReceiverOffers
import OnlyTwo.FileSenderMoves
import OnlyTwo.FileSenderPause
import OnlyTwo.FileSenderWindow
import OnlyTwo.FileSenderWakeups
import OnlyTwo.FileSenderRetries
import OnlyTwo.ReliableExpiry
import OnlyTwo.JsonSize
import OnlyTwo.UserPayloads
import OnlyTwo.JitterBuffer
import OnlyTwo.VoiceFreshness
import OnlyTwo.VadGate
import OnlyTwo.CaptureReframing
import OnlyTwo.ServerConfig
import OnlyTwo.ClientAddress
import OnlyTwo.RateLimiter
import OnlyTwo.RelayAdmission
import OnlyTwo.RelayAccounting
import OnlyTwo.RawFrames
import OnlyTwo.RawMessages
import OnlyTwo.SessionDesk
import OnlyTwo.SessionDeeds
import OnlyTwo.SessionBooks
import OnlyTwo.SessionOffers
import OnlyTwo.SessionListing
import OnlyTwo.SessionLine
import OnlyTwo.SessionOutgoing
import OnlyTwo.SessionQueue
import OnlyTwo.Base64Url
import OnlyTwo.CryptoClient
import OnlyTwo.RequestTurns
import OnlyTwo.RequestOutcomes
import OnlyTwo.RequestService
import OnlyTwo.SecureLink
import OnlyTwo.SecureDelivery
import OnlyTwo.HandshakeCodec
import OnlyTwo.VerifiedLink
import OnlyTwo.RelayOrder
import OnlyTwo.VoicePlayback
