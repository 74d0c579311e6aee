import CrossFlow.Lib.Machine
import CrossFlow.Platform.Common.AtomicPayload
import CrossFlow.Platform.Common.SpscRingBuffer
import CrossFlow.Proofs.Spsc.Seqlock
import CrossFlow.Platform.Mac.DualChannelSpsc
import CrossFlow.Proofs.Spsc.Lossless
import CrossFlow.Proofs.Spsc.StateChannel
import CrossFlow.Proofs.Spsc.Alone
import CrossFlow.Proofs.Spsc.DropAccounting
import CrossFlow.Core.Common.Domain
import CrossFlow.Platform.Mac.AuthoritativeResync
import CrossFlow.Platform.Mac.MacEventTap
import CrossFlow.Proofs.Capture.Saturation
import CrossFlow.Core.Common.StdString
import CrossFlow.Core.Discovery.MdnsTxt
import CrossFlow.Core.Discovery.DiscoveryService
import CrossFlow.Proofs.Discovery.RoundTrip
import CrossFlow.Core.Common.Messages
import CrossFlow.Lib.ObjectImage
import CrossFlow.Core.Transport.ControlWire
import CrossFlow.Proofs.Transport.ControlWire
import CrossFlow.Core.Pairing.PairingFsm
import CrossFlow.Proofs.Pairing.PairingFsm
import CrossFlow.Proofs.Pairing.Transitions
import CrossFlow.Proofs.Pairing.PairingCode
import CrossFlow.Core.Identity.NodeIdentityManager
import CrossFlow.Core.Pairing.HandshakeOrchestrator
import CrossFlow.Proofs.Pairing.Registration
import CrossFlow.Proofs.Pairing.Handshake
import CrossFlow.Lib.PastTime
import CrossFlow.Proofs.Pairing.HandshakeSteps
import CrossFlow.Proofs.Pairing.Membership
import CrossFlow.Proofs.Pairing.TrustedList
import CrossFlow.Proofs.Pairing.Rollback
import CrossFlow.Core.Identity.SessionFence
import CrossFlow.Proofs.Identity.SessionFence
import CrossFlow.Core.Membership.TopologyVersionManager
import CrossFlow.Proofs.Membership.CommitProtocol
import CrossFlow.Proofs.Membership.VersionOrder
import CrossFlow.Lib.Family
import CrossFlow.Proofs.Membership.SplitBrain
import CrossFlow.Core.Discovery.DiscoveryTable
import CrossFlow.Lib.HashedMap
import CrossFlow.Proofs.Discovery.DiscoveryTable
import CrossFlow.Core.Transport.TransportImpl
import CrossFlow.Integration.E2EPipelineOrchestrator
import CrossFlow.Proofs.Integration.Pipeline
import CrossFlow.Integration.DisconnectResyncCoordinator
import CrossFlow.Core.Transport.TransportThreads
import CrossFlow.Proofs.Transport.LinkLoss
import CrossFlow.Proofs.Transport.TransportThreads
import CrossFlow.Proofs.Integration.InputGate
import CrossFlow.Proofs.Transport.Disconnect
import CrossFlow.Integration.CoordinatedTransport
import CrossFlow.Proofs.Integration.Recovery
import CrossFlow.Core.Transport.ReceiveLoop
import CrossFlow.Lib.Framing
import CrossFlow.Proofs.Transport.Framing
import CrossFlow.Proofs.Transport.FrameSync
import CrossFlow.Core.Common.ReceivedEvent
import CrossFlow.Platform.Mac.MacEventInjector
import CrossFlow.Platform.Win.WinEventInjector
import CrossFlow.Platform.Win.WinInputPlaneReceiver
import CrossFlow.Proofs.Injection.Inject
import CrossFlow.Proofs.Injection.Release
import CrossFlow.Core.Common.StdStream
import CrossFlow.Core.Identity.IdentityFile
import CrossFlow.Proofs.Identity.IdentityFile
import CrossFlow.Lib.Ring
import CrossFlow.Core.Membership.MembershipManager
import CrossFlow.Proofs.Membership.RingTopology
import CrossFlow.Core.Common.TopologyView
import CrossFlow.Proofs.Membership.LinearTopology
import CrossFlow.Proofs.Discovery.Conflicts
import CrossFlow.Platform.Mac.TapControl
import CrossFlow.Proofs.Capture.Sessions
import CrossFlow.Platform.Mac.TapSessions
import CrossFlow.Proofs.Capture.SessionEvents
import CrossFlow.Proofs.Identity.EpochOrder
import CrossFlow.Core.Identity.IdentityRecoveryManager
import CrossFlow.Proofs.Identity.RecoveryBinding
import CrossFlow.Core.Discovery.MdnsAnnouncer
import CrossFlow.Proofs.Discovery.Announcing
import CrossFlow.Core.Discovery.Transports
import CrossFlow.Proofs.Discovery.Listening
import CrossFlow.Proofs.Discovery.Shutdown
import CrossFlow.Lib.ConditionVariable
import CrossFlow.Core.Common.Logger
import CrossFlow.Proofs.Logging.Steps
import CrossFlow.Proofs.Logging.WakeUps
import CrossFlow.Platform.Mac.ReleaseAllPressedExecutor
import CrossFlow.Proofs.Injection.ReleaseDeadline
import CrossFlow.Proofs.Injection.ReleaseHistory
import CrossFlow.Lib.DropOldestQueue
import CrossFlow.Platform.Common.SpscCalls
import CrossFlow.Proofs.Spsc.SequentialRing
import CrossFlow.Proofs.Spsc.WholeCalls
import CrossFlow.Platform.Mac.DualChannelCalls
import CrossFlow.Proofs.Capture.DropReports
import CrossFlow.Proofs.Spsc.UnreadData
import CrossFlow.Proofs.Transport.FailedConnect
import CrossFlow.Core.Transport.ReceivedFrames
import CrossFlow.Proofs.Transport.MalformedFrames
import CrossFlow.Proofs.Integration.SentAccounting
import CrossFlow.Platform.Common.SpscSelfCheck
import CrossFlow.Proofs.Spsc.SelfCheck
import CrossFlow.Lib.Latest
import CrossFlow.Proofs.Discovery.Announcements
import CrossFlow.Core.Discovery.ManualConfigFile
import CrossFlow.Proofs.Discovery.WrittenNumbers
import CrossFlow.Proofs.Discovery.TxtCallback
import CrossFlow.Proofs.Discovery.DigestUpdate
import CrossFlow.Proofs.Discovery.ManualConfig
import CrossFlow.Proofs.Identity.LoadedIdentity
import CrossFlow.Proofs.Identity.FenceEpochs
import CrossFlow.Core.Pairing.TrustedListFile
import CrossFlow.Proofs.Pairing.TrustedFile
import CrossFlow.Proofs.Pairing.TrustedRuns
import CrossFlow.Proofs.Pairing.RegisteredEpochs
import CrossFlow.Platform.Mac.ModifierSync
import CrossFlow.Proofs.Injection.ModifierSync
import CrossFlow.Lib.SignedWord
import CrossFlow.Proofs.Injection.AbsolutePosition
import CrossFlow.Platform.Mac.EdgeDetector
import CrossFlow.Platform.Mac.CGEventNormalizer
import CrossFlow.Proofs.Screen.EdgeDetector
import CrossFlow.Platform.Mac.MultiDisplayMergePolicy
import CrossFlow.Platform.Mac.NativeCoordNormalizer
import CrossFlow.Proofs.Screen.EdgeAgreement
import CrossFlow.Lib.Rect
import CrossFlow.Proofs.Screen.BoundingBox
import CrossFlow.Proofs.Screen.SingleDisplay
import CrossFlow.Proofs.Screen.MergedBoundary
import CrossFlow.Platform.Mac.MacScreenQuery
import CrossFlow.Proofs.Screen.StaleBoundary
import CrossFlow.Lib.CountedLoop
import CrossFlow.Integration.E2EEvidenceCollector
import CrossFlow.Proofs.Integration.Correlation
import CrossFlow.Lib.OrderStatistic
import CrossFlow.Integration.E2ELatencyProbe
import CrossFlow.Proofs.Integration.LatencyStats
import CrossFlow.Lib.Json
import CrossFlow.Core.Common.ErrorMeta
import CrossFlow.Core.Common.LogEntry
import CrossFlow.Proofs.Logging.JsonLines
import CrossFlow.Proofs.Logging.Worker
import CrossFlow.Proofs.Logging.Flush
import CrossFlow.Proofs.Spsc.PayloadCodec
import CrossFlow.Proofs.Discovery.TxtSafety
import CrossFlow.Lib.Network
import CrossFlow.Core.Pairing.PairingNetwork
import CrossFlow.Proofs.Pairing.PairingNetwork
import CrossFlow.Lib.Mutex
import CrossFlow.Core.Transport.SendThreads
import CrossFlow.Proofs.Transport.SendThreads
import CrossFlow.Proofs.Transport.SendFrames
import CrossFlow.Proofs.Transport.Backlog
import CrossFlow.Proofs.Transport.SendAlone
import CrossFlow.Core.Transport.EventImage
import CrossFlow.Integration.EndToEnd
import CrossFlow.Proofs.Integration.EndToEnd
import CrossFlow.Lib.LockOrder
import CrossFlow.Core.Transport.TransportLocks
import CrossFlow.Proofs.Transport.LockOrder
import CrossFlow.Lib.Holding
import CrossFlow.Platform.Mac.MacEventFieldExtractor
import CrossFlow.Platform.Mac.TapCallback
import CrossFlow.Proofs.Capture.Extraction
import CrossFlow.Proofs.Capture.CapturedControls
import CrossFlow.Proofs.Injection.Bitmaps
import CrossFlow.Proofs.Injection.PostedInputs
import CrossFlow.Core.Discovery.DiscoveryNetwork
import CrossFlow.Proofs.Discovery.DiscoveryNetwork
import CrossFlow.Proofs.Membership.FollowerVersions
import CrossFlow.Platform.Mac.ScopedCaptureHandle
import CrossFlow.Proofs.Capture.ScopedHandles
import CrossFlow.Proofs.Logging.Lines
import CrossFlow.Proofs.Injection.ExecutedRelease
import CrossFlow.Proofs.Discovery.LanDatagram
import CrossFlow.Core.Identity.RecoveryNetwork
import CrossFlow.Proofs.Identity.RecoveryNetwork
import CrossFlow.Lib.OrderedMap
import CrossFlow.Proofs.Membership.MembershipMap
import CrossFlow.Proofs.Injection.Batches
import CrossFlow.Lib.OwnedRefs
import CrossFlow.Platform.Mac.TapResources
import CrossFlow.Proofs.Capture.TapResources
