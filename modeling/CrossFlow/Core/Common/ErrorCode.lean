/-!
# `CrossFlow.Core.Common.ErrorCode`: the error codes

The enumeration of `core/common/error_code.hpp`.
-/

set_option autoImplicit false

namespace CrossFlow

/-- The errors of all modules, in the order of the source. -/
inductive ErrorCode where
  | CapPerm
  | CapApi
  | InjPerm
  | InjApi
  | NormUnknown
  | NormSeqback
  | TopoNodeidDup
  | TopoNeighborOver
  | TopoNonlinear
  | HandoffTimeout
  | HandoffYield
  | HandoffReject
  | MapNoboundary
  | CpRetxOver
  | IpBacklog
  | ProtoVer
  | LinkDown
  | PairUnpaired
  | SessUuidGenFail
  | SessPersistCorrupt
  | SessNodeidForge
  | SessStaleEpoch
  | SessInstanceConflict
  | SessUnknownNode
  | DiscMdnsUnavailable
  | DiscCrossSubnet
  | DiscManualFallback
  | DiscAnnounceLost
  | PairCodeMismatch
  | PairIllegalTrans
  | PairCodeBroadcast
  | PairTrustPersistFail
  | PairTrustCorrupt
  | RegUndiscovered
  | RegCapIncompat
  | RegTopoidMismatch
  | RegLinkBroken
  | TopoStaleVersion
  | TopoVersionConflict
  | TopoValidationFail
  | TopoCommitFail
  | TopoMultipath
  | TopoDegradedNonCircular
  | TopoDegradedSingle
  | TopoCoordDuplicateClaim
  | RecoveryUntrusted
  | RecoveryUnreachable
  | RecoveryTimeout
  | HandoffUnregisteredPeer
  | CapTapFail
  | CapStateChannelSaturated
  | CapArchUnsupported
  | InjUnauthorizedSource
  | InjReleaseFailed
  | CapA11yDenied
  | CapQueueDrop
  | CapUnknownEventType
  | CapUnknownKeycode
  | CapCallbackSlow
  | InjFailStreak
  | InjInvalidParam
  | InjReleaseIncomplete
  deriving DecidableEq

end CrossFlow
