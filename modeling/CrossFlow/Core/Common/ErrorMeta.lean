import CrossFlow.Core.Common.ErrorCode
import CrossFlow.Core.Common.StdString

/-!
# `CrossFlow.Core.Common.ErrorMeta`: the texts of the error codes

The model of `core/common/error_code.cpp`.
-/

set_option autoImplicit false

namespace CrossFlow

open StdString (lit)

/-- How grave an error is. -/
inductive ErrorLevel where
  | Error
  | Warn
  | Info
  deriving DecidableEq

/-- Where an error comes from. -/
inductive ErrorModule where
  | Cap
  | Inj
  | Norm
  | Topo
  | Handoff
  | Map
  | Cp
  | Ip
  | Proto
  | Link
  | Pair
  | Session
  | Discovery
  | Registration
  | Recovery
  deriving DecidableEq

/-- What an error code is made of. -/
structure ErrorMeta where
  level : ErrorLevel
  module : ErrorModule
  reason : StdString
  deriving DecidableEq

/-- The entry of `kErrorMeta` at the index of the code. -/
def kErrorMeta : ErrorCode → ErrorMeta
  | .CapPerm => ⟨.Error, .Cap, lit "PERM"⟩
  | .CapApi => ⟨.Error, .Cap, lit "API"⟩
  | .InjPerm => ⟨.Error, .Inj, lit "PERM"⟩
  | .InjApi => ⟨.Error, .Inj, lit "API"⟩
  | .NormUnknown => ⟨.Warn, .Norm, lit "UNKNOWN"⟩
  | .NormSeqback => ⟨.Warn, .Norm, lit "SEQBACK"⟩
  | .TopoNodeidDup => ⟨.Error, .Topo, lit "NODEID-DUP"⟩
  | .TopoNeighborOver => ⟨.Error, .Topo, lit "NEIGHBOR-OVER"⟩
  | .TopoNonlinear => ⟨.Error, .Topo, lit "NONLINEAR"⟩
  | .HandoffTimeout => ⟨.Error, .Handoff, lit "TIMEOUT"⟩
  | .HandoffYield => ⟨.Info, .Handoff, lit "YIELD"⟩
  | .HandoffReject => ⟨.Info, .Handoff, lit "REJECT"⟩
  | .MapNoboundary => ⟨.Error, .Map, lit "NOBOUNARY"⟩
  | .CpRetxOver => ⟨.Error, .Cp, lit "RETX-OVER"⟩
  | .IpBacklog => ⟨.Warn, .Ip, lit "BACKLOG"⟩
  | .ProtoVer => ⟨.Error, .Proto, lit "VER"⟩
  | .LinkDown => ⟨.Error, .Link, lit "DOWN"⟩
  | .PairUnpaired => ⟨.Error, .Pair, lit "UNPAIRED"⟩
  | .SessUuidGenFail => ⟨.Error, .Session, lit "UUID-GEN-FAIL"⟩
  | .SessPersistCorrupt => ⟨.Warn, .Session, lit "PERSIST-CORRUPT"⟩
  | .SessNodeidForge => ⟨.Error, .Session, lit "NODEID-FORGE"⟩
  | .SessStaleEpoch => ⟨.Warn, .Session, lit "STALE-EPOCH"⟩
  | .SessInstanceConflict => ⟨.Error, .Session, lit "INSTANCE-CONFLICT"⟩
  | .SessUnknownNode => ⟨.Warn, .Session, lit "UNKNOWN-NODE"⟩
  | .DiscMdnsUnavailable => ⟨.Warn, .Discovery, lit "MDNS-UNAVAILABLE"⟩
  | .DiscCrossSubnet => ⟨.Warn, .Discovery, lit "CROSS-SUBNET"⟩
  | .DiscManualFallback => ⟨.Warn, .Discovery, lit "MANUAL-FALLBACK"⟩
  | .DiscAnnounceLost => ⟨.Warn, .Discovery, lit "ANNOUNCE-LOST"⟩
  | .PairCodeMismatch => ⟨.Error, .Pair, lit "CODE-MISMATCH"⟩
  | .PairIllegalTrans => ⟨.Error, .Pair, lit "ILLEGAL-TRANS"⟩
  | .PairCodeBroadcast => ⟨.Error, .Pair, lit "CODE-BROADCAST"⟩
  | .PairTrustPersistFail => ⟨.Error, .Pair, lit "TRUST-PERSIST-FAIL"⟩
  | .PairTrustCorrupt => ⟨.Warn, .Pair, lit "TRUST-CORRUPT"⟩
  | .RegUndiscovered => ⟨.Error, .Registration, lit "UNDISCOVERED"⟩
  | .RegCapIncompat => ⟨.Error, .Registration, lit "CAP-INCOMPAT"⟩
  | .RegTopoidMismatch => ⟨.Error, .Registration, lit "TOPOID-MISMATCH"⟩
  | .RegLinkBroken => ⟨.Error, .Registration, lit "LINK-BROKEN"⟩
  | .TopoStaleVersion => ⟨.Warn, .Topo, lit "STALE-VERSION"⟩
  | .TopoVersionConflict => ⟨.Warn, .Topo, lit "VERSION-CONFLICT"⟩
  | .TopoValidationFail => ⟨.Error, .Topo, lit "VALIDATION-FAIL"⟩
  | .TopoCommitFail => ⟨.Error, .Topo, lit "COMMIT-FAIL"⟩
  | .TopoMultipath => ⟨.Error, .Topo, lit "MULTIPATH"⟩
  | .TopoDegradedNonCircular => ⟨.Warn, .Topo, lit "DEGRADED-NON-CIRCULAR"⟩
  | .TopoDegradedSingle => ⟨.Warn, .Topo, lit "DEGRADED-SINGLE"⟩
  | .TopoCoordDuplicateClaim => ⟨.Error, .Topo, lit "COORD-DUPLICATE-CLAIM"⟩
  | .RecoveryUntrusted => ⟨.Error, .Recovery, lit "UNTRUSTED"⟩
  | .RecoveryUnreachable => ⟨.Error, .Recovery, lit "UNREACHABLE"⟩
  | .RecoveryTimeout => ⟨.Error, .Recovery, lit "TIMEOUT"⟩
  | .HandoffUnregisteredPeer => ⟨.Warn, .Handoff, lit "UNREGISTERED-PEER"⟩
  | .CapTapFail => ⟨.Error, .Cap, lit "TAP-FAIL"⟩
  | .CapStateChannelSaturated => ⟨.Error, .Cap, lit "STATE-CHANNEL-SATURATED"⟩
  | .CapArchUnsupported => ⟨.Error, .Cap, lit "ARCH-UNSUPPORTED"⟩
  | .InjUnauthorizedSource => ⟨.Error, .Inj, lit "UNAUTHORIZED-SOURCE"⟩
  | .InjReleaseFailed => ⟨.Error, .Inj, lit "RELEASE-FAILED"⟩
  | .CapA11yDenied => ⟨.Warn, .Cap, lit "A11Y-DENIED"⟩
  | .CapQueueDrop => ⟨.Warn, .Cap, lit "QUEUE-DROP"⟩
  | .CapUnknownEventType => ⟨.Warn, .Cap, lit "UNKNOWN-EVENT-TYPE"⟩
  | .CapUnknownKeycode => ⟨.Warn, .Cap, lit "UNKNOWN-KEYCODE"⟩
  | .CapCallbackSlow => ⟨.Warn, .Cap, lit "CALLBACK-SLOW"⟩
  | .InjFailStreak => ⟨.Warn, .Inj, lit "FAIL-STREAK"⟩
  | .InjInvalidParam => ⟨.Warn, .Inj, lit "INVALID-PARAM"⟩
  | .InjReleaseIncomplete => ⟨.Warn, .Inj, lit "RELEASE-INCOMPLETE"⟩

/-- The level in the text of a code. -/
def levelString : ErrorLevel → StdString
  | .Error => lit "E"
  | .Warn => lit "W"
  | .Info => lit "I"

/-- The module in the text of a code. -/
def moduleString : ErrorModule → StdString
  | .Cap => lit "CAP"
  | .Inj => lit "INJ"
  | .Norm => lit "NORM"
  | .Topo => lit "TOPO"
  | .Handoff => lit "HANDOFF"
  | .Map => lit "MAP"
  | .Cp => lit "CP"
  | .Ip => lit "IP"
  | .Proto => lit "PROTO"
  | .Link => lit "LINK"
  | .Pair => lit "PAIR"
  | .Session => lit "SESS"
  | .Discovery => lit "DISC"
  | .Registration => lit "REG"
  | .Recovery => lit "RECOVERY"

namespace ErrorCode

/-- The text of a code. -/
def to_string (code : ErrorCode) : StdString :=
  let info := kErrorMeta code
  lit "CFX-" ++ levelString info.level ++ lit "-" ++ moduleString info.module ++ lit "-" ++
    info.reason

end ErrorCode

end CrossFlow
