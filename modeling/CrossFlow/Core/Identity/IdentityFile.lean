import CrossFlow.Core.Common.ErrorCode
import CrossFlow.Core.Common.StdStream
import CrossFlow.Core.Identity.NodeIdentityManager
import CrossFlow.Lib.Machine

/-!
# `CrossFlow.Core.Identity.IdentityFile`: the identity of this node on disk

The part of `s06_identity/node_identity_manager.hpp` and `.cpp` that reads and writes
`persistPath_`. A file is its bytes, which are read and written as they are. Whether the file can be
opened is an argument, and so are the numbers of `NodeId::generate`.
-/

set_option autoImplicit false

namespace CrossFlow

open StdString (extractU64 extractU32 extractInt extractWord lit)

/-- What a recovery had to repair. -/
structure RecoveryResult where
  nodeIdRegenerated : Bool
  epochReset : Bool
  topologyCleared : Bool
  logEntries : List StdString
  deriving DecidableEq

/-- Nothing was repaired. -/
def RecoveryResult.init : RecoveryResult where
  nodeIdRegenerated := false
  epochReset := false
  topologyCleared := false
  logEntries := []

/-- A `NodeIdentityManager` with all its members. -/
structure PersistentIdentityManager extends NodeIdentityManager where
  persistPath : StdString
  lastRecovery : RecoveryResult
  deriving DecidableEq

namespace PersistentIdentityManager

/-- A manager that was just made, for the file of a path. -/
def init (persistPath : StdString) : PersistentIdentityManager where
  identity := none
  persistPath := persistPath
  lastRecovery := .init

/-- The id in memory, or the null id. -/
def getNodeId (m : PersistentIdentityManager) : NodeId :=
  match m.identity with
  | some identity => identity.nodeId
  | none => { high := 0, low := 0 }

/-! ### Writing -/

/-- The first two lines of the file: the node id and the session epoch. -/
def headerText (identity : NodeIdentity) : StdString :=
  .toString identity.nodeId.high.toNat ++ lit " " ++ .toString identity.nodeId.low.toNat ++
    lit "\n" ++ .toString identity.sessionEpoch.value.toNat ++ lit "\n"

/-- What follows the 1 for a membership. -/
def membershipText (tm : TopologyMembership) : StdString :=
  lit " " ++ tm.topologyId ++ lit " " ++ .toString tm.segmentIndex.toNat ++ lit "\n"

/-- Whether there is a membership, and the membership. -/
def topologyText : Option TopologyMembership → StdString
  | some tm => .toString 1 ++ membershipText tm
  | none => .toString 0 ++ lit "\n"

/-- The file that `persist` writes. -/
def fileText (identity : NodeIdentity) : StdString :=
  headerText identity ++ topologyText identity.topologyMembership

/-- `persist`, with the new contents of the file, if it is opened. -/
def persist (m : PersistentIdentityManager) (opens : Bool) : Option ErrorCode × Option StdString :=
  match m.identity with
  | none => (some .SessUuidGenFail, none)
  | some identity =>
    if m.persistPath = [] then (none, none)
    else if !opens then (some .SessPersistCorrupt, none)
    else (none, some (fileText identity))

/-! ### Reading -/

/-- The node id and the epoch that a file begins with, and the rest. -/
def readNumbers (ifs : StdString) : Option (NodeId × UInt64 × StdString) := do
  let (high, ifs) ← extractU64 ifs
  let (low, ifs) ← extractU64 ifs
  let (epochVal, ifs) ← extractU64 ifs
  return ({ high, low }, epochVal, ifs)

/-- What is read of a membership: its id and its segment. The neighbours are not read. -/
def readMembership (ifs : StdString) : Option TopologyMembership := do
  let (topologyId, ifs) ← extractWord ifs
  let (segmentIndex, _) ← extractU32 ifs
  return { topologyId, leftNeighbor := none, rightNeighbor := none, segmentIndex }

/-- The part of `load` after `hasTopology`. -/
def loadFields (m : PersistentIdentityManager) (nid : NodeId) (epochVal : UInt64)
    (hasTopology : Int) (ifs : StdString) : PersistentIdentityManager × Option ErrorCode :=
  if nid.isNull then (m, some .SessNodeidForge)
  else
    let identity := m.identity.getD .init
    let identity := { identity with nodeId := nid, sessionEpoch := { value := epochVal } }
    if hasTopology = 1 then
      match readMembership ifs with
      -- The identity is written by now.
      | none => ({ m with identity := some identity }, some .SessPersistCorrupt)
      | some tm =>
        ({ m with identity := some { identity with topologyMembership := some tm } }, none)
    else ({ m with identity := some { identity with topologyMembership := none } }, none)

/-- `load`, of a file that is `none` when it cannot be opened. -/
def load (m : PersistentIdentityManager) (file : Option StdString) :
    PersistentIdentityManager × Option ErrorCode :=
  if m.persistPath = [] then (m, some .SessPersistCorrupt)
  else
    match file with
    | none => (m, some .SessPersistCorrupt)
    | some ifs =>
      match readNumbers ifs with
      | none => (m, some .SessPersistCorrupt)
      | some (nid, epochVal, ifs) =>
        match extractInt ifs with
        | none => (m, some .SessPersistCorrupt)
        | some (hasTopology, ifs) => m.loadFields nid epochVal hasTopology ifs

/-- `load`, and the error for a null id. -/
def recoverNodeId (m : PersistentIdentityManager) (file : Option StdString) :
    PersistentIdentityManager × Option ErrorCode :=
  let (m, err) := m.load file
  if err.isSome then (m, err)
  else if m.getNodeId.isNull then (m, some .SessNodeidForge)
  else (m, none)

/-! ### Recovery -/

/-- The line for a file that cannot be read. -/
def logCorrupted : StdString :=
  lit "CFX-W-SESS-PERSIST-CORRUPT: NodeID persistence corrupted, regenerating"

/-- The line for an epoch that is 1 again. -/
def logEpochReset : StdString := lit "CFX-W-SESS-PERSIST-CORRUPT: Session Epoch reset to 1"

/-- The line for a membership that is gone. -/
def logTopologyCleared : StdString :=
  lit "CFX-W-SESS-PERSIST-CORRUPT: Topology Membership cleared"

/-- The line for a file that cannot be written. -/
def logPersistFailed : StdString :=
  lit "CFX-E-SESS-UUID-GEN-FAIL: Failed to persist recovered identity"

/-- The line for a null id. -/
def logNullNodeId : StdString := lit "CFX-W-SESS-PERSIST-CORRUPT: NodeID is null, regenerating"

/-- The line for an epoch that was 0. -/
def logZeroEpoch : StdString := lit "CFX-W-SESS-PERSIST-CORRUPT: Session Epoch was 0, reset to 1"

/-- The line for a membership without an id. -/
def logEmptyTopologyId : StdString :=
  lit "CFX-W-SESS-PERSIST-CORRUPT: Topology Membership corrupted (empty topologyId), cleared"

/-- `recoverFromCorruption` after a `load` that fails, with the new contents of the file. -/
def regenerate (m : PersistentIdentityManager) (opens : Bool) (random : UInt64 × UInt64) :
    PersistentIdentityManager × Option StdString :=
  let identity := m.identity.getD .init
  let m :=
    { m with
      identity := some
        { identity with
          nodeId := .generate random
          sessionEpoch := { value := 1 }
          topologyMembership := none }
      lastRecovery :=
        { nodeIdRegenerated := true
          epochReset := true
          topologyCleared := true
          logEntries := [logCorrupted, logEpochReset, logTopologyCleared] } }
  let (persistErr, written) := m.persist opens
  if persistErr.isSome then
    ({ m with lastRecovery.logEntries := m.lastRecovery.logEntries ++ [logPersistFailed] }, written)
  else (m, written)

/-- The check of the node id after a `load` that succeeds. -/
def recoverNullNodeId (m : PersistentIdentityManager) (random : UInt64 × UInt64) :
    PersistentIdentityManager :=
  if m.getNodeId.isNull then
    let identity := m.identity.getD .init
    { m with
      identity := some { identity with nodeId := .generate random }
      lastRecovery.nodeIdRegenerated := true
      lastRecovery.logEntries := m.lastRecovery.logEntries ++ [logNullNodeId] }
  else m

/-- The check of the epoch. -/
def recoverZeroEpoch (m : PersistentIdentityManager) : PersistentIdentityManager :=
  match m.identity with
  | none => m
  | some identity =>
    if identity.sessionEpoch.value = 0 then
      { m with
        identity := some { identity with sessionEpoch := { value := 1 } }
        lastRecovery.epochReset := true
        lastRecovery.logEntries := m.lastRecovery.logEntries ++ [logZeroEpoch] }
    else m

/-- The check of the membership. -/
def recoverEmptyTopologyId (m : PersistentIdentityManager) : PersistentIdentityManager :=
  match m.identity with
  | none => m
  | some identity =>
    if identity.topologyMembership.any fun tm => tm.topologyId = [] then
      { m with
        identity := some { identity with topologyMembership := none }
        lastRecovery.topologyCleared := true
        lastRecovery.logEntries := m.lastRecovery.logEntries ++ [logEmptyTopologyId] }
    else m

/-- `recoverFromCorruption`, with the new contents of the file. It always returns no error. -/
def recoverFromCorruption (m : PersistentIdentityManager) (file : Option StdString) (opens : Bool)
    (random : UInt64 × UInt64) : PersistentIdentityManager × Option StdString :=
  let m := { m with lastRecovery := .init }
  let (m, loadErr) := m.load file
  if loadErr.isSome then m.regenerate opens random
  else
    let m := ((m.recoverNullNodeId random).recoverZeroEpoch).recoverEmptyTopologyId
    if m.lastRecovery.nodeIdRegenerated ∨ m.lastRecovery.epochReset ∨
        m.lastRecovery.topologyCleared then (m, (m.persist opens).2)
    else (m, none)

end PersistentIdentityManager

/-! ### Runs -/

/-- The node id and the epoch that the manager has. -/
def PersistentIdentityManager.nodeIdAndEpoch (m : PersistentIdentityManager) :
    Option (NodeId × SessionEpoch) :=
  m.identity.map fun identity => (identity.nodeId, identity.sessionEpoch)

/-- A manager with its file. -/
structure IdentityRun where
  manager : PersistentIdentityManager
  /-- What is under the path, or `none`. -/
  file : Option StdString
  /-- History: the node id and the epoch that were last written to the file. -/
  persisted : Option (NodeId × SessionEpoch)
  /-- History: the node id and the epoch that the manager had last, or, since a restart, that were
  last written before it. -/
  held : Option (NodeId × SessionEpoch)

/-- The calls. `opens` is whether the file can be opened, and `restart` starts a new process. -/
inductive IdentityCall where
  | initializeIdentity (identity : NodeIdentity)
  | incrementEpoch
  | persist (opens : Bool)
  | load (opens : Bool)
  | recoverNodeId (opens : Bool)
  | recoverFromCorruption (opens reopens : Bool) (random : UInt64 × UInt64)
  | restart

namespace IdentityRun

/-- A manager that was just made, with the file there is. -/
def init (persistPath : StdString) (file : Option StdString) : IdentityRun where
  manager := .init persistPath
  file
  persisted := none
  held := none

/-- The file as it is read. -/
def read (s : IdentityRun) (opens : Bool) : Option StdString := if opens then s.file else none

/-- The run after a call that leaves the manager, and what was written. -/
def called (s : IdentityRun) (manager : PersistentIdentityManager) (written : Option StdString) :
    IdentityRun where
  manager
  file := written <|> s.file
  persisted := if written.isSome then manager.nodeIdAndEpoch else s.persisted
  held := manager.nodeIdAndEpoch <|> s.held

/-- One call, with the file that it finds. -/
def step (s : IdentityRun) : IdentityCall → IdentityRun
  | .initializeIdentity identity =>
    let manager := (s.manager.toNodeIdentityManager.initializeIdentity identity).1
    s.called { s.manager with toNodeIdentityManager := manager } none
  | .incrementEpoch =>
    let manager := s.manager.toNodeIdentityManager.incrementEpoch.1
    s.called { s.manager with toNodeIdentityManager := manager } none
  | .persist opens => s.called s.manager (s.manager.persist opens).2
  | .load opens => s.called (s.manager.load (s.read opens)).1 none
  | .recoverNodeId opens => s.called (s.manager.recoverNodeId (s.read opens)).1 none
  | .recoverFromCorruption opens reopens random =>
    let (manager, written) := s.manager.recoverFromCorruption (s.read opens) reopens random
    s.called manager written
  | .restart => { s with manager := .init s.manager.persistPath, held := s.persisted }

end IdentityRun

/-- A manager on a path that has the file. -/
def identityMachine (persistPath : StdString) (file : Option StdString) :
    Lib.Machine IdentityRun IdentityCall where
  init := .init persistPath file
  step := IdentityRun.step

/-! ### Runs of one manager -/

/-- All operations of the manager. `file` is what is under the path when the file is read, and
`opens` whether it can be opened to be written. -/
inductive ManagerCall where
  | initializeIdentity (identity : NodeIdentity)
  | updatePublicKey (newKey : PublicKey)
  | updateCapabilities (caps : Capabilities)
  | addEndpointAddress (addr : EndpointAddress)
  | removeEndpointAddress (addr : EndpointAddress)
  | joinTopology (membership : TopologyMembership)
  | leaveTopology
  | incrementEpoch
  | persist (opens : Bool)
  | load (file : Option StdString)
  | recoverNodeId (file : Option StdString)
  | recoverFromCorruption (file : Option StdString) (opens : Bool) (random : UInt64 × UInt64)

namespace PersistentIdentityManager

/-- The manager with another identity in memory. -/
def withMemory (m : PersistentIdentityManager) (memory : NodeIdentityManager) :
    PersistentIdentityManager := { m with toNodeIdentityManager := memory }

/-- One call of a manager. -/
def step (m : PersistentIdentityManager) : ManagerCall → PersistentIdentityManager
  | .initializeIdentity identity =>
    m.withMemory (m.toNodeIdentityManager.initializeIdentity identity).1
  | .updatePublicKey newKey => m.withMemory (m.toNodeIdentityManager.updatePublicKey newKey).1
  | .updateCapabilities caps => m.withMemory (m.toNodeIdentityManager.updateCapabilities caps).1
  | .addEndpointAddress addr => m.withMemory (m.toNodeIdentityManager.addEndpointAddress addr).1
  | .removeEndpointAddress addr =>
    m.withMemory (m.toNodeIdentityManager.removeEndpointAddress addr).1
  | .joinTopology membership => m.withMemory (m.toNodeIdentityManager.joinTopology membership).1
  | .leaveTopology => m.withMemory m.toNodeIdentityManager.leaveTopology.1
  | .incrementEpoch => m.withMemory m.toNodeIdentityManager.incrementEpoch.1
  | .persist _ => m
  | .load file => (m.load file).1
  | .recoverNodeId file => (m.recoverNodeId file).1
  | .recoverFromCorruption file opens random => (m.recoverFromCorruption file opens random).1

end PersistentIdentityManager

/-- A manager that was constructed with the path, which may be empty. -/
def managerMachine (persistPath : StdString) :
    Lib.Machine PersistentIdentityManager ManagerCall where
  init := .init persistPath
  step := .step

end CrossFlow
