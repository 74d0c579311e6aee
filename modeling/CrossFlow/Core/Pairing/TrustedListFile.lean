import CrossFlow.Core.Common.ErrorCode
import CrossFlow.Core.Common.StdStream
import CrossFlow.Core.Pairing.TrustedNodeList
import CrossFlow.Lib.Machine

/-!
# `CrossFlow.Core.Pairing.TrustedListFile`: the trusted nodes on disk

The part of `s08_pairing/trusted_node_list.hpp` and `.cpp` that reads and writes `persistPath_`. A
file is its bytes. Whether the file can be opened is an argument.
-/

set_option autoImplicit false

namespace CrossFlow

open StdString (extractU64 lit)

/-- `TrustedNodeList::RecoveryResult` -/
structure TrustRecoveryResult where
  listCleared : Bool
  logEntries : List StdString
  deriving DecidableEq

/-- Nothing was repaired. -/
def TrustRecoveryResult.init : TrustRecoveryResult where
  listCleared := false
  logEntries := []

/-- A `TrustedNodeList` with all its members. -/
structure PersistentTrustedList extends TrustedNodeList where
  persistPath : StdString
  lastRecovery : TrustRecoveryResult
  deriving DecidableEq

namespace PersistentTrustedList

/-- A list that was just made, for the file of a path. -/
def init (persistPath : StdString) : PersistentTrustedList where
  toTrustedNodeList := .init
  persistPath := persistPath
  lastRecovery := .init

/-! ### Writing -/

/-- The line of an entry. -/
def entryText (e : TrustedNodeEntry) : StdString :=
  .toString e.nodeId.high.toNat ++ lit " " ++ .toString e.nodeId.low.toNat ++ lit " " ++
    .toString e.pairedAt.toNat ++ lit " " ++ .toString e.lastSeenEpoch.value.toNat ++ lit "\n"

/-- The file that `persist` writes. -/
def fileText (entries : List TrustedNodeEntry) : StdString := entries.flatMap entryText

/-- `persist`, with the new contents of the file, if it is opened. -/
def persist (l : PersistentTrustedList) (opens : Bool) : Option ErrorCode × Option StdString :=
  if l.persistPath = [] then (none, none)
  else if !opens then (some .PairTrustPersistFail, none)
  else (none, some (fileText l.entries))

/-! ### Reading -/

/-- The condition of the loop in `load`: four numbers, one after the other. -/
def readEntry (ifs : StdString) : Option (TrustedNodeEntry × StdString) := do
  let (high, ifs) ← extractU64 ifs
  let (low, ifs) ← extractU64 ifs
  let (pairedAt, ifs) ← extractU64 ifs
  let (value, ifs) ← extractU64 ifs
  return ({ nodeId := { high, low }, pairedAt, lastSeenEpoch := { value } }, ifs)

/-- An entry takes something from the stream. -/
theorem length_lt_of_readEntry {ifs ifs' : StdString} {e : TrustedNodeEntry}
    (h : readEntry ifs = some (e, ifs')) : ifs'.length < ifs.length := by
  simp only [readEntry, Option.bind_eq_bind, Option.bind_eq_some_iff, Prod.exists] at h
  obtain ⟨_, s₁, h₁, _, s₂, h₂, _, s₃, h₃, _, s₄, h₄, heq⟩ := h
  have hlt₁ := StdString.length_lt_of_extractU64 h₁
  have hlt₂ := StdString.length_lt_of_extractU64 h₂
  have hlt₃ := StdString.length_lt_of_extractU64 h₃
  have hlt₄ := StdString.length_lt_of_extractU64 h₄
  cases heq
  omega

/-- The loop in `load`: entries up to the first that cannot be read. -/
def readEntries (ifs : StdString) : List TrustedNodeEntry :=
  match h : readEntry ifs with
  | none => []
  | some (e, ifs') =>
    have := length_lt_of_readEntry h
    e :: readEntries ifs'
termination_by ifs.length

/-- `load`, of a file that is `none` when it cannot be opened. -/
def load (l : PersistentTrustedList) (file : Option StdString) :
    PersistentTrustedList × Option ErrorCode :=
  if l.persistPath = [] then (l, some .PairTrustCorrupt)
  else
    match file with
    | none => (l, some .PairTrustCorrupt)
    | some ifs => ({ l with entries := readEntries ifs }, none)

/-! ### Recovery -/

/-- The line for a file that cannot be read. -/
def logTrustCorrupted : StdString :=
  lit "CFX-W-PAIR-TRUST-CORRUPT: Trusted List persistence corrupted, cleared all entries"

/-- The line for an entry that is left out. -/
def logCorruptEntry : StdString :=
  lit "CFX-W-PAIR-TRUST-CORRUPT: Removing corrupt trusted entry (null NodeID or invalid pairedAt)"

/-- The check of an entry after a `load` that succeeds. -/
def isCorrupt (e : TrustedNodeEntry) : Bool := e.nodeId.isNull ∨ e.pairedAt = 0

/-- The loop over the entries: each corrupt one is erased and logged. -/
def removeCorrupt (l : PersistentTrustedList) : PersistentTrustedList :=
  { l with
    entries := l.entries.filter fun e => !isCorrupt e
    lastRecovery.logEntries := l.lastRecovery.logEntries ++
      (l.entries.filter isCorrupt).map fun _ => logCorruptEntry }

/-- `recoverFromCorruption`, with the new contents of the file. It always returns no error. -/
def recoverFromCorruption (l : PersistentTrustedList) (file : Option StdString) (opens : Bool) :
    PersistentTrustedList × Option StdString :=
  let l := { l with lastRecovery := .init }
  let (l, loadErr) := l.load file
  if loadErr.isSome then
    ({ l with
        entries := []
        lastRecovery :=
          { listCleared := true
            logEntries := l.lastRecovery.logEntries ++ [logTrustCorrupted] } }, none)
  else
    let hasCorrupt := l.entries.any isCorrupt
    let l := l.removeCorrupt
    if hasCorrupt then
      let l := { l with lastRecovery.listCleared := true }
      (l, (l.persist opens).2)
    else (l, none)

end PersistentTrustedList

/-! ### Runs -/

/-- The calls that change the list. -/
inductive TrustedCall where
  | add (entry : TrustedNodeEntry)
  | remove (nodeId : NodeId)

/-- A list with a path, in memory. -/
def trustedMachine (persistPath : StdString) : Lib.Machine PersistentTrustedList TrustedCall where
  init := .init persistPath
  step l
    | .add entry => { l with toTrustedNodeList := l.toTrustedNodeList.add entry }
    | .remove nodeId => { l with toTrustedNodeList := l.toTrustedNodeList.remove nodeId }

end CrossFlow
