/-!
# Counters of a store

What a store has done since it was opened. Reads that the cache answers are not reads of storage.
-/

namespace RecordBase

/-- Counts of what a store has done. -/
structure Stats where
  storeReads : Nat := 0
  cacheHits : Nat := 0
  cacheMisses : Nat := 0
  creates : Nat := 0
  updates : Nat := 0
  deletes : Nat := 0
  versionConflicts : Nat := 0
  commits : Nat := 0
  rollbacks : Nat := 0
  bytesWritten : Nat := 0
  bytesRead : Nat := 0
  deriving DecidableEq, Repr, Inhabited

namespace Stats

/-- Counts a read of storage that found so many bytes. -/
def countRead (stats : Stats) (bytes : Nat) : Stats :=
  { stats with storeReads := stats.storeReads + 1, bytesRead := stats.bytesRead + bytes }

/-- Counts a read that the cache answered. -/
def countHit (stats : Stats) : Stats := { stats with cacheHits := stats.cacheHits + 1 }

/-- Counts a read that the cache could not answer. -/
def countMiss (stats : Stats) : Stats := { stats with cacheMisses := stats.cacheMisses + 1 }

/-- Counts a creation with so many bytes. -/
def countCreate (stats : Stats) (bytes : Nat) : Stats :=
  { stats with creates := stats.creates + 1, bytesWritten := stats.bytesWritten + bytes }

/-- Counts an update to so many bytes. -/
def countUpdate (stats : Stats) (bytes : Nat) : Stats :=
  { stats with updates := stats.updates + 1, bytesWritten := stats.bytesWritten + bytes }

/-- Counts a deletion. -/
def countDelete (stats : Stats) : Stats := { stats with deletes := stats.deletes + 1 }

/-- Counts a write refused for its version. -/
def countConflict (stats : Stats) : Stats :=
  { stats with versionConflicts := stats.versionConflicts + 1 }

/-- Counts a batch that was kept. -/
def countCommit (stats : Stats) : Stats := { stats with commits := stats.commits + 1 }

/-- Counts a batch that was undone. -/
def countRollback (stats : Stats) : Stats := { stats with rollbacks := stats.rollbacks + 1 }

end Stats

end RecordBase
