/-!
# Settings of a database

What the opener of a database chooses: the cache, the clusters a new database starts with, and
whether each write is made durable at once.
-/

namespace RecordBase

/-- The choices with which a database is opened. -/
structure Settings where
  /-- Whether records are cached. -/
  useCache : Bool := true
  /-- The most records the cache holds. -/
  cacheCapacity : Nat := 10000
  /-- The clusters of a new database, in the order of their ids. -/
  initialClusters : List String :=
    ["internal", "index", "default", "users", "roles", "dictionary"]
  /-- The cluster of records that name none. -/
  defaultCluster : String := "default"
  /-- Whether each append to the log is followed by a sync. -/
  syncOnWrite : Bool := false
  deriving DecidableEq, Repr, Inhabited

end RecordBase
