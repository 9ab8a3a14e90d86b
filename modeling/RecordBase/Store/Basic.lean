import RecordBase.Log.Journal
import RecordBase.Settings
import RecordBase.Store.Cache
import RecordBase.Store.Contents
import RecordBase.Store.Stats
import RecordBase.Text.Lowercase

/-!
# The record store

Versioned records in clusters, behind a cache and in front of a journal. A write looks at the
stored version, appends to the journal, and only then changes what the store holds; if it fails
before that, the store holds what it held.
-/

namespace RecordBase

/-- The records, clusters and keys of a database with the journal behind them. -/
structure Store where
  contents : Contents
  journal : Journal
  /-- The cache, unless the database does without. -/
  cache : Option Cache
  stats : Stats := {}
  /-- The lower-case name of the cluster of records that name none. -/
  defaultCluster : String

namespace Store

/-! ## The journal -/

/-- Hands every entry of the log to its medium. -/
def flush (store : Store) : Except Error Unit := store.journal.flush

/-- Makes every entry of the log durable. -/
def sync (store : Store) : Except Error Unit × Store :=
  let (result, journal) := store.journal.sync
  (result, { store with journal })

/-- Hands every entry of the log to its medium and makes it durable. -/
def settle (store : Store) : Except Error Unit × Store :=
  let (result, journal) := store.journal.settle
  (result, { store with journal })

/-! ## Finding clusters -/

/-- The listing of a cluster. -/
def listing (store : Store) (cluster : Int16) : Except Error Listing :=
  match store.contents.clusters.get? cluster with
  | some listing => .ok listing
  | none => .error (.noCluster cluster)

/-- The cluster with an id. -/
def cluster? (store : Store) (id : Int16) : Option Cluster :=
  (store.contents.clusters.get? id).map (·.cluster)

/-- Every cluster, by increasing id. -/
def clusters (store : Store) : List Cluster := store.contents.clusters.values.map (·.cluster)

/-- The id of the cluster with a name, in any case. -/
def clusterNamed? (store : Store) (name : String) : Option Int16 :=
  store.contents.names.get? (Text.lowercase name)

/-- The id of the cluster with a name, which has to exist. -/
def clusterNamed (store : Store) (name : String) : Except Error Int16 :=
  match store.clusterNamed? name with
  | some id => .ok id
  | none => .error (.clusterNotFound name)

/-- The id of the cluster of records that name none. -/
def defaultClusterId (store : Store) : Except Error Int16 := store.clusterNamed store.defaultCluster

/-! ## The cache -/

/-- Caches a record under its identity. -/
def cachePut (store : Store) (record : Record) : Store :=
  { store with cache := store.cache.map (·.insert record.key record) }

/-- Takes a record out of the cache. -/
def cacheErase (store : Store) (id : RecordId) : Store :=
  { store with cache := store.cache.map (·.erase id.text) }

/-- Empties the cache. -/
def clearCache (store : Store) : Store := { store with cache := store.cache.map (·.clear) }

/-! ## Reading -/

/-- The record that a cluster owns at a position of its container. -/
def stored? (store : Store) (listing : Listing) (id : RecordId) : Option Record :=
  ((store.contents.container listing.home).ownedSlot? listing.cluster.id id.position).map
    (·.record id)

/-- Reads a record from storage. An identity that no stored record can have yields none. -/
def readUncached (store : Store) (id : RecordId) : Except Error (Option Record) × Store :=
  if !id.isValid then (.ok none, store)
  else match store.listing id.cluster with
    | .error error => (.error error, store)
    | .ok listing =>
      let found := store.stored? listing id
      let bytes := match found with
        | some record => record.content.length
        | none => 0
      (.ok found, { store with stats := store.stats.countRead bytes })

/-- Reads a record from storage and caches it. -/
def readThrough (store : Store) (id : RecordId) : Except Error (Option Record) × Store :=
  match store.readUncached id with
  | (.ok (some record), store) => (.ok (some record), store.cachePut record)
  | answer => answer

/-- Reads a record, from the cache if it is there. -/
def read (store : Store) (id : RecordId) : Except Error (Option Record) × Store :=
  if !id.isValid then (.ok none, store)
  else match store.cache with
    | none => store.readThrough id
    | some cache =>
      match cache.get? id.text with
      | some record => (.ok (some record), { store with stats := store.stats.countHit })
      | none => { store with stats := store.stats.countMiss }.readThrough id

/-- The records of a cluster, by increasing position. -/
def scan (store : Store) (cluster : Int16) : Except Error (List Record) :=
  match store.listing cluster with
  | .error error => .error error
  | .ok listing =>
    let owner := listing.cluster.id
    let slots := (store.contents.container listing.home).slots.entries
    .ok ((slots.filter fun entry => entry.2.owner = owner).map fun entry =>
      entry.2.record ⟨owner, entry.1⟩)

/-- How many records some clusters have together. -/
def count (store : Store) : List Int16 → Except Error Int
  | [] => .ok 0
  | cluster :: rest =>
    match store.listing cluster with
    | .error error => .error error
    | .ok listing =>
      match store.count rest with
      | .error error => .error error
      | .ok others =>
        .ok ((store.contents.container listing.home).count listing.cluster.id + others)

/-- How many records the cluster with a name has. -/
def countNamed (store : Store) (name : String) : Except Error Int :=
  match store.clusterNamed name with
  | .error error => .error error
  | .ok id => store.count [id]

/-! ## Writing -/

/-- Appends an entry to the journal and, if that succeeds, makes its change. -/
def write (store : Store) (entry : LogEntry) (change : Store → Store) :
    Except Error Unit × Store :=
  match store.journal.append entry with
  | (.error error, journal) => (.error error, { store with journal })
  | (.ok _, journal) => (.ok (), change { store with journal })

/-- Changes what the store holds. -/
def change (store : Store) (f : Contents → Contents) : Store :=
  { store with contents := f store.contents }

/-- Writes a slot of the container of a listing. -/
def writeSlot (store : Store) (listing : Listing) (position : Int64) (slot : Slot) :
    Except Error Unit × Store :=
  store.write (.recordPut ⟨listing.cluster.storage, position⟩ slot)
    (·.change (·.putSlot listing.home position slot))

/-- Frees a slot of the container of a listing. -/
def freeSlot (store : Store) (listing : Listing) (position : Int64) : Except Error Unit × Store :=
  store.write (.recordRemoved ⟨listing.cluster.storage, position⟩)
    (·.change (·.removeSlot listing.home position))

/-- The position of the next record in a container. Once the greatest position has been given there is none.
Only a log that was written by hand comes to this, and nothing is laid down for it; here it is refused. -/
def nextPosition (store : Store) (home : Nat) : Except Error Int64 :=
  let next := (store.contents.container home).nextPosition
  if next < 2 ^ 63 then .ok (Int64.ofInt next)
  else .error (.invalidOperation .positionsExhausted)

/-- Creates a record at the next position of a cluster. -/
def create (store : Store) (cluster : Int16) (content : Bytes) (type : RecordType) :
    Except Error Record × Store :=
  match store.listing cluster with
  | .error error => (.error error, store)
  | .ok listing =>
    match store.nextPosition listing.home with
    | .error error => (.error error, store)
    | .ok position =>
      let slot : Slot := ⟨listing.cluster.id, 0, type, content⟩
      let record := slot.record ⟨listing.cluster.id, position⟩
      match store.writeSlot listing position slot with
      | (.error error, store) => (.error error, store)
      | (.ok (), store) =>
        (.ok record,
          { store with stats := store.stats.countCreate content.length }.cachePut record)

/-- The record that a write expects at a version, with the listing of its cluster. -/
def expected (store : Store) (id : RecordId) (version : Int32) :
    Except Error (Listing × Record) × Store :=
  if !id.isValid then (.error (.recordNotFound id), store)
  else match store.listing id.cluster with
    | .error error => (.error error, store)
    | .ok listing =>
      match store.stored? listing id with
      | none => (.error (.recordNotFound id), store)
      | some current =>
        if current.version ≠ version then
          (.error (.versionConflict id version current.version),
            { store with stats := store.stats.countConflict })
        else (.ok (listing, current), store)

/-- Replaces a record that has the expected version; without a type it keeps its own. Returns the
record and the one it replaced. -/
def replace (store : Store) (id : RecordId) (content : Bytes) (version : Int32)
    (type : Option RecordType) : Except Error (Record × Record) × Store :=
  match store.expected id version with
  | (.error error, store) => (.error error, store)
  | (.ok (listing, current), store) =>
    if current.version = Int32.maxValue then
      (.error (.invalidOperation (.versionOverflow id)), store)
    else
      let slot : Slot :=
        ⟨listing.cluster.id, current.version + 1, type.getD current.type, content⟩
      let updated := slot.record id
      match store.writeSlot listing id.position slot with
      | (.error error, store) => (.error error, store)
      | (.ok (), store) =>
        (.ok (updated, current),
          { store with stats := store.stats.countUpdate content.length }.cachePut updated)

/-- Updates a record that has the expected version and returns its new version. -/
def update (store : Store) (id : RecordId) (content : Bytes) (version : Int32)
    (type : RecordType) : Except Error Int32 × Store :=
  match store.replace id content version (some type) with
  | (.error error, store) => (.error error, store)
  | (.ok (updated, _), store) => (.ok updated.version, store)

/-- Removes a record that has the expected version and returns it. -/
def remove (store : Store) (id : RecordId) (version : Int32) : Except Error Record × Store :=
  match store.expected id version with
  | (.error error, store) => (.error error, store)
  | (.ok (listing, current), store) =>
    match store.freeSlot listing id.position with
    | (.error error, store) => (.error error, store)
    | (.ok (), store) =>
      (.ok current, { store with stats := store.stats.countDelete }.cacheErase id)

/-- Deletes a record that has the expected version. -/
def delete (store : Store) (id : RecordId) (version : Int32) : Except Error Unit × Store :=
  match store.remove id version with
  | (.error error, store) => (.error error, store)
  | (.ok _, store) => (.ok (), store)

/-- Puts a record back as it was, provided that it stands at the version written, or is still
absent if nothing was written. Says whether it did. -/
def compensate (store : Store) (id : RecordId) (written : Option Int32)
    (previous : Option Record) : Except Error Bool × Store :=
  match store.listing id.cluster with
  | .error error => (.error error, store)
  | .ok listing =>
    if (store.stored? listing id).map (·.version) ≠ written then (.ok false, store)
    else match previous with
      | some previous =>
        let slot : Slot :=
          ⟨listing.cluster.id, previous.version, previous.type, previous.content⟩
        match store.writeSlot listing id.position slot with
        | (.error error, store) => (.error error, store)
        | (.ok (), store) => (.ok true, store.cachePut previous)
      | none =>
        match store.freeSlot listing id.position with
        | (.error error, store) => (.error error, store)
        | (.ok (), store) => (.ok true, store.cacheErase id)

end Store

end RecordBase
