import RecordBase.Record.Basic
import RecordBase.Table

/-!
# The record cache

A table of at most `capacity` records by key. When a new key finds the table full, one of its
records makes room; which one is open, so the cache carries the choices as a sequence that
statements about it can range over.
-/

namespace RecordBase

/-- A bounded table of records. -/
structure Cache where
  /-- The most records held. -/
  capacity : Nat
  /-- The place, among those by increasing key, of the record that the n-th eviction removes. -/
  victims : Nat → Nat := fun _ => 0
  /-- How many records have been evicted. -/
  evictions : Nat := 0
  entries : Table String Record := Table.empty

namespace Cache

/-- The record under a key. -/
def get? (cache : Cache) (key : String) : Option Record := cache.entries.get? key

/-- Removes one record. -/
def evict (cache : Cache) : Cache :=
  match cache.entries.keys[cache.victims cache.evictions % cache.entries.size]? with
  | some key =>
    { cache with entries := cache.entries.erase key, evictions := cache.evictions + 1 }
  | none => cache

/-- Removes a record if a new key would not fit. -/
def makeRoom (cache : Cache) (key : String) : Cache :=
  if cache.capacity ≤ cache.entries.size && !cache.entries.contains key then cache.evict else cache

/-- Puts a record under a key. -/
def insert (cache : Cache) (key : String) (record : Record) : Cache :=
  if cache.capacity = 0 then cache
  else
    let cache := cache.makeRoom key
    { cache with entries := cache.entries.insert key record }

/-- Removes the record under a key. -/
def erase (cache : Cache) (key : String) : Cache :=
  { cache with entries := cache.entries.erase key }

/-- Removes every record. -/
def clear (cache : Cache) : Cache := { cache with entries := Table.empty }

/-- The number of records held. -/
def size (cache : Cache) : Nat := cache.entries.size

end Cache

end RecordBase
