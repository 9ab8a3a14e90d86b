import RecordBase.Store.Clusters

/-!
# Batches

A batch is a sequence of creations, updates and deletions that is kept as a whole or undone as a
whole. Each entry is a write of its own with its own version check; what undoes it is noted, and
the first failure undoes the entries before it in reverse order.

Inside a batch the n-th record it creates is addressed by the placeholder at position -2 - n,
whatever its cluster.
-/

namespace RecordBase

/-- One change of a batch. -/
inductive BatchEntry where
  /-- Creates a document in the named cluster, else in `cluster`, else in the default one. -/
  | create (cluster : Int16) (name : Option String) (content : Option Bytes)
  /-- Replaces the content of a record that has a version. -/
  | update (id : RecordId) (version : Int32) (content : Option Bytes)
  /-- Deletes a record that has a version. -/
  | delete (id : RecordId) (version : Int32)
  deriving DecidableEq, Repr

/-- What a batch that was kept has done. -/
structure Outcome where
  /-- The number that the client gave the batch. -/
  batch : Int32
  /-- The placeholder and the identity of each record created. -/
  created : List (RecordId × RecordId) := []
  /-- The identity and the new version of each record updated. -/
  updated : List (RecordId × Int32) := []
  /-- How many records were deleted. -/
  deleted : Nat := 0
  deriving DecidableEq, Repr, Inhabited

/-- How to undo an entry of a batch. -/
inductive Undo where
  | created (id : RecordId)
  | updated (written : Int32) (previous : Record)
  | deleted (previous : Record)
  deriving DecidableEq, Repr

/-- A batch of which some entries have been applied. -/
structure Batch where
  outcome : Outcome
  /-- How to undo the entries applied, the last one first. -/
  undo : List Undo := []
  deriving DecidableEq, Repr

namespace Batch

/-- A batch of which no entry has been applied. -/
def start (number : Int32) : Batch := ⟨⟨number, [], [], 0⟩, []⟩

/-- The identity that a placeholder stands for in this batch. -/
def resolve (batch : Batch) (id : RecordId) : Except Error RecordId :=
  match id.temporaryOrdinal? with
  | none => .ok id
  | some ordinal =>
    match batch.outcome.created[ordinal]? with
    | some (_, assigned) => .ok assigned
    | none => .error (.invalidBatch (.unresolved id))

/-- The cluster in which a creation puts its record. -/
def targetCluster (store : Store) (cluster : Int16) (name : Option String) :
    Except Error Int16 :=
  match name.filter fun name => !name.isEmpty with
  | some name => store.clusterNamed name
  | none => if 0 ≤ cluster then .ok cluster else store.defaultClusterId

/-- Applies a creation. -/
def applyCreate (store : Store) (batch : Batch) (cluster : Int16) (name : Option String)
    (content : Option Bytes) : Except Error Batch × Store :=
  match content with
  | none => (.error (.invalidBatch .createdWithoutContent), store)
  | some content =>
    match targetCluster store cluster name with
    | .error error => (.error error, store)
    | .ok target =>
      match store.create target content .document with
      | (.error error, store) => (.error error, store)
      | (.ok record, store) =>
        let created := batch.outcome.created
        let placeholder := RecordId.temporary cluster created.length
        (.ok
          { outcome := { batch.outcome with created := created ++ [(placeholder, record.id)] }
            undo := .created record.id :: batch.undo }, store)

/-- Applies an update. -/
def applyUpdate (store : Store) (batch : Batch) (id : RecordId) (version : Int32)
    (content : Option Bytes) : Except Error Batch × Store :=
  match content with
  | none => (.error (.invalidBatch .updatedWithoutContent), store)
  | some content =>
    match batch.resolve id with
    | .error error => (.error error, store)
    | .ok id =>
      match store.replace id content version none with
      | (.error error, store) => (.error error, store)
      | (.ok (updated, previous), store) =>
        (.ok
          { outcome :=
              { batch.outcome with updated := batch.outcome.updated ++ [(id, updated.version)] }
            undo := .updated updated.version previous :: batch.undo }, store)

/-- Applies a deletion. -/
def applyDelete (store : Store) (batch : Batch) (id : RecordId) (version : Int32) :
    Except Error Batch × Store :=
  match batch.resolve id with
  | .error error => (.error error, store)
  | .ok id =>
    match store.remove id version with
    | (.error error, store) => (.error error, store)
    | (.ok previous, store) =>
      (.ok
        { outcome := { batch.outcome with deleted := batch.outcome.deleted + 1 }
          undo := .deleted previous :: batch.undo }, store)

/-- Applies an entry. -/
def apply (store : Store) (batch : Batch) : BatchEntry → Except Error Batch × Store
  | .create cluster name content => applyCreate store batch cluster name content
  | .update id version content => applyUpdate store batch id version content
  | .delete id version => applyDelete store batch id version

/-- Undoes one entry; a record that somebody else has written since is left alone. -/
def undoOne (store : Store) : Undo → Store
  | .created id => (store.compensate id (some 0) none).2
  | .updated written previous => (store.compensate previous.id (some written) (some previous)).2
  | .deleted previous => (store.compensate previous.id none (some previous)).2

/-- Undoes every entry applied. -/
def rollback (store : Store) (batch : Batch) : Store :=
  let store := batch.undo.foldl undoOne store
  { store with stats := store.stats.countRollback }

/-- Keeps every entry applied. -/
def keep (store : Store) (batch : Batch) : Outcome × Store :=
  (batch.outcome, { store with stats := store.stats.countCommit })

end Batch

end RecordBase
