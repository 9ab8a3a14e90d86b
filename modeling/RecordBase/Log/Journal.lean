import RecordBase.Log.Medium
import RecordBase.Log.Replay

/-!
# The journal of a database

The journal appends entries to a medium, each one followed by a sync if the database asks for it.
A medium may refuse requests: `refusals` says which of the next appends it refuses, `syncFaults`
which of the next syncs fail, and `syncFails` and `flushFails` whether all others do. A refused
append writes nothing; an append whose sync fails is written all the same.

What happens to the requests to come is given in spells, so that a fault may last for any time.
-/

namespace RecordBase

/-- Which of the requests to come fail: how many are treated alike and whether these fail, in
turn. -/
abbrev Faults := List (Nat × Bool)

/-- Whether the next request fails, and the faults after it; `last` is for requests after all
spells. -/
def Faults.next (last : Bool) : Faults → Bool × Faults
  | [] => (last, [])
  | (0, _) :: rest => Faults.next last rest
  | (count + 1, fails) :: rest => (fails, (count, fails) :: rest)

/-- A log with the way it is written. -/
structure Journal where
  medium : Medium
  /-- Whether each append is followed by a sync. -/
  syncOnWrite : Bool
  /-- Which of the next appends the medium refuses. -/
  refusals : Faults := []
  /-- Which of the next syncs fail. -/
  syncFaults : Faults := []
  /-- Whether the syncs after those fail. -/
  syncFails : Bool := false
  /-- Whether the medium fails to flush. -/
  flushFails : Bool := false
  deriving DecidableEq, Repr

namespace Journal

/-- The failure of a medium that refuses a request. -/
def refusal : Error := .medium (.io "injected")

/-- What a medium answers to a request that it may refuse. -/
def obey (refused : Bool) : Except Error Unit := if refused then .error refusal else .ok ()

/-- A journal that lets the next `after` appends pass and has the `count` after them refused. -/
def refuse (journal : Journal) (after count : Nat) : Journal :=
  { journal with refusals := [(after, false), (count, true)] }

/-- Hands every entry to the medium. -/
def flush (journal : Journal) : Except Error Unit := obey journal.flushFails

/-- Makes every entry durable. -/
def sync (journal : Journal) : Except Error Unit × Journal :=
  let (fails, syncFaults) := journal.syncFaults.next journal.syncFails
  (obey fails, { journal with syncFaults })

/-- Hands every entry to the medium and makes it durable. -/
def settle (journal : Journal) : Except Error Unit × Journal :=
  match journal.flush with
  | .error error => (.error error, journal)
  | .ok () => journal.sync

/-- Makes every entry durable if the database asks for it. -/
def syncAfterWrite (journal : Journal) : Except Error Unit × Journal :=
  if journal.syncOnWrite then journal.sync else (.ok (), journal)

/-- Appends an entry and returns where it was written. -/
def append (journal : Journal) (entry : LogEntry) : Except Error Nat × Journal :=
  let (refused, refusals) := journal.refusals.next false
  let journal := { journal with refusals }
  if refused then (.error refusal, journal)
  else
    let (offset, medium) := journal.medium.append entry.encode
    match { journal with medium }.syncAfterWrite with
    | (.error error, journal) => (.error error, journal)
    | (.ok (), journal) => (.ok offset, journal)

/-- Reads every entry back and drops a torn end. -/
def replay (journal : Journal) : Except Error (List LogEntry × Journal) := do
  let bytes ← journal.medium.readAll.mapError .medium
  let (entries, length) ← (Log.replay bytes).mapError .damaged
  if length < bytes.length then
    let medium ← (journal.medium.truncate length).mapError .medium
    return (entries, { journal with medium })
  else return (entries, journal)

end Journal

end RecordBase
