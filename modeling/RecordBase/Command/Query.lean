import RecordBase.Category
import RecordBase.Command.Value
import RecordBase.Store.Clusters

/-!
# Carrying out commands

Four commands are understood, their keywords in any case:

* `SELECT FROM` a cluster gives its records by position, as many as the limit allows;
* `SELECT COUNT(*) FROM` a cluster gives their number;
* `LOAD` an identity gives that record, or nothing;
* `LIST CLUSTERS` gives the names of the clusters by id.

A cluster is given by its name, before which `cluster:` may stand.
-/

namespace RecordBase

/-- A command as it is understood. -/
inductive Query where
  | select (cluster : String)
  | count (cluster : String)
  | load (identity : String)
  | listClusters
  deriving DecidableEq, Repr

/-- What a command gives. -/
inductive CommandOutput where
  | null
  | record (record : Record)
  | value (value : CommandValue)
  | records (records : List Record)
  deriving Repr

/-- Why a command gives nothing. -/
inductive CommandError where
  | store (error : Error)
  /-- The text of an identity does not read as one. -/
  | malformedIdentity (text : String)
  /-- The text is none of the commands. -/
  | unsupported (text : String)
  deriving DecidableEq, Repr

/-- The wording of a command's failure. -/
def CommandError.message : CommandError → String
  | store error => error.message
  | malformedIdentity text => "command failed: invalid record id '" ++ text ++ "'"
  | unsupported text => "command failed: unsupported command '" ++ text ++ "'"

/-- The category of a command's failure. -/
def CommandError.category : CommandError → Category
  | store error => error.category
  | malformedIdentity _ | unsupported _ => .command

namespace Query

/-- What follows `cluster:`, or the whole text if it does not start with that. -/
def clusterName (target : String) : String :=
  let chars := target.toList
  let marker := "cluster:".toList
  if (chars.take marker.length).map Char.toLower = marker then
    String.ofList (chars.drop marker.length)
  else target

/-- Understands the words of a command. -/
def ofWords? (words : List String) : Option Query :=
  match words.map Text.asciiLowercase, words with
  | ["select", "from", _], [_, _, target] => some (.select (clusterName target))
  | ["select", "count(*)", "from", _], [_, _, _, target] => some (.count (clusterName target))
  | ["load", _], [_, identity] => some (.load identity)
  | ["list", "clusters"], _ => some .listClusters
  | _, _ => none

/-- Understands a command. -/
def parse? (text : String) : Option Query := ofWords? (Text.words text)

end Query

/-- The identities of some records, as a list of values. -/
def identityList (records : List Record) : CommandValue :=
  .list (records.map fun record => .identity record.id.text)

/-- The records of an output, if it consists of records. -/
def CommandOutput.toRecords : CommandOutput → List Record
  | .record found => [found]
  | .records found => found
  | .null | .value _ => []

namespace Store

/-- The records of the cluster with a name, as many as a limit allows. -/
def select (store : Store) (cluster : String) (limit : Option Nat) :
    Except Error (List Record) := do
  let records ← store.scan (← store.clusterNamed cluster)
  return match limit with
    | some limit => records.take limit
    | none => records

/-- Carries out a query. -/
def answer (store : Store) (limit : Option Nat) : Query → Except CommandError CommandOutput × Store
  | .select cluster => (((store.select cluster limit).map .records).mapError .store, store)
  | .count cluster =>
    let counted := store.countNamed cluster
    ((counted.map fun n => .value (.integer (Int64.ofInt n))).mapError .store, store)
  | .load identity =>
    match RecordId.parse? identity with
    | none => (.error (.malformedIdentity identity), store)
    | some id =>
      match store.read id with
      | (.error error, store) => (.error (.store error), store)
      | (.ok (some record), store) => (.ok (.record record), store)
      | (.ok none, store) => (.ok .null, store)
  | .listClusters => (.ok (.value (.list (store.clusters.map fun c => .text c.name))), store)

/-- Carries out a command. -/
def execute (store : Store) (request : CommandRequest) :
    Except CommandError CommandOutput × Store :=
  match Query.parse? request.text with
  | some query => store.answer request.maxResults? query
  | none => (.error (.unsupported request.text), store)

end Store

end RecordBase
