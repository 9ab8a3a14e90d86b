import RecordBase.Error

/-!
# Categories of failure

A client that cannot tell every failure apart can still tell whose fault it is. The category of a
failure is sent with its wording.
-/

namespace RecordBase

/-- What kind of failure it is, as far as a client needs to know. -/
inductive Category where
  /-- Bytes that do not read as a request. -/
  | decode
  | authentication
  | authorization
  /-- No open database. -/
  | notOpen
  | notFound
  | versionConflict
  /-- A request that cannot be carried out as it stands. -/
  | invalidRequest
  /-- A command that cannot be carried out. -/
  | command
  /-- A failure of the server. -/
  | internal
  deriving DecidableEq, Repr

/-- The name of a category. -/
def Category.name : Category → String
  | decode => "decode"
  | authentication => "authentication"
  | authorization => "authorization"
  | notOpen => "not-open"
  | notFound => "not-found"
  | versionConflict => "version-conflict"
  | invalidRequest => "invalid-request"
  | command => "command"
  | internal => "internal"

/-- The category of a database's failure. -/
def Error.category : Error → Category
  | versionConflict _ _ _ => .versionConflict
  | recordNotFound _ | clusterNotFound _ | databaseNotFound _ => .notFound
  | clusterExists _ | databaseExists _ | unsupportedStorage _ | malformedIdentity _
  | invalidBatch _ | invalidOperation _ => .invalidRequest
  | databaseClosed => .notOpen
  | medium _ | system _ | damaged _ | databaseLocked => .internal

end RecordBase
