import RecordBase.Access.Role
import RecordBase.Command.Query
import RecordBase.Server.Settings
import RecordBase.Wire.Error

/-!
# Why a request fails

Every failure has a wording and a category, which are sent to the client; only a closed transport
is not reported to anybody.
-/

namespace RecordBase

/-- Why a request fails. -/
inductive ServerError where
  /-- The request does not read. -/
  | wire (error : WireError)
  /-- The database refuses. -/
  | database (error : Error)
  | access (error : AccessError)
  /-- The connection has no open database. -/
  | noDatabase
  | command (error : CommandError)
  | settings (error : SettingsError)
  /-- Something else went wrong at the server. -/
  | internal (message : String)
  deriving DecidableEq, Repr

/-- The category of a message that cannot be read. -/
def WireError.category : WireError → Category
  | remote _ _ | unexpectedStatus _ => .internal
  | _ => .decode

/-- The category of a refusal. -/
def AccessError.category : AccessError → Category
  | badCredentials _ => .authentication
  | notAuthenticated | notPermitted .. => .authorization

namespace ServerError

/-- The wording of a failure. -/
def message : ServerError → String
  | wire error => error.message
  | database error => error.message
  | access error => error.message
  | noDatabase => "no database is open on this connection"
  | command error => error.message
  | settings error => error.message
  | internal message => "internal error: " ++ message

/-- The category of a failure. -/
def category : ServerError → Category
  | wire error => error.category
  | database error => error.category
  | access error => error.category
  | noDatabase => .notOpen
  | command error => error.category
  | settings _ | internal _ => .internal

end ServerError

end RecordBase
