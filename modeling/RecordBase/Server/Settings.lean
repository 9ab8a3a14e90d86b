import RecordBase.Access.Accounts
import RecordBase.Json.Value
import RecordBase.Server.Address
import RecordBase.Settings
import RecordBase.Wire.Source

/-!
# Settings of a server

Where the server listens, what it accepts, where it keeps its databases and who may use it. The
settings are read from JSON, by whatever reader of JSON there is; what is not given is left at its
default.
-/

namespace RecordBase

/-- The choices with which a server is started. -/
structure ServerSettings where
  /-- Where the server listens. -/
  address : SocketAddress := ⟨.v4 [127, 0, 0, 1], 2424⟩
  /-- The most connections at a time. -/
  maxConnections : Nat := 1000
  /-- The seconds after which an idle connection is closed; never, if zero. -/
  readTimeout : Nat := 300
  /-- The directory that holds databases, if the server keeps any there. -/
  storageRoot : Option String := none
  /-- The greatest length of a field that is accepted. -/
  maxLength : Nat := Wire.defaultLimit
  useCache : Bool := true
  cacheCapacity : Nat := 10000
  syncOnWrite : Bool := false
  accounts : List Account := []
  deriving DecidableEq, Repr

/-- Why settings cannot be used. -/
inductive SettingsError where
  /-- The text is no JSON of settings. -/
  | malformed
  /-- The file cannot be read as a text. -/
  | unreadable
  | account (fault : AccountFault)
  deriving DecidableEq, Repr

/-- The wording of a fault in settings, as far as this library decides it. -/
def SettingsError.message : SettingsError → String
  | malformed => "configuration error: "
  | unreadable => "io error: "
  | account fault => "configuration error: " ++ fault.message

/-- The role that a JSON value stands for: its name, or an object with null under its name. -/
def Role.ofJson? : JsonValue → Option Role
  | .string (some name) => Role.ofName? name
  | .object [(some name, .null)] => Role.ofName? name
  | _ => none

namespace Account

/-- The names of an account's fields. -/
def fieldNames : List String := ["name", "digest", "role"]

/-- The account that a JSON value stands for. -/
def ofJson? (value : JsonValue) : Option Account := do
  let fields ← value.fields? fieldNames
  let name ← (← fields.lookup "name").text?
  let digest ← (← fields.lookup "digest").text?
  let role ← Role.ofJson? (← fields.lookup "role")
  return { name, digest, role }

/-- The accounts that a JSON value stands for. -/
def listOfJson? : JsonValue → Option (List Account)
  | .array items => items.mapM ofJson?
  | _ => none

end Account

namespace ServerSettings

/-- The names of the fields of settings. -/
def fieldNames : List String :=
  ["bind_addr", "max_connections", "read_timeout_secs", "storage_root", "max_frame_length",
    "use_cache", "cache_capacity", "sync_on_write", "users"]

/-- Sets the field with a name. -/
def set (settings : ServerSettings) (field : String × JsonValue) : Option ServerSettings := do
  let value := field.2
  match field.1 with
  | "bind_addr" =>
    return { settings with address := ← SocketAddress.parse? (← value.text?) }
  | "max_connections" => return { settings with maxConnections := ← value.word? }
  | "read_timeout_secs" => return { settings with readTimeout := ← value.word? }
  | "storage_root" => return { settings with storageRoot := ← value.textOrNull? }
  | "max_frame_length" => return { settings with maxLength := ← value.word? }
  | "use_cache" => return { settings with useCache := ← value.bool? }
  | "cache_capacity" => return { settings with cacheCapacity := ← value.word? }
  | "sync_on_write" => return { settings with syncOnWrite := ← value.bool? }
  | "users" => return { settings with accounts := ← Account.listOfJson? value }
  | _ => return settings

/-- The settings of a new server. -/
def initial [Hashing] : ServerSettings := { accounts := Account.initial }

/-- The settings that a JSON value stands for. -/
def ofValue? [Hashing] (value : JsonValue) : Option ServerSettings := do
  (← value.fields? fieldNames).foldlM set initial

/-- The settings in a text, of which `parse?` reads the JSON. -/
def ofJson [Hashing] (parse? : String → Option JsonValue) (text : String) :
    Except SettingsError ServerSettings :=
  match (parse? text).bind ofValue? with
  | some settings => .ok settings
  | none => .error .malformed

/-- The settings in a file, if there is one. -/
def ofFile [Hashing] (parse? : String → Option JsonValue) (file : Option Bytes) :
    Except SettingsError ServerSettings :=
  match file.bind Bytes.toText? with
  | some text => ofJson parse? text
  | none => .error .unreadable

/-- Sets the time after which an idle connection is closed; parts of a second are dropped. -/
def withTimeout (settings : ServerSettings) (milliseconds : Nat) : ServerSettings :=
  { settings with readTimeout := milliseconds / 1000 }

/-- The seconds after which an idle connection is closed, if it ever is. -/
def timeout? (settings : ServerSettings) : Option Nat :=
  if settings.readTimeout = 0 then none else some settings.readTimeout

/-- The settings of the databases that the server opens. -/
def database (settings : ServerSettings) : Settings :=
  { useCache := settings.useCache
    cacheCapacity := settings.cacheCapacity
    syncOnWrite := settings.syncOnWrite }

end ServerSettings

end RecordBase
