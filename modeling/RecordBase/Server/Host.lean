import RecordBase.Catalog.Basic
import RecordBase.Server.Error

/-!
# What the sessions of a server share

The settings, the accounts and the catalog of databases, and those who are told when the server
shuts down.
-/

namespace RecordBase

/-- Somebody to be told of the end of a server. -/
structure ShutdownListener where
  name : String
  /-- Why it fails, if it does. -/
  failure : Option String
  deriving DecidableEq, Repr

/-- How a listener fails at the end. -/
def ShutdownListener.failures (listener : ShutdownListener) : List Failure :=
  listener.failure.toList.map fun text =>
    ⟨"shutdown listener " ++ listener.name, (ServerError.internal text).message⟩

/-- What the sessions of a server share. -/
structure Host where
  settings : ServerSettings
  accounts : Accounts
  catalog : Catalog
  listeners : List ShutdownListener := []

namespace Host

/-- Starts a server on a disk. Databases are kept there if the settings name a directory or
`usesDisk` is set. -/
def start [Hashing] (settings : ServerSettings) (usesDisk : Bool) (listeners : List ShutdownListener)
    (disk : Disk) : Except SettingsError Host :=
  match Accounts.ofList settings.accounts with
  | .error fault => .error (.account fault)
  | .ok accounts =>
    let usesDisk := usesDisk || settings.storageRoot.isSome
    .ok { settings, accounts, listeners
          catalog := .start settings.database usesDisk { disk } }

/-- Closes every database and tells the listeners; whatever fails, the rest is done. -/
def shutdown (host : Host) : ShutdownReport × Host :=
  let (report, catalog) := host.catalog.shutdown
  (report.merge ⟨[], host.listeners.flatMap ShutdownListener.failures⟩, { host with catalog })

/-- The description of a server without connections. -/
def description (host : Host) : String :=
  describe "ServerContext"
    [("bind_addr", host.settings.address.text),
      ("engines", describeTexts host.catalog.engines.keys), ("connections", "0")] true

/-- The description of the connections of a server that has none. -/
def connectionsDescription (host : Host) : String :=
  describe "ConnectionRegistry"
    [("max_connections", toString host.settings.maxConnections), ("live", "0")] false

end Host

end RecordBase
