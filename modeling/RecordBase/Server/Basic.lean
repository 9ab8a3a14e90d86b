import RecordBase.Server.Cycle

/-!
# Servers

A server is what its sessions share, and the sessions. Something that no session works on any more
and that the catalog does not list is given up.
-/

namespace RecordBase

open Wire (Channel)

/-- A server with its sessions by number. -/
structure Server where
  host : Host
  sessions : Table Int Session := Table.empty

namespace Server

/-- Gives up the databases that nobody uses. -/
def release (server : Server) : Server :=
  let used := server.sessions.values.filterMap (·.database)
  { server with host := { server.host with catalog := server.host.catalog.release used } }

/-- The session with a number, which starts if there is none; `id` is that of a new session. -/
def session (server : Server) (number : Int) (id : String) : Session :=
  (server.sessions.get? number).getD { id }

/-- Keeps a session. -/
def keep (server : Server) (number : Int) (session : Session) : Server :=
  { server with sessions := server.sessions.insert number session }

/-- Serves all the requests of a connection under a session. -/
def serve [Codec] [Hashing] (server : Server) (number : Int) (id : String) (channel : Channel) :
    List Nat × Server × Channel :=
  let (ends, talk, channel) :=
    Conversation.serveAll ⟨server.host, server.session number id⟩ channel
  (ends, ({ server with host := talk.host }.keep number talk.session).release, channel)

/-- Ends a session; says whether there was one. -/
def hangUp (server : Server) (number : Int) : Bool × Server :=
  (server.sessions.contains number,
    { server with sessions := server.sessions.erase number }.release)

/-- Closes every database. -/
def shutdown (server : Server) : ShutdownReport × Server :=
  let (report, host) := server.host.shutdown
  (report, { server with host }.release)

/-- Starts anew on the same disk, without sessions and without closing anything. -/
def restart (server : Server) : Server :=
  let host := server.host
  let usesDisk := host.catalog.engines.contains StorageMode.directory.name
  { host := { host with
      catalog := .start host.catalog.settings usesDisk { disk := host.catalog.depot.disk } } }

/-- The name of the database that a session works on, if that is open. -/
def databaseName? (server : Server) (session : Session) : Option String := do
  let database ← server.host.catalog.depot.database? (← session.database)
  if database.isOpen then some database.name else none

end Server

end RecordBase
