import RecordBase.Access.Role

/-!
# Sessions

What a server knows of one connection: who it is, which database it works on, and what it has asked
for so far. A session starts anonymous and without a database.
-/

namespace RecordBase

/-- One connection as the server knows it. -/
structure Session where
  id : String
  principal : Option Principal := none
  /-- The number of the database the session works on. -/
  database : Option Nat := none
  /-- How many requests have been answered. -/
  requests : Nat := 0
  /-- How many requests have failed. -/
  failures : Nat := 0
  /-- The number of the kind of the last request. -/
  lastOpcode : Option UInt8 := none
  lastCommand : Option String := none
  deriving DecidableEq, Repr

namespace Session

/-- The user of a session, if somebody has authenticated. -/
def user (session : Session) : Except AccessError Principal :=
  match session.principal with
  | some principal => .ok principal
  | none => .error .notAuthenticated

/-- Refuses what the user of a session may not do. -/
def authorize (session : Session) (resource : Resource) (access : Access) :
    Except AccessError Unit := do
  (← session.user).check resource access

/-- Counts a request. -/
def count (session : Session) (opcode : UInt8) (failed : Bool) : Session :=
  { session with
    requests := session.requests + 1
    failures := if failed then session.failures + 1 else session.failures
    lastOpcode := some opcode }

end Session

end RecordBase
