/-!
# Roles

What a user may do is decided by the role alone: an administrator may do everything, a writer may
read and write data, and a reader may read it.
-/

namespace RecordBase

/-- What a permission protects. -/
inductive Resource where
  /-- The set of databases. -/
  | server
  /-- Opening a database and adding clusters to it. -/
  | database
  /-- The sizes of clusters. -/
  | cluster
  | record
  | command
  | dictionary
  deriving DecidableEq, Repr

/-- What is done to a resource. -/
inductive Access where
  | create
  | read
  | update
  | delete
  deriving DecidableEq, Repr

/-- The name of a resource. -/
def Resource.name : Resource → String
  | server => "Server"
  | database => "Database"
  | cluster => "Cluster"
  | record => "Record"
  | command => "Command"
  | dictionary => "Dictionary"

/-- Every resource. -/
def Resource.all : List Resource := [server, database, cluster, record, command, dictionary]

/-- The name of an access. -/
def Access.name : Access → String
  | create => "Create"
  | read => "Read"
  | update => "Update"
  | delete => "Delete"

/-- Every access. -/
def Access.all : List Access := [create, read, update, delete]

/-- The part that a user plays. -/
inductive Role where
  | admin
  | writer
  | reader
  deriving DecidableEq, Repr

namespace Role

/-- The name of a role. -/
def name : Role → String
  | admin => "admin"
  | writer => "writer"
  | reader => "reader"

/-- The role with a name. -/
def ofName? : String → Option Role
  | "admin" => some admin
  | "writer" => some writer
  | "reader" => some reader
  | _ => none

/-- Whether a role permits an access to a resource. -/
def allows : Role → Resource → Access → Bool
  | admin, _, _ => true
  | writer, .server, _ => false
  | writer, .database, access => access = .read
  | writer, _, _ => true
  | reader, resource, access => resource ≠ .server && access = .read

end Role

/-- An authenticated user. -/
structure Principal where
  name : String
  role : Role
  deriving DecidableEq, Repr

/-- Why access is refused. -/
inductive AccessError where
  /-- The password is not that of the user, or there is no such user. -/
  | badCredentials (user : String)
  | notAuthenticated
  /-- The role of the user does not permit the access. -/
  | notPermitted (principal : Principal) (resource : Resource) (access : Access)
  deriving DecidableEq, Repr

/-- The wording of a refusal. -/
def AccessError.message : AccessError → String
  | badCredentials user => "authentication failed: invalid credentials for '" ++ user ++ "'"
  | notAuthenticated => "not authorized: connection is not authenticated"
  | notPermitted principal resource access =>
    "not authorized: user '" ++ principal.name ++ "' (" ++ principal.role.name ++ ") may not " ++
      access.name ++ " " ++ resource.name

/-- Refuses an access that the role of a user does not permit. -/
def Principal.check (principal : Principal) (resource : Resource) (access : Access) :
    Except AccessError Unit :=
  if principal.role.allows resource access then .ok ()
  else .error (.notPermitted principal resource access)

end RecordBase
