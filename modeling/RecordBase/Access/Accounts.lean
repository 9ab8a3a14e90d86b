import RecordBase.Access.Hashing
import RecordBase.Access.Role
import RecordBase.Database.Description

/-!
# Accounts

No password is stored: an account holds the digest of its password under the name of its user as
key. The digest of the password that a user gives is compared with it.
-/

namespace RecordBase

/-- A user as configured. -/
structure Account where
  name : String
  /-- The text of the digest of the password. -/
  digest : String
  role : Role
  deriving DecidableEq, Repr

section

variable [Hashing]

/-- The digest of a user's password. -/
def passwordDigest (user password : String) : Bytes :=
  Hashing.digest (Bytes.ofText user) (Bytes.ofText password)

/-- An account for a user with a password. -/
def Account.ofPassword (name password : String) (role : Role) : Account :=
  ⟨name, Hashing.write (passwordDigest name password), role⟩

/-- The accounts of a new server; each has its name as password. -/
def Account.initial : List Account :=
  [.ofPassword "admin" "admin" .admin, .ofPassword "writer" "writer" .writer,
    .ofPassword "reader" "reader" .reader]

end

/-- An account whose digest does not read. -/
structure AccountFault where
  user : String
  /-- What is wrong with the text of the digest. -/
  fault : String
  deriving DecidableEq, Repr

/-- The wording of a fault in an account. -/
def AccountFault.message (fault : AccountFault) : String :=
  "digest of user '" ++ fault.user ++ "': " ++ fault.fault

/-- The digest and the role of each user. -/
structure Accounts where
  users : Table String (Bytes × Role) := Table.empty

namespace Accounts

/-- Adds accounts in order; of two for one user the last one counts. -/
def add [Hashing] (accounts : Accounts) : List Account → Except AccountFault Accounts
  | [] => .ok accounts
  | account :: rest =>
    match Hashing.read account.digest with
    | .error fault => .error ⟨account.name, fault⟩
    | .ok digest => add ⟨accounts.users.insert account.name (digest, account.role)⟩ rest

/-- The accounts of some users. -/
def ofList [Hashing] (list : List Account) : Except AccountFault Accounts := add {} list

/-- The number of users. -/
def size (accounts : Accounts) : Nat := accounts.users.size

/-- The user with a name, if the password is right. -/
def authenticate [Hashing] (accounts : Accounts) (user password : String) : Except AccessError Principal :=
  match accounts.users.get? user with
  | some (digest, role) =>
    if digest = passwordDigest user password then .ok ⟨user, role⟩
    else .error (.badCredentials user)
  | none => .error (.badCredentials user)

/-- The description of the accounts. -/
def description (accounts : Accounts) : String :=
  describe "Security" [("users", describeTexts accounts.users.keys)] false

end Accounts

end RecordBase
