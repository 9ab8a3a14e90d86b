import RecordBase.Bytes.Hex
import RecordBase.Files.Path
import RecordBase.Record.Identity
import RecordBase.Text.Quoted

/-!
# Why an operation on a database fails

Each way to fail is a constructor; the wording of all of them is in the `message` functions.
-/

namespace RecordBase

/-- A failure of the medium that keeps a log. -/
inductive MediumFault where
  /-- The medium did not carry out a request. -/
  | io (reason : String)
  /-- The system does not open the file of the log. -/
  | system (refusal : Files.Refusal)
  /-- A read touches bytes that the log does not have. -/
  | readPastEnd (offset length size : Nat)
  /-- A truncation would lengthen the log. -/
  | truncateBeyondEnd (requested size : Nat)
  deriving DecidableEq, Repr

/-- The wording of a medium's failure. -/
def MediumFault.message : MediumFault → String
  | io reason => "I/O error: " ++ reason
  | system refusal => "I/O error: " ++ refusal.message
  | readPastEnd offset length size =>
    "read beyond end of storage: offset " ++ toString offset ++ ", len " ++ toString length ++
      ", size " ++ toString size
  | truncateBeyondEnd requested size =>
    "cannot truncate to " ++ toString requested ++ " bytes, log holds only " ++ toString size

/-- What is wrong with the bytes of a log. -/
inductive Damage where
  /-- An entry has fewer bytes than its frame takes. -/
  | tooShort
  /-- An entry announces another length than it has. -/
  | lengthMismatch (announced available : Nat)
  /-- The stored checksum is not that of the bytes. -/
  | checksum (stored computed : UInt32)
  /-- The body ends inside a field. -/
  | bodyTruncated
  | unnamedCluster
  | unknownClusterKind (tag : UInt8)
  | unknownRecordType (tag : UInt8)
  | missingKey
  | unknownEntryKind (tag : UInt8)
  /-- A text field is not UTF-8. -/
  | notText
  /-- Bytes are left over after the last field. -/
  | trailingBytes
  /-- An entry announces that it has no bytes at all. -/
  | zeroLength (offset : Nat)
  /-- A record is written to a cluster that no earlier entry adds. -/
  | orphanRecord (slot : RecordId)
  deriving DecidableEq, Repr

/-- The wording of what is wrong with a log. -/
def Damage.message : Damage → String
  | checksum stored computed =>
    "checksum mismatch: expected " ++ Hex.ofNat 8 stored.toNat ++ ", got " ++
      Hex.ofNat 8 computed.toNat
  | tooShort => "segment corruption: record too short"
  | lengthMismatch announced available =>
    "segment corruption: record length " ++ toString announced ++ " does not match " ++
      toString available ++ " available bytes"
  | bodyTruncated => "segment corruption: record body truncated"
  | unnamedCluster => "segment corruption: cluster without a name"
  | unknownClusterKind tag => "segment corruption: unknown cluster kind " ++ toString tag.toNat
  | unknownRecordType tag =>
    "segment corruption: unknown record type 0x" ++ Hex.ofNat 2 tag.toNat
  | missingKey => "segment corruption: dictionary entry without key"
  | unknownEntryKind tag => "segment corruption: unknown record kind " ++ toString tag.toNat
  | notText => "segment corruption: string is not UTF-8"
  | trailingBytes => "segment corruption: trailing bytes in record"
  | zeroLength offset => "segment corruption: zero-length record at offset " ++ toString offset
  | orphanRecord slot => "segment corruption: record " ++ slot.text ++ " precedes its cluster"

/-- What is wrong with an entry of a batch. -/
inductive BatchFault where
  | createdWithoutContent
  | updatedWithoutContent
  /-- A placeholder stands for a creation that has not happened. -/
  | unresolved (id : RecordId)
  deriving DecidableEq, Repr

/-- The wording of what is wrong with an entry of a batch. -/
def BatchFault.message : BatchFault → String
  | createdWithoutContent => "created entry has no content"
  | updatedWithoutContent => "updated entry has no content"
  | unresolved id => id.text ++ " refers to a record not created earlier in the transaction"

/-- A request that the present state does not permit. -/
inductive Misuse where
  | blankClusterName
  | clusterIdsExhausted
  /-- The greatest position has been given; see `Store.nextPosition`. -/
  | positionsExhausted
  | versionOverflow (id : RecordId)
  | logicalContainer (cluster : Int16)
  | databaseName (name : String)
  | notADirectory (path : String)
  deriving DecidableEq, Repr

/-- The wording of what is not permitted. -/
def Misuse.message : Misuse → String
  | blankClusterName => "cluster name is empty"
  | clusterIdsExhausted => "cluster id space exhausted"
  | positionsExhausted => "cluster position space exhausted"
  | versionOverflow id => "version overflow on " ++ id.text
  | logicalContainer cluster =>
    "cluster " ++ Numeral.format cluster.toInt ++ " is logical and cannot contain another cluster"
  | databaseName name => "invalid database name: " ++ Text.quote name
  | notADirectory path => path ++ " exists and is not a directory"

/-- Why an operation on a database fails. -/
inductive Error where
  /-- The log could not be written or read. -/
  | medium (fault : MediumFault)
  /-- The operating system refused. -/
  | system (refusal : Files.Refusal)
  /-- The log is unreadable. -/
  | damaged (damage : Damage)
  /-- The caller's version is not the stored one. -/
  | versionConflict (id : RecordId) (expected found : Int32)
  | recordNotFound (id : RecordId)
  /-- No cluster has this name, or this number as its id. -/
  | clusterNotFound (cluster : String)
  | clusterExists (name : String)
  | databaseNotFound (name : String)
  | databaseExists (name : String)
  /-- No engine keeps databases in this way. -/
  | unsupportedStorage (mode : String)
  | malformedIdentity (text : String)
  | invalidBatch (fault : BatchFault)
  | invalidOperation (misuse : Misuse)
  /-- Another handle holds the directory of the database. -/
  | databaseLocked
  | databaseClosed
  deriving DecidableEq, Repr

namespace Error

/-- No cluster has this id. -/
def noCluster (id : Int16) : Error := .clusterNotFound (Numeral.format id.toInt)

/-- The wording of a failure. -/
def message : Error → String
  | medium fault => "storage error: " ++ fault.message
  | system refusal => "I/O error: " ++ refusal.message
  | damaged damage => damage.message
  | versionConflict id expected found =>
    "version conflict on " ++ id.text ++ ": expected version " ++ Numeral.format expected.toInt ++
      ", found " ++ Numeral.format found.toInt
  | recordNotFound id => "record not found: " ++ id.text
  | clusterNotFound cluster => "cluster not found: " ++ cluster
  | clusterExists name => "cluster already exists: " ++ name
  | databaseNotFound name => "database not found: " ++ name
  | databaseExists name => "database already exists: " ++ name
  | unsupportedStorage mode => "unsupported storage mode: " ++ mode
  | malformedIdentity text => "invalid record id: " ++ text
  | invalidBatch fault => "invalid transaction: " ++ fault.message
  | invalidOperation misuse => "invalid operation: " ++ misuse.message
  | databaseLocked => "database locked: another process has exclusive access"
  | databaseClosed => "database is closed"

/-- Whether the failure is a race lost to another writer. -/
def isVersionConflict : Error → Bool
  | versionConflict _ _ _ => true
  | _ => false

end Error

end RecordBase
