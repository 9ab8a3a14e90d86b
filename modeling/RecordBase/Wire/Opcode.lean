import RecordBase.Wire.Field

/-!
# Requests by number

Each kind of request has a number and a list of operands. The kinds of the operands tell how much
of a request is left after a failure in the middle of it.
-/

namespace RecordBase.Wire

/-- A kind of request. -/
inductive Opcode where
  | connect
  | openDatabase
  | createDatabase
  | closeDatabase
  | databaseExists
  | addPhysicalCluster
  | addLogicalCluster
  | countClusters
  | loadRecord
  | createRecord
  | updateRecord
  | deleteRecord
  | countNamed
  | command
  | lookupKey
  | bindKey
  | unbindKey
  | countKeys
  | listKeys
  | commit
  deriving DecidableEq, Repr

/-- The kind of an operand. -/
inductive OperandKind where
  | byte
  | short
  | int
  | long
  | string
  | bytes
  /-- As many shorts as the operand before says. -/
  | shorts
  /-- The entries of a batch. -/
  | entries
  deriving DecidableEq, Repr

/-- An operand of a request. -/
structure Operand where
  name : String
  kind : OperandKind
  deriving DecidableEq, Repr

/-- The text of an operand. -/
def Operand.text (operand : Operand) : String :=
  match operand.kind with
  | .byte => operand.name ++ ":byte"
  | .short => operand.name ++ ":short"
  | .int => operand.name ++ ":int"
  | .long => operand.name ++ ":long"
  | .string => operand.name ++ ":string"
  | .bytes => operand.name ++ ":bytes"
  | .shorts => operand.name ++ ":short[]"
  | .entries => operand.name

namespace Opcode

/-- Every kind of request, by its number. -/
def all : List Opcode := [
  connect, openDatabase, createDatabase, closeDatabase, databaseExists, addPhysicalCluster,
  addLogicalCluster, countClusters, loadRecord, createRecord, updateRecord, deleteRecord,
  countNamed, command, lookupKey, bindKey, unbindKey, countKeys, listKeys, commit]

/-- The number of a kind of request. -/
def code : Opcode → UInt8
  | connect => 1
  | openDatabase => 5
  | createDatabase => 6
  | closeDatabase => 7
  | databaseExists => 8
  | addPhysicalCluster => 10
  | addLogicalCluster => 11
  | countClusters => 12
  | loadRecord => 30
  | createRecord => 31
  | updateRecord => 32
  | deleteRecord => 33
  | countNamed => 40
  | command => 41
  | lookupKey => 50
  | bindKey => 51
  | unbindKey => 52
  | countKeys => 53
  | listKeys => 54
  | commit => 60

/-- The name of a kind of request. -/
def name : Opcode → String
  | connect => "CONNECT"
  | openDatabase => "DB_OPEN"
  | createDatabase => "DB_CREATE"
  | closeDatabase => "DB_CLOSE"
  | databaseExists => "DB_EXIST"
  | addPhysicalCluster => "CLUSTER_PHYSICAL_ADD"
  | addLogicalCluster => "CLUSTER_LOGICAL_ADD"
  | countClusters => "CLUSTER_COUNT"
  | loadRecord => "RECORD_LOAD"
  | createRecord => "RECORD_CREATE"
  | updateRecord => "RECORD_UPDATE"
  | deleteRecord => "RECORD_DELETE"
  | countNamed => "COUNT"
  | command => "COMMAND"
  | lookupKey => "DICTIONARY_LOOKUP"
  | bindKey => "DICTIONARY_PUT"
  | unbindKey => "DICTIONARY_REMOVE"
  | countKeys => "DICTIONARY_SIZE"
  | listKeys => "DICTIONARY_KEYS"
  | commit => "TX_COMMIT"

/-- The operands of a kind of request. -/
def operands : Opcode → List Operand
  | connect => [⟨"user", .string⟩, ⟨"pass", .string⟩]
  | openDatabase => [⟨"url", .string⟩, ⟨"user", .string⟩, ⟨"pass", .string⟩]
  | createDatabase => [⟨"name", .string⟩, ⟨"mode", .string⟩]
  | closeDatabase | databaseExists | countKeys | listKeys => []
  | addPhysicalCluster => [⟨"name", .string⟩, ⟨"fileName", .string⟩, ⟨"startSize", .int⟩]
  | addLogicalCluster => [⟨"name", .string⟩, ⟨"containerId", .int⟩]
  | countClusters => [⟨"count", .short⟩, ⟨"ids", .shorts⟩]
  | loadRecord => [⟨"cluster", .short⟩, ⟨"position", .long⟩]
  | createRecord => [⟨"cluster", .short⟩, ⟨"content", .bytes⟩, ⟨"type", .byte⟩]
  | updateRecord =>
    [⟨"cluster", .short⟩, ⟨"position", .long⟩, ⟨"content", .bytes⟩, ⟨"version", .int⟩,
      ⟨"type", .byte⟩]
  | deleteRecord => [⟨"cluster", .short⟩, ⟨"position", .long⟩, ⟨"version", .int⟩]
  | countNamed => [⟨"cluster", .string⟩]
  | command => [⟨"mode", .byte⟩, ⟨"request", .bytes⟩]
  | lookupKey | unbindKey => [⟨"key", .string⟩]
  | bindKey => [⟨"key", .string⟩, ⟨"type", .byte⟩, ⟨"rid", .string⟩]
  | commit => [⟨"txId", .int⟩, ⟨"count", .int⟩, ⟨"entries", .entries⟩]

/-- The kind of request with a number. -/
def ofCode? (code : UInt8) : Option Opcode := all.find? fun opcode => opcode.code = code

end Opcode

/-! ## Modes of commands -/

/-- How the result of a command is delivered. -/
inductive CommandMode where
  /-- At once. -/
  | single
  /-- As a stream of records. -/
  | stream
  deriving DecidableEq, Repr

namespace CommandMode

/-- The letter of a mode. -/
def tag : CommandMode → UInt8
  | single => 0x73
  | stream => 0x61

/-- The mode with a letter; every unknown one asks for a single result. -/
def ofTag (tag : UInt8) : CommandMode := if tag = 0x61 then stream else single

end CommandMode

end RecordBase.Wire
