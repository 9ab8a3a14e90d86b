import RecordBase.Error

/-!
# Media for a log

A log is kept in memory or in a file. Both answer the same requests. A file is shared by all that
open it, so a handle remembers the length the log had for it and writes there.
-/

namespace RecordBase

/-- The bytes `length` long from `offset` on, of a log whose handle knows `size` bytes. -/
def readWithin (bytes : Bytes) (size offset length : Nat) : Except MediumFault Bytes :=
  if offset + length < 2 ^ 64 ∧ offset + length ≤ size then
    .ok ((bytes.drop offset).take length)
  else .error (.readPastEnd offset length size)

/-! ## Memory -/

/-- A log in memory. -/
structure MemoryLog where
  bytes : Bytes
  deriving DecidableEq, Repr

namespace MemoryLog

/-- Reads from any place. -/
def readAt (log : MemoryLog) (offset length : Nat) : Except MediumFault Bytes :=
  readWithin log.bytes log.bytes.length offset length

/-- Writes at the end and returns where that was. -/
def append (log : MemoryLog) (data : Bytes) : Nat × MemoryLog :=
  (log.bytes.length, ⟨log.bytes ++ data⟩)

/-- Drops all but the first `size` bytes. -/
def truncate (log : MemoryLog) (size : Nat) : Except MediumFault MemoryLog :=
  if log.bytes.length < size then .error (.truncateBeyondEnd size log.bytes.length)
  else .ok ⟨log.bytes.take size⟩

end MemoryLog

/-! ## Files -/

/-- Writes data over a file from an offset on; a gap before it is filled with zeros. -/
def overwrite (file : Bytes) (offset : Nat) (data : Bytes) : Bytes :=
  file.take offset ++ List.replicate (offset - file.length) 0 ++ data ++
    file.drop (offset + data.length)

/-- A handle on a log in a file. -/
structure FileLog where
  /-- What the file holds. -/
  bytes : Bytes
  /-- How many bytes the log has for this handle. -/
  length : Nat
  deriving DecidableEq, Repr

namespace FileLog

/-- Opens a file as it is. -/
def ofFile (bytes : Bytes) : FileLog := ⟨bytes, bytes.length⟩

/-- Reads from any place. -/
def readAt (log : FileLog) (offset length : Nat) : Except MediumFault Bytes :=
  readWithin log.bytes log.length offset length

/-- Writes at the end that the handle knows and returns where that was. -/
def append (log : FileLog) (data : Bytes) : Nat × FileLog :=
  (log.length,
    if data.isEmpty then log else ⟨overwrite log.bytes log.length data, log.length + data.length⟩)

/-- Drops all but the first `size` bytes. -/
def truncate (log : FileLog) (size : Nat) : Except MediumFault FileLog :=
  if log.length < size then .error (.truncateBeyondEnd size log.length)
  else .ok ⟨log.bytes.take size, size⟩

end FileLog

/-! ## Either -/

/-- Where a log is kept. -/
inductive Medium where
  | memory (log : MemoryLog)
  | file (log : FileLog)
  deriving DecidableEq, Repr

namespace Medium

/-- The bytes of the log or of its file. -/
def bytes : Medium → Bytes
  | memory log => log.bytes
  | file log => log.bytes

/-- The length of the log. -/
def size : Medium → Nat
  | memory log => log.bytes.length
  | file log => log.length

/-- Reads from any place. -/
def readAt (medium : Medium) (offset length : Nat) : Except MediumFault Bytes :=
  match medium with
  | memory log => log.readAt offset length
  | file log => log.readAt offset length

/-- Reads the whole log, which never asks for bytes past its end. -/
def readAll (medium : Medium) : Except MediumFault Bytes := .ok (medium.bytes.take medium.size)

/-- Writes at the end and returns where that was. -/
def append (medium : Medium) (data : Bytes) : Nat × Medium :=
  match medium with
  | memory log => let (offset, log) := log.append data; (offset, .memory log)
  | file log => let (offset, log) := log.append data; (offset, .file log)

/-- Drops all but the first `size` bytes. -/
def truncate (medium : Medium) (size : Nat) : Except MediumFault Medium :=
  match medium with
  | memory log => .memory <$> log.truncate size
  | file log => .file <$> log.truncate size

/-- Opens the log anew: a file is read as it now is. -/
def reopen : Medium → Medium
  | memory log => .memory log
  | file log => .file (.ofFile log.bytes)

end Medium

end RecordBase
