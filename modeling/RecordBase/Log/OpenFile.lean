import RecordBase.Log.ByteLog

/-!
# A log in an open file

An open file has one place from which the next bytes are read or at which they are written, and which
both reading and writing move. A log in it therefore goes to the right place before each of them, and
keeps the length of the log for itself.
-/

namespace RecordBase

/-! ## Files -/

/-- An open file. -/
structure OpenFile where
  /-- What the file holds. -/
  bytes : Bytes
  /-- Where the next bytes are read or written. -/
  place : Nat
  deriving DecidableEq, Repr

namespace OpenFile

/-- Goes to a place. -/
def seek (file : OpenFile) (place : Nat) : OpenFile := { file with place }

/-- Reads just so many bytes, which fails if the file has fewer from its place on. -/
def readExact (file : OpenFile) (count : Nat) : Except MediumFault Bytes × OpenFile :=
  let found := (file.bytes.drop file.place).take count
  let file := { file with place := file.place + found.length }
  if found.length < count then (.error (.io "failed to fill whole buffer"), file)
  else (.ok found, file)

/-- Writes data at its place. -/
def write (file : OpenFile) (data : Bytes) : OpenFile :=
  ⟨overwrite file.bytes file.place data, file.place + data.length⟩

/-- Cuts the file, or fills it up with zeros; the place stays where it is. -/
def setLength (file : OpenFile) (size : Nat) : OpenFile :=
  { file with bytes := file.bytes.take size ++ List.replicate (size - file.bytes.length) 0 }

end OpenFile

/-! ## Logs -/

/-- A log in an open file. -/
structure OpenLog where
  file : OpenFile
  /-- How many bytes the log has. -/
  length : Nat
  deriving DecidableEq, Repr

namespace OpenLog

/-- Opens a file as it is. -/
def ofFile (bytes : Bytes) : OpenLog := ⟨⟨bytes, 0⟩, bytes.length⟩

/-- Reads from any place. -/
def readAt (log : OpenLog) (offset length : Nat) : Except MediumFault Bytes × OpenLog :=
  if offset + length < 2 ^ 64 ∧ offset + length ≤ log.length then
    if length = 0 then (.ok [], log)
    else
      let (read, file) := (log.file.seek offset).readExact length
      (read, { log with file })
  else (.error (.readPastEnd offset length log.length), log)

/-- Writes at the end and returns where that was. -/
def append (log : OpenLog) (data : Bytes) : Nat × OpenLog :=
  (log.length,
    if data.isEmpty then log
    else ⟨(log.file.seek log.length).write data, log.length + data.length⟩)

/-- Drops all but the first `size` bytes. -/
def truncate (log : OpenLog) (size : Nat) : Except MediumFault Unit × OpenLog :=
  if log.length < size then (.error (.truncateBeyondEnd size log.length), log)
  else (.ok (), ⟨log.file.setLength size, size⟩)

/-- Opens the file anew. -/
def reopen (log : OpenLog) : OpenLog := ofFile log.file.bytes

end OpenLog

instance : ByteLog OpenLog where
  size := OpenLog.length
  readAt := OpenLog.readAt
  append := OpenLog.append
  truncate := OpenLog.truncate
  reopen := OpenLog.reopen

end RecordBase
