import RecordBase.Log.Medium

/-!
# Requests to a log

Whoever keeps a log of bytes answers the same requests (`ByteLog`). What a request replies and what it
leaves of the log is said once for all of them (`ByteLog.Request.run`).
-/

namespace RecordBase

/-- What a log of bytes does, however it is kept. -/
class ByteLog (σ : Type) where
  /-- The length of the log. -/
  size : σ → Nat
  /-- Reads from any place. -/
  readAt : σ → (offset length : Nat) → Except MediumFault Bytes × σ
  /-- Writes at the end and returns where that was. -/
  append : σ → Bytes → Nat × σ
  /-- Drops all but the first bytes, as many as given. -/
  truncate : σ → Nat → Except MediumFault Unit × σ
  /-- Opens the log anew. -/
  reopen : σ → σ

namespace ByteLog

/-- A request to a log. -/
inductive Request where
  | append (data : Bytes)
  | readAt (offset length : Nat)
  | readAll
  | size
  | truncate (size : Nat)
  | flush
  | sync
  | reopen
  deriving DecidableEq, Repr

/-- The reply to a request. -/
inductive Reply where
  | place (offset : Nat)
  | content (bytes : Bytes)
  | length (size : Nat)
  | done
  | failed (fault : MediumFault)
  deriving DecidableEq, Repr

/-- The reply that reading comes to. -/
def Reply.ofRead : Except MediumFault Bytes → Reply
  | .ok bytes => content bytes
  | .error fault => failed fault

/-- The reply that a truncation comes to. -/
def Reply.ofTruncation : Except MediumFault Unit → Reply
  | .ok () => done
  | .error fault => failed fault

section Run

variable {σ : Type} [ByteLog σ]

/-- Reads the whole log. -/
def readAll (log : σ) : Except MediumFault Bytes × σ := readAt log 0 (size log)

/-- The reply to a request, and the log after it. Nothing is kept back, so there is nothing to flush. -/
def Request.run (log : σ) : Request → Reply × σ
  | append data => let (offset, log) := ByteLog.append log data; (.place offset, log)
  | readAt offset length => let (read, log) := ByteLog.readAt log offset length; (.ofRead read, log)
  | readAll => let (read, log) := ByteLog.readAll log; (.ofRead read, log)
  | size => (.length (ByteLog.size log), log)
  | truncate length => let (cut, log) := ByteLog.truncate log length; (.ofTruncation cut, log)
  | flush | sync => (.done, log)
  | reopen => (.done, ByteLog.reopen log)

/-- The replies to requests one after another, and the log after them. -/
def runAll (log : σ) : List Request → List Reply × σ
  | [] => ([], log)
  | request :: rest =>
    let (reply, log) := request.run log
    let (replies, log) := runAll log rest
    (reply :: replies, log)

end Run

end ByteLog

instance : ByteLog Medium where
  size := Medium.size
  readAt medium offset length := (medium.readAt offset length, medium)
  append := Medium.append
  truncate medium size :=
    match medium.truncate size with
    | .ok shorter => (.ok (), shorter)
    | .error fault => (.error fault, medium)
  reopen := Medium.reopen

end RecordBase
