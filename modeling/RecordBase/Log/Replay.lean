import RecordBase.Log.Codec

/-!
# Reading a log back

The entries of a log follow one another from its start. A last entry that is cut short is the
trace of an interrupted write and is dropped; anything else that does not read as an entry is
damage.
-/

namespace RecordBase.Log

/-- What the front of the unread part of a log shows. -/
inductive Front where
  /-- Nothing is left. -/
  | finished
  /-- Only a part of an entry is left. -/
  | torn
  /-- An entry with this many bytes. -/
  | entry (size : Nat)
  /-- An entry announces a length of zero. -/
  | zero
  deriving DecidableEq, Repr

/-- Looks at the front of the unread part of a log. -/
def front (rest : Bytes) : Front :=
  if rest.isEmpty then .finished
  else if rest.length < 4 then .torn
  else
    let size := LogEntry.announcedLength rest
    if size = 0 then .zero else if rest.length < size then .torn else .entry size

theorem front_entry {rest : Bytes} {size : Nat} (h : front rest = .entry size) :
    0 < size ∧ size ≤ rest.length := by
  unfold front at h
  split at h
  · cases h
  · split at h
    · cases h
    · simp only at h
      split at h
      · cases h
      · split at h
        · cases h
        · cases h
          omega

/-- The entries of a log from an offset on, and the length of the log that holds them. -/
def replayFrom (offset : Nat) (rest : Bytes) : Except Damage (List LogEntry × Nat) :=
  match _hfront : front rest with
  | .finished => .ok ([], offset)
  | .torn => .ok ([], offset)
  | .zero => .error (.zeroLength offset)
  | .entry size =>
    match LogEntry.decode (rest.take size) with
    | .error damage => .error damage
    | .ok entry =>
      match replayFrom (offset + size) (rest.drop size) with
      | .error damage => .error damage
      | .ok (entries, length) => .ok (entry :: entries, length)
termination_by rest.length
decreasing_by
  have := front_entry _hfront
  simp only [List.length_drop]
  omega

/-- The entries of a log, and the length of the log without a torn end. -/
def replay (bytes : Bytes) : Except Damage (List LogEntry × Nat) := replayFrom 0 bytes

end RecordBase.Log
