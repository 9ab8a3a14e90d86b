import RecordBase.Proofs.Log.Canonical
import RecordBase.Proofs.Log.Replay
import RecordBase.Store.Clusters

/-!
# What replaying makes of any bytes

Replaying succeeds on the bytes of entries with a torn tail after them and on nothing else, and it finds
these entries (`Log.replay_eq_ok_iff`): what it accepts is how the entries found are written, and a log
has only one such reading.

* `Journal.replay_exact`: any log is either damaged, and then left alone, or the bytes of entries with a
  torn tail, and then cut to these entries; a part of an entry at the end of a log does no harm to the
  entries before it, nor to those appended later.
-/

namespace RecordBase

namespace Log

/-- What may follow the last entry of a log: less than the length of an entry, or an entry whose length
reaches beyond the end. No tail at all is one of these. -/
def Torn (tail : Bytes) : Prop :=
  tail.length < 4 ∨ LogEntry.announcedLength tail ≠ 0 ∧ tail.length < LogEntry.announcedLength tail

instance (tail : Bytes) : Decidable (Torn tail) := inferInstanceAs (Decidable (_ ∨ _))

theorem front_entry_eq {rest : Bytes} {size : Nat} (h : front rest = .entry size) :
    size = LogEntry.announcedLength rest := by
  unfold front at h
  split at h
  · cases h
  · split at h
    · cases h
    · simp only at h
      split at h
      · cases h
      · split at h <;> cases h
        rfl

theorem torn_iff_front {rest : Bytes} : Torn rest ↔ front rest = .finished ∨ front rest = .torn := by
  unfold front Torn
  split
  · rename_i hempty
    simp [List.isEmpty_iff.1 hempty]
  · split
    · simp [*]
    · simp only
      split
      · simp [*]
      · split <;> simp [*]

theorem torn_of_isPrefix {entry : LogEntry} (small : entry.Small) {part : Bytes}
    (starts : part <+: entry.encode) (short : part ≠ entry.encode) : Torn part := by
  have hlength : part.length < entry.encode.length :=
    Nat.lt_of_le_of_ne starts.length_le fun h => short (starts.eq_of_length h)
  rw [torn_iff_front, List.prefix_iff_eq_take.1 starts]
  exact front_take_encode small hlength

theorem replayFrom_of_zero {rest : Bytes} (h : front rest = .zero) (offset : Nat) :
    replayFrom offset rest = .error (.zeroLength offset) := by
  unfold replayFrom
  split <;> simp_all

theorem replayFrom_bytes_append {entries : List LogEntry} (small : ∀ entry ∈ entries, entry.Small)
    (offset : Nat) (rest : Bytes) :
    replayFrom offset (bytes entries ++ rest) =
      (replayFrom (offset + (bytes entries).length) rest).map fun (more, length) =>
        (entries ++ more, length) := by
  induction entries generalizing offset with
  | nil => rcases h : replayFrom offset rest with _ | ⟨_, _⟩ <;> simp [h, Except.map]
  | cons entry others ih =>
    have hentry := small entry List.mem_cons_self
    rw [bytes_cons, List.append_assoc, replayFrom_encode_append hentry,
      ih fun other h => small other (List.mem_cons_of_mem _ h), List.length_append, Nat.add_assoc]
    rcases replayFrom (offset + (entry.encode.length + (bytes others).length)) rest <;> rfl

/-- What a replay finds is written in the log from its start on, up to a torn tail. -/
theorem bytes_of_replayFrom {offset length : Nat} {rest : Bytes} {entries : List LogEntry}
    (h : replayFrom offset rest = .ok (entries, length)) :
    (∀ entry ∈ entries, entry.Small) ∧ length = offset + (bytes entries).length ∧
      ∃ tail, rest = bytes entries ++ tail ∧ Torn tail := by
  fun_induction replayFrom offset rest generalizing entries length with
  | case1 offset rest hfront =>
    cases h
    exact ⟨by simp, rfl, rest, rfl, torn_iff_front.2 (.inl hfront)⟩
  | case2 offset rest hfront =>
    cases h
    exact ⟨by simp, rfl, rest, rfl, torn_iff_front.2 (.inr hfront)⟩
  | case3 => cases h
  | case4 => cases h
  | case5 => cases h
  | case6 offset rest size hfront entry hdecode others total hothers ih =>
    cases h
    obtain ⟨hsmall, rfl, tail, htail, torn⟩ := ih hothers
    obtain ⟨hencode, hentry⟩ := LogEntry.eq_encode_of_decode hdecode
    have hsize : entry.encode.length = size := by
      rw [← hencode, List.length_take_of_le (front_entry hfront).2]
    refine ⟨List.forall_mem_cons.2 ⟨hentry, hsmall⟩, ?_, tail, ?_, torn⟩
    · rw [bytes_cons, List.length_append, hsize, Nat.add_assoc]
    · rw [bytes_cons, List.append_assoc, ← htail, ← hencode, List.take_append_drop]

/-- A replay finds these entries just if the log is how they are written, with a torn tail after them. -/
theorem replay_eq_ok_iff {log : Bytes} {entries : List LogEntry} {length : Nat} :
    replay log = .ok (entries, length) ↔
      (∀ entry ∈ entries, entry.Small) ∧ length = (bytes entries).length ∧
        ∃ tail, log = bytes entries ++ tail ∧ Torn tail := by
  constructor
  · intro h
    obtain ⟨small, hlength, written⟩ := bytes_of_replayFrom h
    exact ⟨small, by rw [hlength, Nat.zero_add], written⟩
  · rintro ⟨small, rfl, tail, rfl, torn⟩
    rw [replay, replayFrom_bytes_append small, replayFrom_of_stopped (torn_iff_front.1 torn)]
    simp [Except.map]

end Log

/-! ## Parts of an entry -/

namespace LogEntry

/-- The first four bytes of an entry tell its length as far as four bytes can. -/
theorem take_four_encode (entry : LogEntry) :
    entry.encode.take 4 = Word.toLittleEndian (UInt32.ofNat entry.encode.length) := by
  have hfour : (Word.toLittleEndian (UInt32.ofNat (entry.body.length + frameSize))).length = 4 :=
    Word.length_toLittleEndian _
  rw [length_encode, encode_eq, checked, List.append_assoc, List.take_left' hfour]

theorem length_encode_recordPut (place : RecordId) (slot : Slot) :
    (recordPut place slot).encode.length = slot.content.length + 30 := by
  have h₂ : Word.width Int16 = 2 := rfl
  have h₄ : Word.width Int32 = 4 := rfl
  have h₄' : Word.width UInt32 = 4 := rfl
  have h₈ : Word.width Int64 = 8 := rfl
  simp only [length_encode, frameSize, body, identityField, Slot.field, countedBytes,
    List.cons_append, List.length_cons, List.length_append, Word.length_toLittleEndian, h₂, h₄, h₄', h₈]
  omega

theorem small_recordRemoved (place : RecordId) : (recordRemoved place).Small := by
  have hlength : (recordRemoved place).encode.length = 19 := by
    rw [length_encode, body, List.length_cons, identityField, List.length_append,
      Word.length_toLittleEndian, Word.length_toLittleEndian]
    rfl
  rw [Small, hlength]
  decide

/-- Four bytes cannot tell a length of `2 ^ 32`: it looks like none. -/
theorem zeros_isPrefix_of_length {entry : LogEntry} (h : entry.encode.length = 2 ^ 32) :
    [0, 0, 0, 0] <+: entry.encode := by
  have hfour := take_four_encode entry
  rw [h] at hfour
  have hzeros : entry.encode.take 4 = [0, 0, 0, 0] := hfour.trans (by decide)
  rw [← hzeros]
  exact List.take_prefix 4 _

end LogEntry

/-! ## Journals -/

theorem Store.ofJournal_of_error {journal : Journal} {error : Error} (h : journal.replay = .error error)
    (settings : Settings) (victims : Nat → Nat) :
    ofJournal settings victims journal = (.error error, journal) := by
  rw [ofJournal, h]

namespace Journal

variable {journal : Journal}

/-- The log is damaged: it is not read back, and a store that is opened over it leaves it as it was. -/
def Damaged (journal : Journal) : Prop :=
  ∃ damage, journal.replay = .error (.damaged damage) ∧
    ∀ settings victims,
      Store.ofJournal settings victims journal = (.error (.damaged damage), journal)

theorem damaged_of_error {bytes : Bytes} (holds : journal.medium.Holds bytes) {damage : Damage}
    (h : Log.replay bytes = .error damage) : journal.Damaged :=
  have hreplay := replay_of_error holds h
  ⟨damage, hreplay, Store.ofJournal_of_error hreplay⟩

theorem replay_of_torn {entries : List LogEntry} (small : ∀ entry ∈ entries, entry.Small)
    {tail : Bytes} (torn : Log.Torn tail) (holds : journal.medium.Holds (Log.bytes entries ++ tail)) :
    ∃ medium, journal.replay = .ok (entries, { journal with medium }) ∧
      medium.Holds (Log.bytes entries) := by
  have hreplay := Log.replay_eq_ok_iff.2 ⟨small, rfl, tail, rfl, torn⟩
  obtain ⟨medium, hjournal, hmedium⟩ := replay_of_ok holds hreplay
    (by rw [List.length_append]; exact Nat.le_add_right ..)
  exact ⟨medium, hjournal, by rwa [List.take_left' rfl] at hmedium⟩

/-- An entry that is appended to a log without a torn end is read back after the others. -/
theorem replay_of_append {entries : List LogEntry} (small : ∀ entry ∈ entries, entry.Small)
    (holds : journal.medium.Holds (Log.bytes entries)) {entry : LogEntry} (fits : entry.Small)
    {offset : Nat} {later : Journal} (h : journal.append entry = (.ok offset, later)) :
    later.replay = .ok (entries ++ [entry], later) := by
  have hsmall : ∀ each ∈ entries ++ [entry], each.Small :=
    List.forall_mem_append.2 ⟨small, List.forall_mem_singleton.2 fits⟩
  refine replay_of_holds_bytes hsmall ?_
  rw [(append_ok h).1, Log.bytes_append, Log.bytes_cons, Log.bytes_nil, List.append_nil]
  exact holds.append entry.encode

/-- Whatever a log holds, replaying it ends in one of two ways. Either the log is damaged and stays as it
was, or it is the bytes of entries with a torn tail after them; these entries are read back, and the log
is cut to their bytes. And entries that are followed by a part of one more are read back, the first time
and again, and with them the entry that is appended next. -/
theorem replay_exact {bytes : Bytes} (holds : journal.medium.Holds bytes) :
    (journal.Damaged ∨
      ∃ entries tail medium, bytes = Log.bytes entries ++ tail ∧ Log.Torn tail ∧
        journal.replay = .ok (entries, { journal with medium }) ∧
        medium.Holds (Log.bytes entries)) ∧
    ∀ (entries : List LogEntry) (further : LogEntry) (part : Bytes),
      (∀ entry ∈ entries, entry.Small) → further.Small →
      part <+: further.encode → part ≠ further.encode → bytes = Log.bytes entries ++ part →
      ∃ medium, let replayed : Journal := { journal with medium }
        journal.replay = .ok (entries, replayed) ∧ replayed.replay = .ok (entries, replayed) ∧
        ∀ entry offset later, entry.Small → replayed.append entry = (.ok offset, later) →
          later.replay = .ok (entries ++ [entry], later) := by
  constructor
  · cases hreplay : Log.replay bytes with
    | error damage => exact .inl (damaged_of_error holds hreplay)
    | ok found =>
      obtain ⟨small, -, tail, rfl, torn⟩ := Log.replay_eq_ok_iff.1 hreplay
      obtain ⟨medium, hjournal, hmedium⟩ := replay_of_torn small torn holds
      exact .inr ⟨found.1, tail, medium, rfl, torn, hjournal, hmedium⟩
  · rintro entries further part small fits starts short rfl
    obtain ⟨medium, hjournal, hmedium⟩ :=
      replay_of_torn small (Log.torn_of_isPrefix fits starts short) holds
    refine ⟨medium, hjournal, replay_of_holds_bytes small hmedium, ?_⟩
    intro entry offset later fits happend
    exact replay_of_append small hmedium fits happend

/-- Seven bytes of an entry follow a whole one, which is read back twice, and then with the entry that is
written over the torn end. -/
theorem replay_exact_of_removals :
    let removed (position : Int64) : LogEntry := .recordRemoved ⟨2, position⟩
    let journal : Journal :=
      { medium := .file (.ofFile (Log.bytes [removed 0] ++ (removed 1).encode.take 7)),
        syncOnWrite := true }
    ∃ replayed offset later, journal.replay = .ok ([removed 0], replayed) ∧
      replayed.replay = .ok ([removed 0], replayed) ∧
      replayed.append (removed 2) = (.ok offset, later) ∧
      later.replay = .ok ([removed 0, removed 2], later) := by
  intro removed journal
  have small (position : Int64) : (removed position).Small :=
    LogEntry.small_recordRemoved ⟨2, position⟩
  have hpart : (removed 1).encode.take 7 ≠ (removed 1).encode := by decide +kernel
  have holds : journal.medium.Holds (Log.bytes [removed 0] ++ (removed 1).encode.take 7) :=
    Medium.holds_file _
  obtain ⟨medium, hfirst, hagain, hnext⟩ := (replay_exact holds).2 [removed 0] (removed 1) _
    (List.forall_mem_singleton.2 (small 0)) (small 1) (List.take_prefix 7 _) hpart rfl
  have hsyncs : ({ journal with medium } : Journal).SyncsHold := Faults.fate_nil false
  obtain ⟨offset, later, happend⟩ := append_of_taken_of_syncsHold rfl hsyncs (removed 2)
  exact ⟨_, offset, later, hfirst, hagain, happend, hnext _ _ _ (small 2) happend⟩

theorem replay_of_zeros {further : LogEntry} (h : further.encode.length = 2 ^ 32) :
    [0, 0, 0, 0] <+: further.encode ∧ [0, 0, 0, 0] ≠ further.encode ∧
      ({ medium := .memory ⟨Log.bytes [] ++ [0, 0, 0, 0]⟩, syncOnWrite := false } : Journal).replay =
        .error (.damaged (.zeroLength 0)) := by
  refine ⟨LogEntry.zeros_isPrefix_of_length h, ?_, ?_⟩
  · intro hwhole
    rw [← hwhole] at h
    exact absurd h (by decide)
  · exact replay_of_error (Medium.holds_memory _) (Log.replayFrom_of_zero (by decide) 0)

/-- Of an entry of just `2 ^ 32` bytes the first four tell no length, so a log that holds these four is
taken for damaged. -/
theorem replay_of_part_of_long_entry :
    let further : LogEntry := .recordPut ⟨0, 0⟩ ⟨0, 0, .document, List.replicate (2 ^ 32 - 30) 0⟩
    let part : Bytes := [0, 0, 0, 0]
    part <+: further.encode ∧ part ≠ further.encode ∧
      ({ medium := .memory ⟨Log.bytes [] ++ part⟩, syncOnWrite := false } : Journal).replay =
        .error (.damaged (.zeroLength 0)) :=
  replay_of_zeros ((LogEntry.length_encode_recordPut _ _).trans
    (congrArg (· + 30) List.length_replicate))

end Journal

end RecordBase
