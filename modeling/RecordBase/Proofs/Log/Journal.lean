import RecordBase.Log.Journal

/-!
# What a journal makes of a request

A medium holds some bytes as its log if these are all it has and its handle knows so
(`Medium.Holds`). What happens to the requests to come is read off `Faults.fate`.

* `Medium.append_append`, `Medium.bytes_append_eq_iff`: what a handle appends stands where it knew the
  end of the log, in one piece, and changes nothing just if it stood there already;
* `append_error`, `append_ok`: while no sync fails, an append that fails was refused and wrote
  nothing, and one that succeeds leaves the entry's bytes at the end of the log;
* `Willing.append`: a journal that neither refuses an entry nor fails to sync stays so.
-/

namespace RecordBase

/-! ## Media -/

/-- A medium whose log, also for its handle, is just these bytes. -/
structure Medium.Holds (medium : Medium) (bytes : Bytes) : Prop where
  bytes_eq : medium.bytes = bytes
  size_eq : medium.size = bytes.length

namespace Medium

theorem holds_memory (bytes : Bytes) : (memory ⟨bytes⟩).Holds bytes := ⟨rfl, rfl⟩

theorem holds_file (bytes : Bytes) : (file (.ofFile bytes)).Holds bytes := ⟨rfl, rfl⟩

variable {medium : Medium} {bytes : Bytes}

theorem Holds.readAll (h : medium.Holds bytes) : medium.readAll = .ok bytes := by
  simp [Medium.readAll, h.bytes_eq, h.size_eq]

theorem overwrite_length (file data : Bytes) : overwrite file file.length data = file ++ data := by
  simp [overwrite]

theorem size_append (medium : Medium) (data : Bytes) :
    (medium.append data).2.size = medium.size + data.length := by
  cases medium with
  | memory log => simp [Medium.append, MemoryLog.append, Medium.size]
  | file log => cases data <;> simp [Medium.append, FileLog.append, Medium.size]

theorem Holds.append (h : medium.Holds bytes) (data : Bytes) :
    (medium.append data).2.Holds (bytes ++ data) := by
  obtain ⟨hb, hs⟩ := h
  cases medium with
  | memory log =>
    simp only [Medium.bytes] at hb
    exact ⟨by simp [Medium.append, MemoryLog.append, Medium.bytes, hb],
      by simp [Medium.append, MemoryLog.append, Medium.size, hb]⟩
  | file log =>
    obtain ⟨content, length⟩ := log
    simp only [Medium.bytes] at hb
    simp only [Medium.size] at hs
    subst hb hs
    cases data with
    | nil => exact ⟨by simp [Medium.append, FileLog.append, Medium.bytes],
        by simp [Medium.append, FileLog.append, Medium.size]⟩
    | cons first rest =>
      exact ⟨by simp [Medium.append, FileLog.append, Medium.bytes, overwrite_length],
        by simp [Medium.append, FileLog.append, Medium.size]⟩

theorem Holds.truncate (h : medium.Holds bytes) {size : Nat} (hsize : size ≤ bytes.length) :
    ∃ shorter, medium.truncate size = .ok shorter ∧ shorter.Holds (bytes.take size) := by
  obtain ⟨hb, hs⟩ := h
  cases medium with
  | memory log =>
    simp only [Medium.bytes] at hb
    refine ⟨.memory ⟨bytes.take size⟩, ?_, holds_memory _⟩
    simp only [Medium.truncate, MemoryLog.truncate, hb, if_neg (Nat.not_lt.2 hsize)]
    rfl
  | file log =>
    simp only [Medium.bytes] at hb
    simp only [Medium.size] at hs
    refine ⟨.file ⟨bytes.take size, size⟩, ?_, rfl, by simp [Medium.size, hsize]⟩
    simp only [Medium.truncate, FileLog.truncate, hb, hs, if_neg (Nat.not_lt.2 hsize)]
    rfl

/-! ### What is appended, wherever the handle puts it -/

theorem overwrite_overwrite (file : Bytes) (offset : Nat) (data more : Bytes) :
    overwrite (overwrite file offset data) (offset + data.length) more =
      overwrite file offset (data ++ more) := by
  have hfront : (file.take offset ++ List.replicate (offset - file.length) 0).length = offset := by
    rw [List.length_append, List.length_take, List.length_replicate]
    omega
  simp only [overwrite]
  generalize file.take offset ++ List.replicate (offset - file.length) 0 = front at hfront ⊢
  have hsize : (front ++ data).length = offset + data.length := by
    rw [List.length_append, hfront]
  have hgap : offset + data.length - (front ++ data ++ file.drop (offset + data.length)).length = 0 := by
    rw [List.length_append, hsize]
    omega
  rw [hgap, List.take_left' hsize, ← hsize, List.drop_append, List.drop_of_length_le (by omega)]
  simp [List.append_assoc, Nat.add_assoc, hfront]

theorem append_nil (medium : Medium) : (medium.append []).2 = medium := by
  cases medium with
  | memory log => simp [append, MemoryLog.append]
  | file log => rfl

theorem append_append (medium : Medium) (data more : Bytes) :
    ((medium.append data).2.append more).2 = (medium.append (data ++ more)).2 := by
  cases medium with
  | memory log => simp [append, MemoryLog.append]
  | file log =>
    cases data with
    | nil => rfl
    | cons first rest =>
      cases more with
      | nil => rw [append_nil, List.append_nil]
      | cons next others =>
        simp only [append, FileLog.append, List.isEmpty_cons, Bool.false_eq_true, if_false,
          List.cons_append]
        rw [overwrite_overwrite]
        simp [Nat.add_assoc]
        omega

/-- A handle that knows all of a file writes at its end. -/
theorem append_ofFile (log data : Bytes) :
    ((file (.ofFile log)).append data).2 = file (.ofFile (log ++ data)) := by
  cases data <;> simp [append, FileLog.append, FileLog.ofFile, overwrite_length]

/-- What is appended stands where the handle knew the end of the log. -/
theorem slice_append (medium : Medium) (data : Bytes) :
    ((medium.append data).2.bytes.drop medium.size).take data.length = data := by
  cases medium with
  | memory log => simp [append, MemoryLog.append, bytes, size]
  | file log =>
    cases data with
    | nil => simp
    | cons first rest =>
      have hfront : (log.bytes.take log.length ++
          List.replicate (log.length - log.bytes.length) 0).length = log.length := by
        rw [List.length_append, List.length_take, List.length_replicate]
        omega
      show ((overwrite log.bytes log.length (first :: rest)).drop log.length).take _ = _
      rw [overwrite, List.append_assoc (_ ++ _), List.drop_left' hfront, List.take_left' rfl]

/-- Appending leaves the bytes as they are just if what is appended stands there already. -/
theorem bytes_append_eq_iff (medium : Medium) (data : Bytes) :
    (medium.append data).2.bytes = medium.bytes ↔
      (medium.bytes.drop medium.size).take data.length = data := by
  constructor
  · intro h
    have := medium.slice_append data
    rwa [h] at this
  · intro h
    cases medium with
    | memory log =>
      have hdata : data = [] := by simpa [bytes, size] using h.symm
      rw [hdata, append_nil]
    | file log =>
      cases data with
      | nil => rfl
      | cons first rest =>
        show overwrite log.bytes log.length (first :: rest) = log.bytes
        have hlength := congrArg List.length h
        simp only [bytes, size, List.length_take, List.length_drop, List.length_cons] at hlength
        have hgap : log.length - log.bytes.length = 0 := by omega
        rw [overwrite, hgap, List.replicate_zero, List.append_nil]
        generalize (first :: rest).length = length at h ⊢
        rw [← h, List.append_assoc, ← List.drop_drop]
        exact (congrArg _ (List.take_append_drop ..)).trans (List.take_append_drop ..)

end Medium

/-! ## Faults -/

namespace Faults

/-- Whether the request that comes after `n` others fails. -/
def fate (last : Bool) : Faults → Nat → Bool
  | faults, 0 => (faults.next last).1
  | faults, n + 1 => fate last (faults.next last).2 n

@[simp] theorem fate_nil (last : Bool) (n : Nat) : fate last [] n = last := by
  induction n with
  | zero => rfl
  | succ n ih => exact ih

end Faults

/-! ## Appending -/

namespace Journal

/-- No sync to come fails. -/
def SyncsHold (journal : Journal) : Prop :=
  ∀ n, journal.syncFaults.fate journal.syncFails n = false

/-- The medium refuses no append to come. -/
def Accepts (journal : Journal) : Prop := ∀ n, journal.refusals.fate false n = false

/-- The medium refuses none of so many appends to come. -/
def Takes (journal : Journal) (count : Nat) : Prop :=
  ∀ n < count, journal.refusals.fate false n = false

/-- No append to come fails. -/
structure Willing (journal : Journal) : Prop where
  accepts : journal.Accepts
  syncsHold : journal.SyncsHold

/-- What no request changes, and what holds of the syncs to come if it held before. -/
structure Follows (before after : Journal) : Prop where
  syncOnWrite : after.syncOnWrite = before.syncOnWrite
  flushFails : after.flushFails = before.flushFails
  syncsHold : before.SyncsHold → after.SyncsHold

theorem Follows.refl (journal : Journal) : journal.Follows journal := ⟨rfl, rfl, id⟩

theorem Follows.trans {a b c : Journal} (h₁ : a.Follows b) (h₂ : b.Follows c) : a.Follows c :=
  ⟨h₂.syncOnWrite.trans h₁.syncOnWrite, h₂.flushFails.trans h₁.flushFails,
    fun h => h₂.syncsHold (h₁.syncsHold h)⟩

variable {journal after : Journal} {entry : LogEntry}

theorem sync_follows (journal : Journal) : journal.Follows journal.sync.2 :=
  ⟨rfl, rfl, fun h n => h (n + 1)⟩

theorem sync_of_syncsHold (h : journal.SyncsHold) : journal.sync.1 = .ok () := by
  have := h 0
  simp only [Faults.fate] at this
  simp [sync, obey, this]

theorem syncAfterWrite_spec (journal : Journal) :
    journal.Follows journal.syncAfterWrite.2 ∧
      journal.syncAfterWrite.2.medium = journal.medium ∧
      journal.syncAfterWrite.2.refusals = journal.refusals ∧
      (journal.SyncsHold → journal.syncAfterWrite.1 = .ok ()) := by
  unfold syncAfterWrite
  split
  · exact ⟨sync_follows journal, rfl, rfl, sync_of_syncsHold⟩
  · exact ⟨.refl journal, rfl, rfl, fun _ => rfl⟩

/-- The journal once it has asked its medium whether it takes an append. -/
def asked (journal : Journal) : Journal :=
  { journal with refusals := (journal.refusals.next false).2 }

/-- The journal once an entry has been written. -/
def written (journal : Journal) (entry : LogEntry) : Journal :=
  { journal.asked with medium := (journal.medium.append entry.encode).2 }

theorem follows_written : journal.Follows (journal.written entry) := ⟨rfl, rfl, id⟩

theorem append_of_refused (h : journal.refusals.fate false 0 = true) :
    journal.append entry = (.error refusal, journal.asked) := by
  simp only [Faults.fate] at h
  simp [append, asked, h]

theorem append_of_taken (h : journal.refusals.fate false 0 = false) :
    journal.append entry =
      ((journal.written entry).syncAfterWrite.1.map fun () => journal.medium.size,
        (journal.written entry).syncAfterWrite.2) := by
  simp only [Faults.fate] at h
  have hsize : (journal.medium.append entry.encode).1 = journal.medium.size := by
    cases journal.medium <;> rfl
  have hw : ({ journal.asked with medium := (journal.medium.append entry.encode).2 } : Journal) =
      journal.written entry := rfl
  simp only [asked] at hw
  simp only [append, h, hsize, hw, Bool.false_eq_true, if_false]
  rcases (journal.written entry).syncAfterWrite with ⟨_ | _, _⟩ <;> rfl

theorem append_follows (journal : Journal) (entry : LogEntry) :
    journal.Follows (journal.append entry).2 := by
  cases h : journal.refusals.fate false 0 with
  | true =>
    rw [append_of_refused h]
    exact ⟨rfl, rfl, id⟩
  | false =>
    rw [append_of_taken h]
    exact follows_written.trans (syncAfterWrite_spec (journal.written entry)).1

theorem refusals_append (journal : Journal) (entry : LogEntry) :
    (journal.append entry).2.refusals = (journal.refusals.next false).2 := by
  cases h : journal.refusals.fate false 0 with
  | true =>
    rw [append_of_refused h]
    rfl
  | false =>
    rw [append_of_taken h]
    exact (syncAfterWrite_spec (journal.written entry)).2.2.1

/-- An append fails only with the failure of a medium that refuses a request. -/
theorem error_append {error : Error} (h : journal.append entry = (.error error, after)) :
    error = refusal := by
  cases hf : journal.refusals.fate false 0 with
  | true =>
    rw [append_of_refused hf] at h
    cases h
    rfl
  | false =>
    rw [append_of_taken hf] at h
    have hsync := congrArg Prod.fst h
    unfold syncAfterWrite at hsync
    split at hsync
    · simp only [sync, obey] at hsync
      split at hsync <;> cases hsync
      rfl
    · cases hsync

/-- The medium takes the next append, and the sync after it fails. -/
def LosesSync (journal : Journal) : Prop :=
  journal.refusals.fate false 0 = false ∧ journal.syncOnWrite = true ∧
    journal.syncFaults.fate journal.syncFails 0 = true

instance (journal : Journal) : Decidable journal.LosesSync :=
  inferInstanceAs (Decidable (_ ∧ _))

theorem SyncsHold.not_losesSync (h : journal.SyncsHold) : ¬ journal.LosesSync := fun loses =>
  Bool.false_ne_true ((h 0).symm.trans loses.2.2)

/-- An append whose sync does not fail fails only if the medium refuses it, and then writes nothing. -/
theorem append_error_of_not_losesSync {error : Error} (kept : ¬ journal.LosesSync)
    (h : journal.append entry = (.error error, after)) :
    error = refusal ∧ after.medium = journal.medium ∧ journal.refusals.fate false 0 = true := by
  cases hf : journal.refusals.fate false 0 with
  | true =>
    rw [append_of_refused hf] at h
    cases h
    exact ⟨rfl, rfl, rfl⟩
  | false =>
    have hs : (journal.written entry).syncAfterWrite.1 = .ok () := by
      unfold syncAfterWrite
      split
      · rename_i hsync
        have hholds : journal.syncFaults.fate journal.syncFails 0 = false :=
          Bool.eq_false_iff.2 fun hfails => kept ⟨hf, hsync, hfails⟩
        exact congrArg obey hholds
      · rfl
    rw [append_of_taken hf, hs] at h
    cases h

/-- While no sync fails, an append fails only if the medium refuses it, and then writes nothing. -/
theorem append_error {error : Error} (hsync : journal.SyncsHold)
    (h : journal.append entry = (.error error, after)) :
    error = refusal ∧ after.medium = journal.medium ∧ journal.refusals.fate false 0 = true :=
  append_error_of_not_losesSync hsync.not_losesSync h

/-- An append that succeeds leaves the entry at the end of the log. -/
theorem append_ok {offset : Nat} (h : journal.append entry = (.ok offset, after)) :
    after.medium = (journal.medium.append entry.encode).2 ∧
      journal.refusals.fate false 0 = false := by
  cases hf : journal.refusals.fate false 0 with
  | true =>
    rw [append_of_refused hf] at h
    cases h
  | false =>
    rw [append_of_taken hf] at h
    have hm := (syncAfterWrite_spec (journal.written entry)).2.1
    rw [congrArg Prod.snd h] at hm
    exact ⟨hm, rfl⟩

/-- An append leaves the log as it was and fails, or writes the entry, also if it fails then. -/
theorem medium_append (journal : Journal) (entry : LogEntry) :
    (∃ error, (journal.append entry).1 = .error error) ∧
        (journal.append entry).2.medium = journal.medium ∨
      (journal.append entry).2.medium = (journal.medium.append entry.encode).2 := by
  cases hfate : journal.refusals.fate false 0 with
  | true =>
    rw [append_of_refused hfate]
    exact .inl ⟨⟨refusal, rfl⟩, rfl⟩
  | false =>
    rw [append_of_taken hfate]
    exact .inr (syncAfterWrite_spec (journal.written entry)).2.1

theorem append_of_taken_of_syncsHold (hf : journal.refusals.fate false 0 = false)
    (hsync : journal.SyncsHold) (entry : LogEntry) :
    ∃ offset after, journal.append entry = (.ok offset, after) := by
  have hs := (syncAfterWrite_spec (journal.written entry)).2.2.2 hsync
  exact ⟨journal.medium.size, _, by rw [append_of_taken hf, hs]; rfl⟩

theorem Accepts.append (h : journal.Accepts) (entry : LogEntry) :
    (journal.append entry).2.Accepts := fun n => by
  rw [refusals_append]
  exact h (n + 1)

theorem Accepts.takes (h : journal.Accepts) (count : Nat) : journal.Takes count := fun n _ => h n

theorem Takes.of_le {count fewer : Nat} (h : journal.Takes count) (hle : fewer ≤ count) :
    journal.Takes fewer :=
  fun n hn => h n (Nat.lt_of_lt_of_le hn hle)

theorem Takes.append {count : Nat} (h : journal.Takes (count + 1)) (entry : LogEntry) :
    (journal.append entry).2.Takes count := fun n hn => by
  rw [refusals_append]
  exact h (n + 1) (Nat.succ_lt_succ hn)

/-- A medium that refuses nothing has the entry, whatever its sync does. -/
theorem Accepts.medium_append (h : journal.Accepts) (entry : LogEntry) :
    (journal.append entry).2.medium = (journal.medium.append entry.encode).2 := by
  rw [append_of_taken (h 0)]
  exact (syncAfterWrite_spec (journal.written entry)).2.1

theorem Willing.append (h : journal.Willing) (entry : LogEntry) :
    (journal.append entry).2.Willing :=
  ⟨h.accepts.append entry, (append_follows journal entry).syncsHold h.syncsHold⟩

end Journal

end RecordBase
