import RecordBase.Proofs.Log.Journal
import RecordBase.Proofs.Log.RoundTrip

/-!
# Reading back a log that was cut

Of a log of small entries that was cut anywhere, exactly the entries before the cut are read back
(`Log.replay_take`), and replaying a journal leaves just their bytes (`Journal.replay_of_holds`).
-/

namespace RecordBase

namespace Log

/-- The bytes of a log with these entries. -/
def bytes (entries : List LogEntry) : Bytes := entries.flatMap LogEntry.encode

/-- The entries that lie within the first `size` bytes of their log. -/
def whole (size : Nat) : List LogEntry → List LogEntry
  | [] => []
  | entry :: rest =>
    if entry.encode.length ≤ size then entry :: whole (size - entry.encode.length) rest else []

@[simp] theorem bytes_nil : bytes [] = [] := rfl

@[simp] theorem bytes_cons (entry : LogEntry) (rest : List LogEntry) :
    bytes (entry :: rest) = entry.encode ++ bytes rest := by
  simp [bytes]

theorem bytes_append (front back : List LogEntry) : bytes (front ++ back) = bytes front ++ bytes back := by
  simp [bytes]

theorem whole_isPrefix (size : Nat) (entries : List LogEntry) : whole size entries <+: entries := by
  induction entries generalizing size with
  | nil => exact List.prefix_refl _
  | cons entry rest ih =>
    unfold whole
    split
    · exact (List.prefix_cons_inj entry).2 (ih _)
    · exact List.nil_prefix

/-- A longer part of a log has the entries of a shorter one before others. -/
theorem whole_mono {short long : Nat} (h : short ≤ long) (entries : List LogEntry) :
    whole short entries <+: whole long entries := by
  induction entries generalizing short long with
  | nil => exact List.prefix_rfl
  | cons entry rest ih =>
    unfold whole
    split
    · rw [if_pos (by omega)]
      exact (List.prefix_cons_inj entry).2 (ih (by omega))
    · exact List.nil_prefix

theorem whole_of_length_le {size : Nat} {entries : List LogEntry}
    (h : (bytes entries).length ≤ size) : whole size entries = entries := by
  induction entries generalizing size with
  | nil => rfl
  | cons entry rest ih =>
    rw [bytes_cons, List.length_append] at h
    rw [whole, if_pos (by omega), ih (by omega)]

theorem whole_append {size : Nat} {front : List LogEntry} (h : (bytes front).length ≤ size)
    (back : List LogEntry) :
    whole size (front ++ back) = front ++ whole (size - (bytes front).length) back := by
  induction front generalizing size with
  | nil => rfl
  | cons entry rest ih =>
    rw [bytes_cons, List.length_append] at h
    rw [List.cons_append, whole, if_pos (by omega), ih (by omega), bytes_cons, List.length_append,
      Nat.sub_sub, List.cons_append]

theorem front_encode_append {entry : LogEntry} (h : entry.Small) (rest : Bytes) :
    front (entry.encode ++ rest) = .entry entry.encode.length := by
  have hlen := LogEntry.length_encode entry
  have hframe : LogEntry.frameSize = 8 := rfl
  have hsize : 8 ≤ (entry.encode ++ rest).length := by
    rw [List.length_append]
    omega
  have hne : (entry.encode ++ rest).isEmpty = false := by
    rw [List.isEmpty_eq_false_iff]
    intro he
    simp [he] at hsize
  rw [front, hne]
  simp only [Bool.false_eq_true, if_false, LogEntry.announcedLength_encode_append h]
  rw [if_neg (by omega), if_neg (by omega), if_neg (by simp)]

theorem front_take_encode {entry : LogEntry} (h : entry.Small) {size : Nat}
    (hsize : size < entry.encode.length) :
    front (entry.encode.take size) = .finished ∨ front (entry.encode.take size) = .torn := by
  have hlen : (entry.encode.take size).length = size := by
    rw [List.length_take]
    omega
  unfold front
  split
  · exact .inl rfl
  · split
    · exact .inr rfl
    · rename_i hfour
      have hannounced : LogEntry.announcedLength (entry.encode.take size) = entry.encode.length := by
        have := LogEntry.announcedLength_encode_append h []
        rw [List.append_nil] at this
        rw [← this, LogEntry.announcedLength, LogEntry.announcedLength, List.take_take,
          Nat.min_eq_left (by omega)]
      simp only [hannounced, hlen, if_pos hsize]
      rw [if_neg (by omega)]
      exact .inr rfl

theorem replayFrom_of_stopped {rest : Bytes} (h : front rest = .finished ∨ front rest = .torn)
    (offset : Nat) : replayFrom offset rest = .ok ([], offset) := by
  unfold replayFrom
  split
  · rfl
  · rfl
  · rename_i hf
    simp [hf] at h
  · rename_i hf
    simp [hf] at h

theorem replayFrom_encode_append {entry : LogEntry} (h : entry.Small) (offset : Nat) (rest : Bytes) :
    replayFrom offset (entry.encode ++ rest) =
      (replayFrom (offset + entry.encode.length) rest).map fun (entries, length) =>
        (entry :: entries, length) := by
  have hfront := front_encode_append h rest
  rw [replayFrom]
  split
  · rename_i hf
    simp [hfront] at hf
  · rename_i hf
    simp [hfront] at hf
  · rename_i hf
    simp [hfront] at hf
  · rename_i size hf
    rw [hfront] at hf
    cases hf
    rw [List.take_left' rfl, List.drop_left' rfl, LogEntry.decode_encode h]
    simp only
    cases replayFrom (offset + entry.encode.length) rest <;> rfl

/-- Of a log that was cut, the entries before the cut are read back, and the log without its torn
end is just theirs. -/
theorem replayFrom_take {entries : List LogEntry} (small : ∀ entry ∈ entries, entry.Small)
    (offset size : Nat) :
    replayFrom offset ((bytes entries).take size) =
      .ok (whole size entries, offset + (bytes (whole size entries)).length) := by
  induction entries generalizing offset size with
  | nil =>
    rw [bytes_nil, List.take_nil]
    exact replayFrom_of_stopped (.inl rfl) offset
  | cons entry rest ih =>
    have hentry := small entry List.mem_cons_self
    have hrest := ih fun other h => small other (List.mem_cons_of_mem _ h)
    rw [bytes_cons, whole]
    split
    · rename_i hle
      rw [List.take_append, List.take_of_length_le hle, replayFrom_encode_append hentry, hrest]
      simp only [Except.map, bytes_cons, List.length_append, Nat.add_assoc]
    · rename_i hlt
      rw [List.take_append_of_le_length (by omega)]
      exact replayFrom_of_stopped (front_take_encode hentry (by omega)) offset

theorem replay_take {entries : List LogEntry} (small : ∀ entry ∈ entries, entry.Small) (size : Nat) :
    replay ((bytes entries).take size) =
      .ok (whole size entries, (bytes (whole size entries)).length) := by
  rw [replay, replayFrom_take small, Nat.zero_add]

/-- The entries before the cut are the start of the log. -/
theorem take_bytes_whole (entries : List LogEntry) (size : Nat) {cut : Nat}
    (h : cut = (bytes (whole size entries)).length) :
    ((bytes entries).take size).take cut = bytes (whole size entries) := by
  induction entries generalizing size cut with
  | nil => simp [h, whole]
  | cons entry rest ih =>
    unfold whole at h ⊢
    split at h
    · rename_i hle
      rw [if_pos hle]
      rw [bytes_cons, List.length_append] at h
      rw [bytes_cons, bytes_cons, List.take_append, List.take_of_length_le hle, List.take_append,
        List.take_of_length_le (by omega), ih _ (by omega)]
    · rename_i hlt
      rw [if_neg hlt]
      simp [h]

end Log

namespace Journal

variable {journal : Journal} {entries : List LogEntry}

theorem replay_eq {bytes : Bytes} (holds : journal.medium.Holds bytes) :
    journal.replay = ((Log.replay bytes).mapError .damaged).bind fun found =>
      if found.2 < bytes.length then
        ((journal.medium.truncate found.2).mapError .medium).bind fun medium =>
          .ok (found.1, { journal with medium })
      else .ok (found.1, journal) := by
  rw [replay, holds.readAll]
  rfl

/-- Replaying a journal finds what its log gives and cuts the log to that. -/
theorem replay_of_ok {bytes : Bytes} (holds : journal.medium.Holds bytes) {length : Nat}
    (h : Log.replay bytes = .ok (entries, length)) (within : length ≤ bytes.length) :
    ∃ medium, journal.replay = .ok (entries, { journal with medium }) ∧
      medium.Holds (bytes.take length) := by
  rw [replay_eq holds, h]
  show ∃ medium, (if length < bytes.length then _ else _) = _ ∧ _
  split
  · obtain ⟨shorter, htruncate, hholds⟩ := holds.truncate within
    exact ⟨shorter, by rw [htruncate]; rfl, hholds⟩
  · rename_i hnot
    refine ⟨journal.medium, rfl, ?_⟩
    rw [List.take_of_length_le (by omega)]
    exact holds

/-- Replaying a log that was cut reads the entries before the cut and leaves their bytes. -/
theorem replay_of_holds (small : ∀ entry ∈ entries, entry.Small) {size : Nat}
    (holds : journal.medium.Holds ((Log.bytes entries).take size)) :
    ∃ medium, journal.replay = .ok (Log.whole size entries, { journal with medium }) ∧
      medium.Holds (Log.bytes (Log.whole size entries)) := by
  have hcut := Log.take_bytes_whole entries size rfl
  have hle : (Log.bytes (Log.whole size entries)).length ≤ ((Log.bytes entries).take size).length := by
    rw [← hcut]
    exact List.length_take_le' _ _
  obtain ⟨medium, hreplay, hmedium⟩ := replay_of_ok holds (Log.replay_take small size) hle
  exact ⟨medium, hreplay, hcut ▸ hmedium⟩

/-- Replaying a log without a torn end reads all of it and changes nothing. -/
theorem replay_of_holds_bytes (small : ∀ entry ∈ entries, entry.Small)
    (holds : journal.medium.Holds (Log.bytes entries)) : journal.replay = .ok (entries, journal) := by
  have hreplay := Log.replay_take small (Log.bytes entries).length
  rw [List.take_length, Log.whole_of_length_le (Nat.le_refl _)] at hreplay
  rw [replay_eq holds, hreplay]
  exact if_neg (Nat.lt_irrefl _)

theorem replay_of_error {bytes : Bytes} (holds : journal.medium.Holds bytes) {damage : Damage}
    (h : Log.replay bytes = .error damage) : journal.replay = .error (.damaged damage) := by
  rw [replay_eq holds, h]
  rfl

end Journal

end RecordBase
