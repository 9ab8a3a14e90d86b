import RecordBase.Proofs.Checksum.Remainder
import RecordBase.Proofs.Log.Exact

/-!
# Damage of a log

The bytes of an entry and their checksum leave a fixed remainder, and bytes changed within four places
leave another, so they do not read as an entry (`LogEntry.decode_of_changed_window`).

Replaying takes the extent of an entry from its length, which it reads before any checksum. A changed
length that stays within the log does not pass: the bytes after it begin with the body of the entry that was
written, and with no other body (`LogEntry.eq_of_body_append`). But a length that was changed to reach
beyond the end of the log looks like an interrupted write. `Journal.replay_of_changed_octet`: a log
with one changed byte is found damaged, unless that byte makes the length of its entry reach beyond the
end; then this entry and all after it are dropped.
-/

namespace RecordBase

namespace LogEntry

variable {entry found : LogEntry}

/-! ## Entries -/

theorem foldl_update_encode (entry : LogEntry) :
    entry.encode.foldl Checksum.update 0xffffffff = Checksum.residue :=
  Checksum.foldl_update_checksum entry.checked

/-- What reads as an entry, and is how another is written but for four places next to one another, is
just that. -/
theorem eq_encode_of_window {bytes : Bytes} (start : Nat) (same : bytes.length = entry.encode.length)
    (alike : ∀ place, place < start ∨ start + 4 ≤ place → bytes[place]? = entry.encode[place]?)
    (h : decode bytes = .ok found) : bytes = entry.encode := by
  refine Checksum.eq_of_foldl_window same alike 0xffffffff ?_
  rw [(eq_encode_of_decode h).1, foldl_update_encode, foldl_update_encode]

/-- No damage of an entry within four bytes next to one another goes unnoticed, wherever they lie. -/
theorem decode_of_changed_window {bytes : Bytes} (start : Nat)
    (same : bytes.length = entry.encode.length)
    (alike : ∀ place, place < start ∨ start + 4 ≤ place → bytes[place]? = entry.encode[place]?)
    (differs : bytes ≠ entry.encode) : ∃ damage, decode bytes = .error damage := by
  cases hread : decode bytes with
  | error damage => exact ⟨damage, rfl⟩
  | ok found => exact absurd (eq_encode_of_window start same alike hread) differs

/-- Two bytes of the place and two of the checksum are overwritten. -/
theorem decode_of_changed_window_of_removal :
    let bytes := (recordRemoved ⟨2, 0⟩).encode
    ∃ damage, decode (bytes.take 13 ++ [1, 2, 3, 4] ++ bytes.drop 17) = .error damage := by
  intro bytes
  have hlength : (bytes.take 13 ++ [1, 2, 3, 4] ++ bytes.drop 17).length = bytes.length := by
    decide +kernel
  have hsize : bytes.length ≤ 19 := by decide +kernel
  have halike : ∀ place < 19, place < 13 ∨ 17 ≤ place →
      (bytes.take 13 ++ [1, 2, 3, 4] ++ bytes.drop 17)[place]? = bytes[place]? := by
    decide +kernel
  refine decode_of_changed_window 13 hlength ?_ (by decide +kernel)
  intro place outside
  rcases Nat.lt_or_ge place 19 with hinside | hbeyond
  · exact halike place hinside outside
  · have hnone : bytes[place]? = none := List.getElem?_eq_none (Nat.le_trans hsize hbeyond)
    exact (List.getElem?_eq_none (Nat.le_trans (Nat.le_of_eq hlength)
      (Nat.le_trans hsize hbeyond))).trans hnone.symm

/-- What begins with the body of an entry begins with no other body. -/
theorem eq_of_body_append (small : entry.Small) (fits : found.Small) {x y : Bytes}
    (h : found.body ++ x = entry.body ++ y) : found = entry := by
  rw [body_eq, body_eq, List.cons_append, List.cons_append] at h
  obtain ⟨hkind, hfields⟩ := List.cons.inj h
  have hfound := reads_fields fits x
  rw [hfields, hkind, reads_fields small y] at hfound
  cases hfound
  rfl

theorem drop_four_encode (entry : LogEntry) :
    entry.encode.drop 4 = entry.body ++ Word.toLittleEndian (Checksum.crc32 entry.checked) := by
  have hfour : (Word.toLittleEndian (UInt32.ofNat (entry.body.length + frameSize))).length = 4 :=
    Word.length_toLittleEndian _
  rw [encode_eq, checked, List.append_assoc, List.drop_left' hfour]

theorem four_le_length_encode (entry : LogEntry) : 4 ≤ entry.encode.length := by
  rw [length_encode, frameSize]
  omega

/-- An entry whose length was changed reads as an entry only if it was not changed: its body is still the
one that was written, and tells where it ends. -/
theorem eq_encode_of_drop_four (small : entry.Small) {changed more : Bytes} {size : Nat}
    (same : changed.length = entry.encode.length) (body : changed.drop 4 = entry.encode.drop 4)
    (within : size ≤ (changed ++ more).length)
    (h : decode ((changed ++ more).take size) = .ok found) : changed = entry.encode := by
  obtain ⟨hencode, fits⟩ := eq_encode_of_decode h
  have hfour := four_le_length_encode entry
  have hbodies : found.body ++ (Word.toLittleEndian (Checksum.crc32 found.checked) ++
      (changed ++ more).drop size) =
      entry.body ++ (Word.toLittleEndian (Checksum.crc32 entry.checked) ++ more) := by
    rw [← List.append_assoc, ← List.append_assoc, ← drop_four_encode, ← drop_four_encode, ← body,
      ← List.drop_append_of_le_length (four_le_length_encode found), ← hencode,
      List.take_append_drop, List.drop_append_of_le_length (same ▸ hfour)]
  rw [eq_of_body_append small fits hbodies] at hencode
  have hsize : size = changed.length := by
    rw [same, ← hencode, List.length_take_of_le within]
  rwa [hsize, List.take_left' rfl] at hencode

/-- An entry that kept its length, and of which at most four bytes next to one another were changed,
reads as an entry only if they were not. -/
theorem eq_encode_of_take_four (small : entry.Small) {changed more : Bytes} (start : Nat)
    (same : changed.length = entry.encode.length) (length : changed.take 4 = entry.encode.take 4)
    (alike : ∀ place, place < start ∨ start + 4 ≤ place → changed[place]? = entry.encode[place]?)
    (h : decode ((changed ++ more).take (announcedLength (changed ++ more))) = .ok found) :
    changed = entry.encode := by
  have hfour : 4 ≤ changed.length := same ▸ four_le_length_encode entry
  have hsize : announcedLength (changed ++ more) = changed.length := by
    rw [same, ← announcedLength_encode_append small [], List.append_nil, announcedLength,
      announcedLength, List.take_append_of_le_length hfour, length]
  rw [hsize, List.take_left' rfl] at h
  exact eq_encode_of_window start same alike h

/-- One changed byte of an entry is noticed also if the length that the entry then announces is another,
as long as it stays within the log. -/
theorem decode_of_changed_octet (small : entry.Small) {place : Nat}
    (within : place < entry.encode.length) {octet : UInt8} (differs : octet ≠ entry.encode[place])
    {more : Bytes} {size : Nat} (h : Log.front (entry.encode.set place octet ++ more) = .entry size) :
    ∃ damage, decode ((entry.encode.set place octet ++ more).take size) = .error damage := by
  have hlength : (entry.encode.set place octet).length = entry.encode.length := List.length_set
  have hunlike : entry.encode.set place octet ≠ entry.encode := fun hsame => by
    have hplace := List.getElem?_set_self (a := octet) within
    rw [hsame, List.getElem?_eq_getElem within, Option.some_inj] at hplace
    exact differs hplace.symm
  cases hread : decode ((entry.encode.set place octet ++ more).take size) with
  | error damage => exact ⟨damage, rfl⟩
  | ok found =>
    refine absurd ?_ hunlike
    rcases Nat.lt_or_ge place 4 with hprefix | hbeyond
    · exact eq_encode_of_drop_four small hlength (List.drop_set_of_lt hprefix) (Log.front_entry h).2
        hread
    · rw [Log.front_entry_eq h] at hread
      refine eq_encode_of_take_four small place hlength (List.take_set_of_le hbeyond)
        (fun other outside => ?_) hread
      rw [List.getElem?_set_ne (by omega)]

end LogEntry

/-! ## Logs -/

namespace Log

/-- Every byte of a log belongs to one of its entries. -/
theorem exists_entry_of_lt {entries : List LogEntry} {place : Nat}
    (h : place < (bytes entries).length) :
    ∃ front entry back, entries = front ++ entry :: back ∧ (bytes front).length ≤ place ∧
      place < (bytes (front ++ [entry])).length := by
  induction entries generalizing place with
  | nil => simp at h
  | cons first rest ih =>
    rw [bytes_cons, List.length_append] at h
    rcases Nat.lt_or_ge place first.encode.length with hfirst | hlater
    · exact ⟨[], first, rest, rfl, Nat.zero_le _, by simpa using hfirst⟩
    · have hrest : place - first.encode.length < (bytes rest).length := by omega
      obtain ⟨front, entry, back, rfl, hfrom, hto⟩ := ih hrest
      refine ⟨first :: front, entry, back, rfl, ?_, ?_⟩
      · rw [bytes_cons, List.length_append]
        omega
      · rw [List.cons_append, bytes_cons, List.length_append]
        omega

theorem replayFrom_of_undecoded {rest : Bytes} {size : Nat} {damage : Damage}
    (h : front rest = .entry size) (hread : LogEntry.decode (rest.take size) = .error damage)
    (offset : Nat) : replayFrom offset rest = .error damage := by
  unfold replayFrom
  split <;> rename_i hfront <;> rw [h] at hfront
  · cases hfront
  · cases hfront
  · cases hfront
  · cases hfront
    rw [hread]

/-- A log whose first entry has a changed byte looks torn there, or is damaged. -/
theorem replayFrom_of_changed_octet {entry : LogEntry} (small : entry.Small) {place : Nat}
    (within : place < entry.encode.length) {octet : UInt8} (differs : octet ≠ entry.encode[place])
    (more : Bytes) :
    let rest := entry.encode.set place octet ++ more
    if rest.length < LogEntry.announcedLength rest then Torn rest
    else ∀ offset, ∃ damage, replayFrom offset rest = .error damage := by
  intro rest
  have hfour : 4 ≤ rest.length := by
    rw [List.length_append, List.length_set]
    exact Nat.le_add_right_of_le (LogEntry.four_le_length_encode entry)
  split
  · rename_i hover
    exact .inr ⟨by omega, hover⟩
  · rename_i hwithin
    intro offset
    cases hfront : front rest with
    | finished =>
      have htorn := torn_iff_front.2 (.inl hfront)
      rcases htorn with h | ⟨-, h⟩ <;> omega
    | torn =>
      have htorn := torn_iff_front.2 (.inr hfront)
      rcases htorn with h | ⟨-, h⟩ <;> omega
    | zero => exact ⟨_, replayFrom_of_zero hfront offset⟩
    | entry size =>
      obtain ⟨damage, hread⟩ := LogEntry.decode_of_changed_octet small within differs hfront
      exact ⟨damage, replayFrom_of_undecoded hfront hread offset⟩

end Log

namespace Journal

variable {journal : Journal}

/-- Of a log with one changed byte, let `rest` be the part from the entry with that byte on. If the length
at its front reaches beyond its end, then replaying succeeds with only the entries before `rest` and
drops it; else the log is found damaged and left as it was. -/
theorem replay_of_changed_octet {entries : List LogEntry} (small : ∀ entry ∈ entries, entry.Small)
    {place : Nat} (within : place < (Log.bytes entries).length) {octet : UInt8}
    (differs : octet ≠ (Log.bytes entries)[place])
    (holds : journal.medium.Holds ((Log.bytes entries).set place octet)) :
    ∃ front entry back, entries = front ++ entry :: back ∧ (Log.bytes front).length ≤ place ∧
      place < (Log.bytes (front ++ [entry])).length ∧
      let rest := ((Log.bytes entries).set place octet).drop (Log.bytes front).length
      if rest.length < LogEntry.announcedLength rest then
        ∃ medium, journal.replay = .ok (front, { journal with medium }) ∧
          medium.Holds (Log.bytes front)
      else journal.Damaged := by
  obtain ⟨front, entry, back, rfl, hfrom, hto⟩ := Log.exists_entry_of_lt within
  refine ⟨front, entry, back, rfl, hfrom, hto, ?_⟩
  have hfront : ∀ each ∈ front, each.Small := fun each h => small each (List.mem_append_left _ h)
  have hentry : entry.Small := small entry (by simp)
  rw [Log.bytes_append, List.length_append, Log.bytes_cons, Log.bytes_nil, List.append_nil] at hto
  -- The place of the byte within its entry.
  obtain ⟨inner, rfl⟩ := Nat.exists_eq_add_of_le hfrom
  have hinner : inner < entry.encode.length := by omega
  have hset : (Log.bytes (front ++ entry :: back)).set ((Log.bytes front).length + inner) octet =
      Log.bytes front ++ (entry.encode.set inner octet ++ Log.bytes back) := by
    rw [Log.bytes_append, Log.bytes_cons, List.set_append_right _ _ (Nat.le_add_right ..),
      Nat.add_sub_cancel_left, List.set_append_left _ _ hinner]
  have hdiffers : octet ≠ entry.encode[inner] := by
    simpa [Log.bytes_append, List.getElem_append_right, List.getElem_append_left hinner] using differs
  rw [hset] at holds ⊢
  rw [List.drop_left' rfl]
  have hcases := Log.replayFrom_of_changed_octet hentry hinner hdiffers (Log.bytes back)
  intro rest
  split <;> rename_i hover
  · rw [if_pos hover] at hcases
    exact replay_of_torn hfront hcases holds
  · rw [if_neg hover] at hcases
    obtain ⟨damage, hdamage⟩ := hcases (0 + (Log.bytes front).length)
    have hreplay : Log.replay (Log.bytes front ++ rest) = .error damage := by
      rw [Log.replay, Log.replayFrom_bytes_append hfront, hdamage]
      rfl
    exact damaged_of_error holds hreplay

/-- A changed byte of a place is found. -/
theorem replay_of_changed_octet_of_place :
    let entries : List LogEntry := [.recordRemoved ⟨2, 0⟩]
    let journal : Journal :=
      { medium := .memory ⟨(Log.bytes entries).set 10 1⟩, syncOnWrite := false }
    journal.Damaged := by
  intro entries journal
  have small : ∀ entry ∈ entries, entry.Small :=
    List.forall_mem_singleton.2 (LogEntry.small_recordRemoved _)
  have holds : journal.medium.Holds ((Log.bytes entries).set 10 1) := Medium.holds_memory _
  obtain ⟨front, entry, back, hentries, -, -, hcases⟩ :=
    replay_of_changed_octet small (by decide +kernel) (by decide +kernel) holds
  have hfront : front = [] := by
    cases front with
    | nil => rfl
    | cons first rest => simp [entries] at hentries
  subst hfront
  rw [if_neg (by decide +kernel)] at hcases
  exact hcases

/-- With its first byte changed to the greatest one, a log of two whole entries is taken for a torn end:
replaying succeeds with no entry and drops both. -/
theorem replay_drops_whole_entries :
    let entries : List LogEntry := [.recordRemoved ⟨2, 0⟩, .recordRemoved ⟨2, 1⟩]
    let journal : Journal :=
      { medium := .memory ⟨(Log.bytes entries).set 0 0xff⟩, syncOnWrite := false }
    (∀ entry ∈ entries, entry.Small) ∧ (Log.bytes entries)[0]? = some 19 ∧
      ∃ medium, journal.replay = .ok ([], { journal with medium }) ∧ medium.Holds [] := by
  intro entries journal
  refine ⟨by simp [entries, LogEntry.small_recordRemoved], by decide +kernel, ?_⟩
  have htorn : Log.Torn ((Log.bytes entries).set 0 0xff) := by decide +kernel
  exact replay_of_torn (by simp) htorn (Medium.holds_memory _)

end Journal

end RecordBase
