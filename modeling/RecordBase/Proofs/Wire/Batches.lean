import RecordBase.Proofs.Wire.Canonical
import RecordBase.Proofs.Wire.Passing

/-!
# Batches, entry by entry

The entries of a batch are taken by calls for the next one, as many as the caller likes (`BatchReader.pulls`),
and at any point the rest can be skipped.

* `BatchReader.pulls_of_entries`: calls find the entries that were written, and then nothing;
* `BatchReader.pulls_restores`: entries that were found before the end are written as the bytes that were
  taken;
* `BatchReader.pulls_results`: whatever the bytes are, calls find entries, then at most one failure, then
  nothing;
* `batches_cross_the_wire`: what was written is what is read, and the other way round.
-/

namespace RecordBase.Wire

namespace BatchReader

/-- The results of so many calls for the next entry. -/
def pulls (calls : Nat) (reader : BatchReader) (source : Source) :
    List (Option (Except WireError BatchEntry)) × BatchReader × Source :=
  match calls with
  | 0 => ([], reader, source)
  | calls + 1 =>
    let (result, reader, source) := reader.next source
    let (results, reader, source) := pulls calls reader source
    (result :: results, reader, source)

/-- The results of calls that find some entries. -/
def found (entries : List BatchEntry) : List (Option (Except WireError BatchEntry)) :=
  entries.map fun entry => some (.ok entry)

/-- The result of a call that fails, if one does. -/
def failed (failure : Option WireError) : List (Option (Except WireError BatchEntry)) :=
  failure.toList.map fun error => some (.error error)

section Pulls

variable {reader later : BatchReader} {source middle : Source} {calls : Nat}

theorem consumed_advance : reader.advance.consumed = reader.consumed + 1 := rfl

theorem pulls_succ {result : Option (Except WireError BatchEntry)}
    (h : reader.next source = (result, later, middle)) :
    reader.pulls (calls + 1) source =
      (result :: (later.pulls calls middle).1, (later.pulls calls middle).2) := by
  rw [pulls, h]

theorem next_of_ended (h : reader.remaining = 0) : reader.next source = (none, reader.finish, source) :=
  if_pos h

/-- Where nothing is left to be read, calls find nothing. -/
theorem pulls_of_ended (h : reader.remaining = 0) :
    ∃ last, reader.pulls calls source = (List.replicate calls none, last, source) ∧
      last.remaining = 0 ∧ last.consumed = reader.consumed := by
  induction calls generalizing reader with
  | zero => exact ⟨reader, rfl, h, rfl⟩
  | succ calls ih =>
    obtain ⟨last, hpulls, hlast, hconsumed⟩ := @ih reader.finish rfl
    refine ⟨last, ?_, hlast, hconsumed⟩
    rw [pulls_succ (next_of_ended h), hpulls]
    rfl

/-- A call finds nothing, an entry, or a failure. -/
theorem next_cases (reader : BatchReader) (source : Source) :
    (reader.remaining = 0 ∧ reader.next source = (none, reader.finish, source)) ∨
      (∃ count entry after, reader.remaining = count + 1 ∧ Source.entry source = (.ok entry, after) ∧
        reader.next source = (some (.ok entry), reader.advance, after)) ∨
      ∃ count error after, reader.remaining = count + 1 ∧
        reader.next source = (some (.error error), reader.finish, after) := by
  cases hremaining : reader.remaining with
  | zero => exact .inl ⟨rfl, next_of_ended hremaining⟩
  | succ count =>
    rcases hentry : Source.entry source with ⟨error | entry, after⟩
    · exact .inr (.inr ⟨count, error, after, rfl, next_of_failure hremaining hentry⟩)
    · exact .inr (.inl ⟨count, entry, after, rfl, rfl, next_of_entry hremaining hentry⟩)

end Pulls

/-- Calls find the entries that were written, in their order, and nothing after the last one. -/
theorem pulls_of_entries {entries : List BatchEntry} {reader : BatchReader} {source : Source}
    (complete : ∀ entry ∈ entries, entry.IsComplete)
    (within : AllWithin source.limit (entries.flatMap entryFields))
    (left : reader.remaining = entries.length)
    (front : encode (entries.flatMap entryFields) <+: source.pending) (calls : Nat) :
    ∃ last after, reader.pulls calls source =
        (found (entries.take calls) ++ List.replicate (calls - entries.length) none, last, after) ∧
      last.remaining = entries.length - calls ∧
      last.consumed = reader.consumed + min calls entries.length ∧
      source.Took ((entries.take calls).flatMap entryFields) after := by
  induction calls generalizing entries reader source with
  | zero =>
    rw [Nat.zero_sub, Nat.sub_zero, Nat.zero_min]
    exact ⟨reader, source, rfl, left, rfl, .refl source⟩
  | succ calls ih =>
    cases entries with
    | nil =>
      obtain ⟨last, hpulls, hlast, hconsumed⟩ := @pulls_of_ended reader source (calls + 1) left
      refine ⟨last, source, hpulls, ?_, hconsumed, .refl source⟩
      rw [hlast, List.length_nil, Nat.zero_sub]
    | cons entry rest =>
      rw [List.flatMap_cons] at within front
      obtain ⟨hentry, hrest⟩ := within.append
      obtain ⟨more, hmore⟩ := front
      rw [encode_append, List.append_assoc] at hmore
      obtain ⟨middle, hread, past⟩ := Source.reads_entry (complete entry List.mem_cons_self) hentry
        source rfl ⟨_, hmore⟩
      obtain ⟨last, after, hpulls, hlast, hconsumed, took⟩ := @ih rest reader.advance middle
        (fun other hother => complete other (List.mem_cons_of_mem _ hother)) (past.limit ▸ hrest)
        (remaining_advance left) ⟨more, (past.pending_eq hmore.symm).symm⟩
      refine ⟨last, after, ?_, ?_, ?_, ?_⟩
      · rw [pulls_succ (next_of_entry left hread), hpulls, List.take_succ_cons, List.length_cons,
          Nat.add_sub_add_right]
        rfl
      · rw [hlast, List.length_cons, Nat.add_sub_add_right]
      · rw [hconsumed, List.length_cons, consumed_advance]
        omega
      · exact Source.Took.trans past took

/-- Entries that calls find before they find nothing are written as the bytes that the calls have taken. -/
theorem pulls_restores {entries : List BatchEntry} {reader : BatchReader} {source : Source}
    (h : (reader.pulls (entries.length + 1) source).1 = found entries ++ [none]) :
    reader.remaining = entries.length ∧
      source.Restored (entries.flatMap entryFields) (reader.pulls (entries.length + 1) source).2.2 := by
  induction entries generalizing reader source with
  | nil =>
    rcases next_cases reader source with ⟨hended, hnext⟩ | ⟨_, entry, after, -, -, hnext⟩ |
      ⟨_, error, after, -, hnext⟩
    · rw [pulls_succ hnext]
      exact ⟨hended, .refl source, nofun⟩
    · rw [pulls_succ hnext] at h
      cases h
    · rw [pulls_succ hnext] at h
      cases h
  | cons entry rest ih =>
    rcases next_cases reader source with ⟨-, hnext⟩ | ⟨count, first, after, hremaining, hread, hnext⟩ |
      ⟨_, error, after, -, hnext⟩
    · rw [pulls_succ hnext] at h
      cases (List.cons.inj h).1
    · rw [List.length_cons, pulls_succ hnext] at h ⊢
      obtain ⟨hfirst, hrest⟩ := List.cons.inj h
      cases hfirst
      obtain ⟨hcount, restored⟩ := ih hrest
      rw [remaining_advance hremaining] at hcount
      exact ⟨hcount ▸ hremaining, (Source.restores_entry hread).trans restored⟩
    · rw [pulls_succ hnext] at h
      cases (List.cons.inj h).1

/-- Calls find entries, not more than are announced, then at most one failure, and then nothing. -/
theorem pulls_results (calls : Nat) (reader : BatchReader) (source : Source) :
    ∃ entries failure idle,
      (reader.pulls calls source).1 = found entries ++ failed failure ++ List.replicate idle none ∧
      entries.length + failure.toList.length ≤ reader.remaining ∧
      (reader.pulls calls source).2.1.consumed = reader.consumed + entries.length := by
  induction calls generalizing reader source with
  | zero => exact ⟨[], none, 0, rfl, Nat.zero_le _, rfl⟩
  | succ calls ih =>
    rcases next_cases reader source with ⟨hended, -⟩ | ⟨count, entry, after, hremaining, -, hnext⟩ |
      ⟨count, error, after, hremaining, hnext⟩
    · obtain ⟨last, hpulls, -, hconsumed⟩ := @pulls_of_ended reader source (calls + 1) hended
      rw [hpulls]
      exact ⟨[], none, calls + 1, rfl, Nat.zero_le _, hconsumed⟩
    · obtain ⟨entries, failure, idle, hresults, hbound, hconsumed⟩ := ih reader.advance after
      rw [pulls_succ hnext]
      refine ⟨entry :: entries, failure, idle, ?_, ?_, ?_⟩
      · rw [hresults]
        rfl
      · rw [remaining_advance hremaining] at hbound
        rw [List.length_cons, hremaining]
        omega
      · rw [hconsumed, List.length_cons, consumed_advance]
        omega
    · obtain ⟨last, hpulls, -, hconsumed⟩ := @pulls_of_ended reader.finish after calls rfl
      rw [pulls_succ hnext, hpulls]
      exact ⟨[], some error, calls, rfl, by rw [hremaining]; exact Nat.succ_le_succ (Nat.zero_le count),
        hconsumed⟩

/-- Skipping reads the entries that are left. -/
theorem skip_of_entries {entries : List BatchEntry} {reader : BatchReader} {source : Source}
    (complete : ∀ entry ∈ entries, entry.IsComplete)
    (within : AllWithin source.limit (entries.flatMap entryFields))
    (left : reader.remaining = entries.length)
    (front : encode (entries.flatMap entryFields) <+: source.pending) :
    ∃ last after, reader.skip source = (.ok entries.length, last, after) ∧
      source.Took (entries.flatMap entryFields) after := by
  obtain ⟨last, after, htake, took⟩ := take_of_entries complete within (Nat.le_of_eq left.symm) front
  refine ⟨last, after, ?_, took⟩
  rw [skip, rest, left, htake]

end BatchReader

open BatchReader

theorem sendable_batchFields (number : Int32) {entries : List BatchEntry}
    (h : ∀ field ∈ entries.flatMap entryFields, field.Sendable) :
    ∀ field ∈ batchFields number entries, field.Sendable :=
  List.forall_mem_cons.2 ⟨Nat.zero_le _, List.forall_mem_cons.2 ⟨Nat.zero_le _, h⟩⟩

/-- Batches cross the wire in both directions. A batch whose fields are of a length that can be told is
written, and what was written is read by a reader that accepts these lengths, whatever follows it, as its
number, the number of its entries and these entries in their order, however many calls take them; after
the last one further calls find nothing, and what is left at any point can be skipped, which counts it and
leaves just what follows the batch. Conversely, where all calls up to the end find entries, the batch of
these entries is written as the bytes that were taken. And whatever the bytes are, calls find entries and at
most one failure, all in all not more than were announced, and nothing after that. -/
theorem batches_cross_the_wire :
    (∀ (number : Int32) (entries : List BatchEntry), entries.length < 2 ^ 31 →
      (∀ entry ∈ entries, entry.IsComplete) →
      (∀ field ∈ entries.flatMap entryFields, field.size < 2 ^ 31) →
      ∃ bytes, transmit (batchFields number entries) = .ok bytes ∧
        ∀ (source : Source) (tail : Bytes), source.pending = bytes ++ tail →
          AllWithin source.limit (entries.flatMap entryFields) →
          ∃ reader opened, start source = (.ok reader, opened) ∧
            reader.number = number ∧ reader.announced = entries.length ∧
            ∀ calls, ∃ partway rest last behind,
              reader.pulls calls opened =
                (found (entries.take calls) ++ List.replicate (calls - entries.length) none,
                  partway, rest) ∧
              partway.consumed = min calls entries.length ∧
              partway.skip rest = (.ok (entries.length - calls), last, behind) ∧
              behind.pending = tail) ∧
    ∀ (source : Source) (reader : BatchReader) (opened : Source),
      start source = (.ok reader, opened) →
      (∀ entries, (reader.pulls (entries.length + 1) opened).1 = found entries ++ [none] →
        ∃ bytes, transmit (batchFields reader.number entries) = .ok bytes ∧ entries.length < 2 ^ 31 ∧
          source.pending = bytes ++ (reader.pulls (entries.length + 1) opened).2.2.pending) ∧
      ∀ calls, ∃ entries failure idle,
        (reader.pulls calls opened).1 = found entries ++ failed failure ++ List.replicate idle none ∧
        entries.length + failure.toList.length ≤ reader.announced ∧
        (reader.pulls calls opened).2.1.consumed = entries.length := by
  refine ⟨fun number entries small complete told => ?_, fun source reader opened hstart => ?_⟩
  · have sendable := sendable_batchFields number fun field hfield => Nat.le_of_lt_succ (told field hfield)
    refine ⟨_, transmit_eq sendable, fun source tail hsource within => ?_⟩
    have hbatch : encode (batchFields number entries) =
        encode [.int number, countField entries.length] ++ encode (entries.flatMap entryFields) :=
      encode_append [.int number, countField entries.length] _
    rw [hbatch, List.append_assoc] at hsource
    obtain ⟨opened, hstart, past⟩ := reads_start number small source rfl ⟨_, hsource.symm⟩
    have hopened := past.pending_eq hsource
    refine ⟨_, opened, hstart, rfl, rfl, fun calls => ?_⟩
    obtain ⟨partway, rest, hpulls, hleft, hconsumed, took⟩ :=
      @pulls_of_entries entries { number, announced := entries.length } opened complete
        (past.limit.symm ▸ within) rfl ⟨tail, hopened.symm⟩ calls
    -- what the calls have left of the entries still comes first
    have hparts : entries.take calls ++ entries.drop calls = entries := List.take_append_drop calls entries
    rw [← hparts, List.flatMap_append, encode_append, List.append_assoc] at hopened
    have hrest := took.pending_eq hopened
    rw [← hparts, List.flatMap_append] at within
    obtain ⟨last, behind, hskip, further⟩ := skip_of_entries
      (fun entry hentry => complete entry (List.mem_of_mem_drop hentry))
      (took.limit.symm ▸ past.limit.symm ▸ within.append.2)
      (hleft.trans List.length_drop.symm) ⟨tail, hrest.symm⟩
    rw [List.length_drop] at hskip
    exact ⟨partway, rest, last, behind, hpulls, hconsumed.trans (Nat.zero_add _), hskip,
      further.pending_eq hrest⟩
  · obtain ⟨hconsumed, hgoing, hsmall, took⟩ := restores_start hstart
    have hremaining : reader.remaining = reader.announced := by
      rw [remaining, hgoing, hconsumed]
      rfl
    refine ⟨fun entries hentries => ?_, fun calls => ?_⟩
    · obtain ⟨hleft, further⟩ := pulls_restores hentries
      have hannounced : reader.announced = entries.length := hremaining.symm.trans hleft
      rw [hannounced] at hsmall took
      exact ⟨_, transmit_eq (sendable_batchFields _ further.sendable), hsmall,
        (took.trans further.took).pending⟩
    · obtain ⟨entries, failure, idle, hresults, hbound, hcount⟩ := pulls_results calls reader opened
      rw [hconsumed, Nat.zero_add] at hcount
      exact ⟨entries, failure, idle, hresults, hremaining ▸ hbound, hcount⟩

/-- A creation, an update and a deletion. -/
def threeEntries : List BatchEntry :=
  [.create (-1) (some "users") (some [65]), .update ⟨3, 0⟩ 4 (some [66]), .delete ⟨3, 1⟩ 0]

/-- Of three entries one is taken and two are skipped, which leaves the byte behind them. Taken all, they are
written as the bytes that were there. -/
theorem batches_cross_the_wire_of_three_entries :
    ∃ bytes reader opened, transmit (batchFields 42 threeEntries) = .ok bytes ∧
      start (Source.ofBytes (bytes ++ [127]) 16) = (.ok reader, opened) ∧ reader.number = 42 ∧
      (∃ partway rest last behind,
        reader.pulls 1 opened = (found [.create (-1) (some "users") (some [65])], partway, rest) ∧
        partway.consumed = 1 ∧ partway.skip rest = (.ok 2, last, behind) ∧ behind.pending = [127]) ∧
      (reader.pulls 4 opened).1 = found threeEntries ++ [none] ∧
      (reader.pulls 4 opened).2.1.consumed = 3 ∧
      bytes ++ [127] = bytes ++ (reader.pulls 4 opened).2.2.pending := by
  obtain ⟨written, read⟩ := batches_cross_the_wire
  obtain ⟨bytes, hbytes, reads⟩ := written 42 threeEntries (by decide)
    (by simp [threeEntries, BatchEntry.IsComplete]) (by decide)
  have within : AllWithin 16 (threeEntries.flatMap entryFields) := by decide
  have hpending : (Source.ofBytes (bytes ++ [127]) 16).pending = bytes ++ [127] := List.append_nil _
  obtain ⟨reader, opened, hstart, hnumber, -, delivers⟩ := reads _ [127] hpending within
  obtain ⟨last, after, -, -, hall, hconsumed, -, -⟩ := delivers 4
  have hfound : (reader.pulls 4 opened).1 = found threeEntries ++ [none] := congrArg Prod.fst hall
  obtain ⟨again, hagain, -, htook⟩ := (read _ reader opened hstart).1 threeEntries hfound
  rw [hnumber, hbytes] at hagain
  obtain rfl : bytes = again := Except.ok.inj hagain
  exact ⟨bytes, reader, opened, hbytes, hstart, hnumber, delivers 1, hfound, hall ▸ hconsumed,
    hpending.symm.trans htook⟩

end RecordBase.Wire
