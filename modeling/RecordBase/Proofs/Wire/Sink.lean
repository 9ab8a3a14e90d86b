import RecordBase.Wire.Channel

/-!
# What a sink takes

Whatever is sent stands, in order, behind what was sent and what waits: `Sink.written`. A transport
that works takes everything, and one that is broken a part from the front on, of which nothing goes out
(`Sink.Takes`).

Of the fields of a message those are sent that stand before the first that is too long to be sent
(`sendable`); where there is one, or where the message is not all that was to be sent, sending fails
(`Message.told`).

* `Channel.send_cases`: what sending a message comes to on any transport;
* `Channel.send_of_works`: what it comes to on one that works.
-/

namespace RecordBase.Wire

namespace Sink

variable {sink middle after : Sink} {pieces : List Bytes} {piece bytes further : Bytes}

/-- What the transport has taken and what waits in the buffer. -/
def written (sink : Sink) : Bytes := sink.sent ++ sink.buffer

/-- The same transport, which has taken nothing more if it is broken. -/
structure Keeps (sink after : Sink) : Prop where
  broken : after.broken = sink.broken
  sent : sink.broken = true → after.sent = sink.sent

theorem Keeps.refl (sink : Sink) : sink.Keeps sink := ⟨rfl, fun _ => rfl⟩

theorem Keeps.trans (first : sink.Keeps middle) (second : middle.Keeps after) : sink.Keeps after where
  broken := second.broken.trans first.broken
  sent h := (second.sent (first.broken.trans h)).trans (first.sent h)

/-- What is sent stands in order; a transport that is broken loses the end. -/
def Extends (sink : Sink) (bytes : Bytes) (after : Sink) : Prop :=
  ∃ front, front <+: bytes ∧ after.written = sink.written ++ front

/-- What sending some bytes comes to: they stand behind what was written, or the transport is broken and
a part of them does. -/
inductive Takes (sink : Sink) (bytes : Bytes) : Except WireError Unit × Sink → Prop
  | all {after : Sink} (keeps : sink.Keeps after) (written : after.written = sink.written ++ bytes) :
      Takes sink bytes (.ok (), after)
  | part {after : Sink} (keeps : sink.Keeps after) (broken : sink.broken = true)
      (front : sink.Extends bytes after) : Takes sink bytes (.error .closed, after)

theorem Takes.keeps {result : Except WireError Unit × Sink} (takes : sink.Takes bytes result) :
    sink.Keeps result.2 := by
  cases takes <;> assumption

theorem Takes.front {result : Except WireError Unit × Sink} (takes : sink.Takes bytes result) :
    sink.Extends bytes result.2 := by
  cases takes with
  | all _ written => exact ⟨bytes, List.prefix_rfl, written⟩
  | part _ _ front => exact front

/-- Nothing but the end of the transport is in the way of bytes. -/
theorem Takes.eq_closed {error : WireError} (takes : sink.Takes bytes (.error error, after)) :
    error = .closed := by
  cases takes
  rfl

/-- Nothing of some bytes is taken. -/
theorem Takes.none (broken : sink.broken = true) : sink.Takes bytes (.error .closed, sink) :=
  .part (.refl sink) broken ⟨[], List.nil_prefix, (List.append_nil _).symm⟩

/-- Of some bytes that are followed by others a part is taken. -/
theorem Takes.append (further : Bytes) (takes : sink.Takes bytes (.error .closed, after)) :
    sink.Takes (bytes ++ further) (.error .closed, after) := by
  obtain _ | ⟨keeps, broken, front, hfront, hwritten⟩ := takes
  exact .part keeps broken ⟨front, hfront.trans (List.prefix_append _ _), hwritten⟩

/-- Some bytes are sent behind others that were taken. -/
theorem Takes.trans {result : Except WireError Unit × Sink} (first : sink.Takes bytes (.ok (), middle))
    (second : middle.Takes further result) : sink.Takes (bytes ++ further) result := by
  obtain ⟨keeps, hwritten⟩ | _ := first
  cases second with
  | all later hlater =>
    refine .all (keeps.trans later) ?_
    rw [hlater, hwritten, List.append_assoc]
  | part later broken hfront =>
    obtain ⟨front, hprefix, hlater⟩ := hfront
    refine .part (keeps.trans later) (keeps.broken.symm.trans broken) ⟨bytes ++ front, ?_, ?_⟩
    · exact (List.prefix_append_right_inj bytes).2 hprefix
    · rw [hlater, hwritten, List.append_assoc]

/-! ## Pieces -/

theorem takes_flush (sink : Sink) : sink.Takes [] sink.flush := by
  unfold flush
  split
  · rename_i hstuck
    exact .none (Bool.and_eq_true_iff.1 hstuck).1
  · rename_i hgoes
    refine .all ⟨rfl, fun broken => ?_⟩ rfl
    rw [broken, Bool.true_and, Bool.not_eq_true, Bool.not_eq_false', List.isEmpty_iff] at hgoes
    rw [hgoes, List.append_nil]

/-- A flush that does not fail leaves nothing waiting. -/
theorem flush_of_ok (h : sink.flush = (.ok (), after)) :
    after.sent = sink.written ∧ after.buffer = [] := by
  unfold flush at h
  split at h <;> cases h
  exact ⟨rfl, rfl⟩

/-- A flush at a transport that works. -/
theorem flush_of_works (works : sink.broken = false) :
    sink.flush = (.ok (), { sink with sent := sink.written, buffer := [] }) := by
  simp [flush, works, written]

/-- A broken transport does not take what waits. -/
theorem flush_of_broken (broken : sink.broken = true) (waits : sink.buffer ≠ []) :
    sink.flush = (.error .closed, sink) := by
  simp [flush, broken, waits]

/-- A piece that fits stands behind what waits, and any other goes out over an empty buffer. -/
theorem takes_place (room : sink.buffer = [] ∨ piece.length < bufferSize) :
    sink.Takes piece (sink.place piece) := by
  unfold place
  split
  · exact .all ⟨rfl, fun _ => rfl⟩ (List.append_assoc _ _ _).symm
  · rename_i hlarge
    have hempty := room.resolve_right hlarge
    cases hbroken : sink.broken with
    | true => exact .none hbroken
    | false =>
      refine .all ⟨hbroken.symm, fun h => absurd (hbroken.symm.trans h) nofun⟩ ?_
      simp [written, hempty]

theorem takes_write (sink : Sink) (piece : Bytes) : sink.Takes piece (sink.write piece) := by
  unfold write
  split
  · rename_i hroom
    refine takes_place ?_
    by_cases hempty : sink.buffer = []
    · exact .inl hempty
    · have := List.length_pos_iff.2 hempty
      exact .inr (by omega)
  · have hflushed := sink.takes_flush
    rcases hflush : sink.flush with ⟨error | _, flushed⟩ <;> rw [hflush] at hflushed
    · obtain rfl := hflushed.eq_closed
      exact hflushed.append piece
    · exact hflushed.trans (takes_place (.inl (flush_of_ok hflush).2))

theorem takes_writeAll (sink : Sink) (pieces : List Bytes) :
    sink.Takes pieces.flatten (sink.writeAll pieces) := by
  induction pieces generalizing sink with
  | nil => exact .all (.refl sink) (List.append_nil _).symm
  | cons piece rest ih =>
    have hpiece := sink.takes_write piece
    rw [writeAll, List.flatten_cons]
    rcases hwrite : sink.write piece with ⟨error | _, middle⟩ <;> rw [hwrite] at hpiece
    · obtain rfl := hpiece.eq_closed
      exact hpiece.append rest.flatten
    · exact hpiece.trans (ih middle)

end Sink

/-! ## Fields -/

/-- A message can tell the length of a field. -/
def Field.Sendable (field : Field) : Prop := field.size ≤ greatest

instance : DecidablePred Field.Sendable := fun field =>
  inferInstanceAs (Decidable (field.size ≤ greatest))

/-- The failure of a field that is too long to be sent on a channel with a limit. -/
def untold (limit : Nat) : WireError := .tooLong Int32.maxValue (.ofNat limit)

/-- A field is sent as its bytes, or it is too long. -/
theorem Field.pieces_cases (limit : Nat) (field : Field) :
    (field.Sendable ∧ ∃ pieces, field.pieces limit = .ok pieces ∧ pieces.flatten = field.encode) ∨
      ¬ field.Sendable ∧ field.pieces limit = .error (untold limit) := by
  have hcounted : ∀ value : Option Bytes,
      ((value.getD []).length ≤ greatest ∧
        ∃ pieces, countedPieces limit value = .ok pieces ∧ pieces.flatten = counted value) ∨
      ¬ (value.getD []).length ≤ greatest ∧ countedPieces limit value = .error (untold limit) := by
    rintro (_ | value)
    · exact .inl ⟨Nat.zero_le _, _, rfl, List.append_nil _⟩
    · by_cases hlong : greatest < value.length
      · exact .inr ⟨Nat.not_le.2 hlong, if_pos hlong⟩
      · refine .inl ⟨Nat.le_of_not_lt hlong, _, if_neg hlong, ?_⟩
        rw [List.flatten_cons, List.flatten_singleton]
        rfl
  cases field with
  | bytes value => exact hcounted value
  | text value => exact hcounted (value.map Bytes.ofText)
  | _ => exact .inl ⟨Nat.zero_le _, _, rfl, List.append_nil _⟩

/-- The fields before the first that is too long to be sent. -/
def sendable (fields : List Field) : List Field := fields.takeWhile fun field => decide field.Sendable

/-- Whether some fields are all sent on a channel with a limit. -/
def told (limit : Nat) (fields : List Field) : Except WireError Unit :=
  if ∀ field ∈ fields, field.Sendable then .ok () else .error (untold limit)

theorem sendable_cons {field : Field} (h : field.Sendable) (rest : List Field) :
    sendable (field :: rest) = field :: sendable rest :=
  List.takeWhile_cons_of_pos (decide_eq_true h)

theorem sendable_of_all {fields : List Field} (h : ∀ field ∈ fields, field.Sendable) :
    sendable fields = fields := by
  induction fields with
  | nil => rfl
  | cons field rest ih =>
    obtain ⟨hfield, hrest⟩ := List.forall_mem_cons.1 h
    rw [sendable_cons hfield, ih hrest]

theorem told_of_all {limit : Nat} {fields : List Field} (h : ∀ field ∈ fields, field.Sendable) :
    told limit fields = .ok () :=
  if_pos h

theorem told_cons {field : Field} (h : field.Sendable) (limit : Nat) (rest : List Field) :
    told limit (field :: rest) = told limit rest := by
  simp only [told, List.forall_mem_cons, h, true_and]

/-- Of some fields those are sent that stand before the first that is too long. -/
theorem Sink.send_cases (limit : Nat) (sink : Sink) (fields : List Field) :
    ∃ result after, sink.Takes (encode (sendable fields)) (result, after) ∧
      sink.send limit fields = (do result; told limit fields, after) := by
  induction fields generalizing sink with
  | nil => exact ⟨.ok (), sink, .all (.refl sink) (List.append_nil _).symm, rfl⟩
  | cons field rest ih =>
    rcases field.pieces_cases limit with ⟨hsendable, pieces, hpieces, hflatten⟩ | ⟨hlong, hpieces⟩
    · have hfield := sink.takes_writeAll pieces
      rw [hflatten] at hfield
      rw [sendable_cons hsendable, told_cons hsendable]
      rcases hwritten : sink.writeAll pieces with ⟨error | _, middle⟩ <;> rw [hwritten] at hfield
      · obtain rfl := hfield.eq_closed
        refine ⟨.error .closed, middle, hfield.append _, ?_⟩
        simp only [send, hpieces, hwritten]
        rfl
      · obtain ⟨result, after, takes, hsend⟩ := ih middle
        refine ⟨result, after, hfield.trans takes, ?_⟩
        simp only [send, hpieces, hwritten, hsend]
    · refine ⟨.ok (), sink, ?_, ?_⟩
      · have hnone : sendable (field :: rest) = [] :=
          List.takeWhile_cons_of_neg (by simpa using hlong)
        rw [hnone]
        exact .all (.refl sink) (List.append_nil _).symm
      · have htold : told limit (field :: rest) = .error (untold limit) :=
          if_neg fun h => hlong (h field List.mem_cons_self)
        simp only [send, hpieces, htold]
        rfl

/-! ## Messages -/

/-- Whether a message is all sent on a channel with a limit, and is all that was to be sent. -/
def Message.told (limit : Nat) (message : Message) : Except WireError Unit := do
  Wire.told limit message.fields
  match message.refusal with
  | none => return ()
  | some error => throw error

namespace Channel

variable {channel : Channel} {message : Message}

/-- Sending a message comes to what the message tells, unless the transport is broken. -/
theorem send_cases (channel : Channel) (message : Message) :
    ∃ result sink, channel.sink.Takes (encode (sendable message.fields)) (result, sink) ∧
      channel.send message = (do result; message.told channel.source.limit, { channel with sink }) := by
  obtain ⟨result, sink, takes, hsend⟩ := channel.sink.send_cases channel.source.limit message.fields
  refine ⟨result, sink, takes, ?_⟩
  rw [send, hsend, Message.told]
  cases takes with
  | part => rfl
  | all =>
    cases told channel.source.limit message.fields with
    | error error => rfl
    | ok _ => cases message.refusal <;> rfl

/-- What sending a message comes to on a transport that works. -/
theorem send_of_works (works : channel.sink.broken = false) (message : Message) :
    ∃ sink, channel.send message = (message.told channel.source.limit, { channel with sink }) ∧
      sink.written = channel.sink.written ++ encode (sendable message.fields) ∧ sink.broken = false := by
  obtain ⟨result, sink, ⟨keeps, written⟩ | ⟨-, broken, -⟩, hsend⟩ := channel.send_cases message
  · exact ⟨sink, hsend, written, keeps.broken.trans works⟩
  · cases works.symm.trans broken

/-- A transport that works takes a message whose fields can all be sent. -/
theorem send_of_sendable (works : channel.sink.broken = false) {fields : List Field}
    (h : ∀ field ∈ fields, field.Sendable) :
    ∃ sink, channel.send { fields } = (.ok (), { channel with sink }) ∧
      sink.written = channel.sink.written ++ encode fields ∧ sink.broken = false := by
  obtain ⟨sink, hsend, hwritten⟩ := send_of_works works { fields }
  rw [sendable_of_all h] at hwritten
  have htold : ({ fields } : Message).told channel.source.limit = .ok () := by
    simp only [Message.told, told_of_all h]
    rfl
  exact ⟨sink, htold ▸ hsend, hwritten⟩

end Channel

end RecordBase.Wire
