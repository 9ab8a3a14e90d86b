import RecordBase.Proofs.Wire.Source
import RecordBase.Wire.Request

/-!
# How far a request goes

The bytes behind the number of a request tell how far the request goes, whoever reads them and whatever
becomes of it: its kind lists the operands, a byte string tells its length, and a number tells how many
shorts or entries come behind it (`Opcode.extent`). A connection can end before a request does, and a
length or a number that makes no sense hides where the request ends.

* `Source.word_cases`, `Source.bytes_cases`, `Source.skipBytes_cases`: a reader that meets the end of a
  connection has met the end of a request that is cut.
-/

namespace RecordBase.Wire

/-- How far a request goes in the bytes that are left of a connection. -/
inductive Extent where
  /-- It is there, and other bytes may follow. -/
  | whole (rest : Bytes)
  /-- The connection ends before it does. -/
  | cut
  /-- A length, a number of items or a status makes no sense, so nobody can tell. -/
  | lost
  deriving DecidableEq, Repr

namespace Extent

/-- Some bytes come first. -/
def block (count : Nat) (next : Bytes → Extent) (bytes : Bytes) : Extent :=
  if bytes.length < count then cut else next (bytes.drop count)

/-- A word comes first. -/
def word (α : Type) [Word α] (next : α → Bytes → Extent) (bytes : Bytes) : Extent :=
  block (Word.width α) (next (Word.ofBigEndian (bytes.take (Word.width α)))) bytes

/-- A byte string comes first. -/
def counted (next : Bytes → Extent) : Bytes → Extent :=
  word Int32 fun length =>
    if length = nothing then next
    else if length < nothing then fun _ => lost
    else block length.toInt.toNat next

/-- Some items come first. -/
def repeated (count : Nat) (item : (Bytes → Extent) → Bytes → Extent) (next : Bytes → Extent) :
    Bytes → Extent :=
  match count with
  | 0 => next
  | count + 1 => item (repeated count item next)

/-- A short comes first. -/
def short (next : Bytes → Extent) : Bytes → Extent := word Int16 fun _ => next

/-- An entry of a batch comes first. -/
def entry (next : Bytes → Extent) : Bytes → Extent :=
  word UInt8 fun status =>
    if status = 1 then word Int16 fun _ => counted (counted next)
    else if status = 2 then
      word Int16 fun _ => word Int64 fun _ => word Int32 fun _ => counted next
    else if status = 3 then word Int16 fun _ => word Int64 fun _ => word Int32 fun _ => next
    else fun _ => lost

/-- Operands of some kinds come first. A number that is the last operand before some items tells how many
there are. -/
def operands : List OperandKind → (last : Int) → Bytes → Extent
  | [], _ => whole
  | .byte :: kinds, _ => word UInt8 fun value => operands kinds value.toNat
  | .short :: kinds, _ => word Int16 fun value => operands kinds value.toInt
  | .int :: kinds, _ => word Int32 fun value => operands kinds value.toInt
  | .long :: kinds, _ => word Int64 fun value => operands kinds value.toInt
  | .string :: kinds, last | .bytes :: kinds, last => counted (operands kinds last)
  | .shorts :: kinds, last =>
    if last < 0 then fun _ => lost else repeated last.toNat short (operands kinds last)
  | .entries :: kinds, last =>
    if last < 0 then fun _ => lost else repeated last.toNat entry (operands kinds last)

end Extent

/-- How far a request of some kind goes in the bytes behind its number. -/
def Opcode.extent (opcode : Opcode) (bytes : Bytes) : Extent :=
  .operands (opcode.operands.map Operand.kind) 0 bytes

/-- How far the next request of a connection goes, its number included. One of an unknown kind is over after
its number. -/
def Source.extent (source : Source) : Extent :=
  match source.pending with
  | [] => .cut
  | code :: rest =>
    match Opcode.ofCode? code with
    | some opcode => opcode.extent rest
    | none => .whole rest

/-! ## Readers at the end of a connection -/

/-- A reader meets the end of the connection and leaves nothing. -/
def Decoder.Ends {α : Type} (decoder : Decoder α) (source : Source) : Prop :=
  ∃ after, decoder source = (.error .closed, after) ∧ after.pending = []

theorem Decoder.Ends.bind {α β : Type} {decoder : Decoder α} {next : α → Decoder β} {source : Source}
    (h : decoder.Ends source) : (decoder >>= next).Ends source :=
  have ⟨after, hread, hpending⟩ := h
  ⟨after, bind_of_error hread, hpending⟩

namespace Source

variable {source after : Source} {count further : Nat}

theorem Past.pending_drop (past : source.Past (source.pending.take count) further after) :
    after.pending = source.pending.drop count :=
  past.pending_eq (List.take_append_drop count source.pending).symm

theorem pending_advance_all (source : Source) (buffered : Nat) :
    (source.advance source.pending.length buffered).pending = [] := by
  rw [pending_advance, List.drop_length]

theorem length_take_pending (h : ¬ source.pending.length < count) :
    (source.pending.take count).length = count :=
  List.length_take_of_le (Nat.not_lt.1 h)

/-- Bytes are taken if they are there. -/
theorem takeBytes_cases (count : Nat) (source : Source) :
    source.pending.length < count ∧ (takeBytes count).Ends source ∨
      ¬ source.pending.length < count ∧ ∃ after,
        takeBytes count source = (.ok (source.pending.take count), after) ∧
          source.Past (source.pending.take count) 0 after := by
  by_cases hshort : source.pending.length < count
  · exact .inl ⟨hshort, _, if_pos hshort, source.pending_advance_all 0⟩
  · obtain ⟨after, htaken, past⟩ :=
      takeBytes_of_pending (List.take_append_drop count source.pending).symm
    rw [length_take_pending hshort] at htaken
    exact .inr ⟨hshort, after, htaken, past⟩

/-- Bytes are dropped if they are there. -/
theorem dropBytes_cases (count : Nat) (source : Source) :
    source.pending.length < count ∧ (dropBytes count).Ends source ∨
      ¬ source.pending.length < count ∧ ∃ after,
        dropBytes count source = (.ok (), after) ∧
          source.Past (source.pending.take count) 0 after := by
  by_cases hshort : source.pending.length < count
  · exact .inl ⟨hshort, _, if_pos hshort, source.pending_advance_all 0⟩
  · obtain ⟨after, hdropped, past⟩ :=
      dropBytes_of_pending (List.take_append_drop count source.pending).symm
    rw [length_take_pending hshort] at hdropped
    exact .inr ⟨hshort, after, hdropped, past⟩

/-- What is owed is dropped if it is there. -/
theorem skipOwed_cases (source : Source) :
    source.pending.length < source.owed ∧ skipOwed.Ends source ∨
      ¬ source.pending.length < source.owed ∧ ∃ after, skipOwed source = (.ok source.owed, after) ∧
        after.taken = source.taken ∧ after.pending = source.pending.drop source.owed := by
  rcases dropBytes_cases source.owed { source with owed := 0 } with ⟨hshort, after, hdropped, hpending⟩ |
    ⟨hthere, after, hdropped, past⟩
  · exact .inl ⟨hshort, after, by rw [skipOwed, hdropped], hpending⟩
  · refine .inr ⟨hthere, after, by rw [skipOwed, hdropped], ?_, past.pending_drop⟩
    exact past.taken.trans Option.map_id'

section Words

variable {α : Type} [Word α]

/-- A word is taken if it is there. -/
theorem takeWord_cases (next : α → Bytes → Extent) (source : Source) :
    Extent.word α next source.pending = .cut ∧ (takeWord α).Ends source ∨
      ∃ value front after, takeWord α source = (.ok value, after) ∧ source.Past front 0 after ∧
        Extent.word α next source.pending = next value after.pending := by
  rcases takeBytes_cases (Word.width α) source with ⟨hshort, hends⟩ | ⟨hthere, after, htaken, past⟩
  · exact .inl ⟨if_pos hshort, hends.bind⟩
  · refine .inr ⟨_, _, after, Decoder.bind_of_ok htaken, past, ?_⟩
    rw [past.pending_drop]
    exact if_neg hthere

theorem word_cases (next : α → Bytes → Extent) (source : Source) :
    Extent.word α next source.pending = .cut ∧ (word α).Ends source ∨
      ∃ value front after, word α source = (.ok value, after) ∧ source.Past front 1 after ∧
        Extent.word α next source.pending = next value after.pending := by
  rcases takeWord_cases next source with ⟨hcut, hends⟩ | ⟨value, front, after, htaken, past, hnext⟩
  · exact .inl ⟨hcut, hends.bind⟩
  · exact .inr ⟨value, _, after.countField, Decoder.bind_of_ok htaken, past.trans (.countField after),
      hnext⟩

end Words

/-- The length of a byte string is taken if it is there and makes sense. -/
theorem takeLength_cases (next : Bytes → Extent) (source : Source) :
    Extent.counted next source.pending = .cut ∧ takeLength.Ends source ∨
      (Extent.counted next source.pending = .lost ∧ ∃ length after,
        takeLength source = (.error (.invalidLength length), after) ∧ after.taken = none ∧
          after.owed = source.owed) ∨
      ∃ length front after, takeLength source = (.ok length, after) ∧ source.Past front 0 after ∧
        Extent.counted next source.pending =
          (length.elim next fun length => Extent.block length next) after.pending := by
  unfold Extent.counted
  rcases @takeWord_cases Int32 _ _ source with ⟨hcut, hends⟩ | ⟨length, front, after, htaken, past, hnext⟩
  · exact .inl ⟨hcut, hends.bind⟩
  · rw [hnext]
    by_cases hnothing : length = nothing
    · rw [if_pos hnothing]
      exact .inr (.inr ⟨none, front, after, (Decoder.bind_of_ok htaken).trans
        (congrFun (if_pos hnothing) after), past, rfl⟩)
    · rw [if_neg hnothing]
      by_cases hsenseless : length < nothing
      · rw [if_pos hsenseless]
        exact .inr (.inl ⟨rfl, length, { after with taken := none }, (Decoder.bind_of_ok htaken).trans
          (congrFun ((if_neg hnothing).trans (if_pos hsenseless)) after), rfl, past.owed⟩)
      · rw [if_neg hsenseless]
        exact .inr (.inr ⟨some length.toInt.toNat, front, after, (Decoder.bind_of_ok htaken).trans
          (congrFun ((if_neg hnothing).trans (if_neg hsenseless)) after), past, rfl⟩)

/-- A byte string is dropped if it is there and its length makes sense. -/
theorem skipBytes_cases (next : Bytes → Extent) (source : Source) :
    Extent.counted next source.pending = .cut ∧ skipBytes.Ends source ∨
      (Extent.counted next source.pending = .lost ∧ ∃ length after,
        skipBytes source = (.error (.invalidLength length), after)) ∨
      ∃ after, skipBytes source = (.ok (), after) ∧
        Extent.counted next source.pending = next after.pending := by
  rcases takeLength_cases next source with ⟨hcut, hends⟩ | ⟨hlost, length, after, hlength, -, -⟩ |
    ⟨length, front, middle, hlength, -, hnext⟩
  · exact .inl ⟨hcut, hends.bind⟩
  · exact .inr (.inl ⟨hlost, length, after, Decoder.bind_of_error hlength⟩)
  · rw [hnext]
    cases length with
    | none => exact .inr (.inr ⟨middle.countField, Decoder.bind_of_ok hlength, rfl⟩)
    | some length =>
      rcases dropBytes_cases length middle with ⟨hshort, after, hdropped, hpending⟩ |
        ⟨hthere, after, hdropped, past⟩
      · exact .inl ⟨if_pos hshort, after,
          (Decoder.bind_of_ok hlength).trans (Decoder.bind_of_error hdropped), hpending⟩
      · refine .inr (.inr ⟨after.countField,
          (Decoder.bind_of_ok hlength).trans (Decoder.bind_of_ok hdropped), ?_⟩)
        exact (if_neg hthere).trans (congrArg next past.pending_drop.symm)

/-- A byte string is taken if it is there, its length makes sense and the limit allows it. One that is too
long is owed. -/
theorem bytes_cases (next : Bytes → Extent) (source : Source) :
    Extent.counted next source.pending = .cut ∧ bytes.Ends source ∨
      (Extent.counted next source.pending = .lost ∧ ∃ length after,
        bytes source = (.error (.invalidLength length), after) ∧ after.taken = none ∧
          after.owed = source.owed) ∨
      (∃ length error front middle,
        bytes source = (.error error, { middle with owed := length }.countField) ∧ error ≠ .closed ∧
          source.Past front 0 middle ∧
          Extent.counted next source.pending = Extent.block length next middle.pending) ∨
      ∃ value front after, bytes source = (.ok value, after) ∧ source.Past front 1 after ∧
        Extent.counted next source.pending = next after.pending := by
  rcases takeLength_cases next source with ⟨hcut, hends⟩ | ⟨hlost, length, after, hlength, htaken, howed⟩ |
    ⟨length, front, middle, hlength, past, hnext⟩
  · exact .inl ⟨hcut, hends.bind.bind⟩
  · exact .inr (.inl ⟨hlost, length, after, Decoder.bind_of_error (Decoder.bind_of_error hlength), htaken,
      howed⟩)
  · rw [hnext]
    cases length with
    | none =>
      have haccepted : takeAcceptedLength source = (.ok none, middle) := Decoder.bind_of_ok hlength
      exact .inr (.inr (.inr ⟨none, _, middle.countField, Decoder.bind_of_ok haccepted,
        past.trans (.countField middle), rfl⟩))
    | some length =>
      by_cases hlong : middle.limit < length
      · have hrefused : takeAcceptedLength source =
            (.error (.tooLong (Int32.ofNat length) (.ofNat middle.limit)),
              { middle with owed := length }.countField) :=
          (Decoder.bind_of_ok hlength).trans (if_pos hlong)
        exact .inr (.inr (.inl ⟨length, _, front, middle, Decoder.bind_of_error hrefused, nofun, past, rfl⟩))
      · have haccepted : takeAcceptedLength source = (.ok (some length), middle) :=
          (Decoder.bind_of_ok hlength).trans (if_neg hlong)
        rcases takeBytes_cases length middle with ⟨hshort, after, htaken, hpending⟩ |
          ⟨hthere, after, htaken, further⟩
        · exact .inl ⟨if_pos hshort, after,
            (Decoder.bind_of_ok haccepted).trans (Decoder.bind_of_error htaken), hpending⟩
        · refine .inr (.inr (.inr ⟨some (middle.pending.take length), _, after.countField,
            (Decoder.bind_of_ok haccepted).trans (Decoder.bind_of_ok htaken),
            (past.trans further).trans (.countField after), ?_⟩))
          exact (if_neg hthere).trans (congrArg next further.pending_drop.symm)

end Source

end RecordBase.Wire
