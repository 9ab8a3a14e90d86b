import RecordBase.Proofs.Server.Boundary
import RecordBase.Proofs.Wire.Extent

/-!
# How dropping the rest of a request ends

Wherever the reading of a request has stopped, dropping its rest either succeeds, or meets the end of the
connection within the request, or meets a length that makes no sense (`Dropped`). This is told by how far
the request goes, and so does not depend on what the reader has accepted.

* `dropped_decode`: this is so after any request has been read or has failed to read.
-/

namespace RecordBase

open Wire

/-- How the rest of a request is dropped, given how far the request goes. -/
inductive Dropped (extent : Extent) : Except WireError Unit → Prop
  | all : Dropped extent (.ok ())
  | cut (h : extent = .cut) : Dropped extent (.error .closed)
  | lost (h : extent = .lost) (length : Int32) : Dropped extent (.error (.invalidLength length))

/-! ## Dropping operands -/

/-- Dropping the operands of a kind of request from some point on ends as the bytes tell. -/
def Skips (opcode : Opcode) (count : Nat) (next : Bytes → Extent) : Prop :=
  ∀ source, Dropped (next source.pending) (skipOperands (opcode.operands.drop count) source).1

theorem dropped_word {α : Type} [Word α] {rest : Decoder Unit} {next : α → Bytes → Extent}
    (h : ∀ value source, Dropped (next value source.pending) (rest source).1) (source : Source) :
    Dropped (Extent.word α next source.pending) ((Source.word α >>= fun _ => rest) source).1 := by
  rcases Source.word_cases next source with ⟨hcut, after, hread, -⟩ |
    ⟨value, front, after, hread, -, hnext⟩
  · rw [Decoder.bind_of_error hread]
    exact .cut hcut
  · rw [Decoder.bind_of_ok hread, hnext]
    exact h value after

theorem dropped_skipBytes {rest : Decoder Unit} {next : Bytes → Extent}
    (h : ∀ source, Dropped (next source.pending) (rest source).1) (source : Source) :
    Dropped (Extent.counted next source.pending) ((Source.skipBytes >>= fun _ => rest) source).1 := by
  rcases Source.skipBytes_cases next source with ⟨hcut, after, hskipped, -⟩ |
    ⟨hlost, length, after, hskipped⟩ | ⟨after, hskipped, hnext⟩
  · rw [Decoder.bind_of_error hskipped]
    exact .cut hcut
  · rw [Decoder.bind_of_error hskipped]
    exact .lost hlost length
  · rw [Decoder.bind_of_ok hskipped, hnext]
    exact h after

/-- Operands are dropped up to the first whose length their kind does not tell. -/
theorem dropped_skipOperands (operands : List Operand) (last : Int) (source : Source) :
    Dropped (Extent.operands (operands.map Operand.kind) last source.pending)
      (skipOperands operands source).1 := by
  induction operands generalizing last source with
  | nil => exact .all
  | cons operand rest ih =>
    obtain ⟨name, kind⟩ := operand
    cases kind with
    | byte | short | int | long => exact dropped_word (fun value => ih _) source
    | string | bytes => exact dropped_skipBytes (ih last) source
    | shorts | entries => exact .all

theorem skips_operands (opcode : Opcode) (count : Nat) (last : Int) :
    Skips opcode count (Extent.operands ((opcode.operands.drop count).map Operand.kind) last) :=
  dropped_skipOperands _ last

/-- Where no operands are dropped, nothing goes wrong. -/
theorem skips_of_done {opcode : Opcode} {count : Nat} {next : Bytes → Extent}
    (done : skipOperands (opcode.operands.drop count) = Pure.pure ()) : Skips opcode count next := by
  intro source
  rw [done]
  exact .all

theorem operands_nil_ne_lost (kinds : List OperandKind) : Extent.operands kinds 0 [] ≠ .lost := by
  induction kinds with
  | nil => exact nofun
  | cons kind rest ih =>
    cases kind with
    | shorts | entries => exact ih
    | _ => exact nofun

/-! ## Dropping the rest of a request -/

variable {opcode : Opcode} {extent : Extent} {count : Nat} {next : Bytes → Extent} {source : Source}

/-- Dropping goes on with the operands that were not taken when what is owed is there. -/
theorem dropped_skipRest (short : source.pending.length < source.owed → extent = .cut)
    (there : ¬ source.pending.length < source.owed → ∀ after : Source, after.taken = source.taken →
      after.pending = source.pending.drop source.owed →
      Dropped extent (skipOperands (unreadOperands opcode after) after).1) :
    Dropped extent (skipRest opcode source).1 := by
  rcases Source.skipOwed_cases source with ⟨hshort, after, hskipped, -⟩ |
    ⟨hthere, after, hskipped, htaken, hpending⟩
  · have hrest : skipRest opcode source = (.error .closed, after) := Decoder.bind_of_error hskipped
    rw [hrest]
    exact .cut (short hshort)
  · have hrest : skipRest opcode source = skipOperands (unreadOperands opcode after) after :=
      Decoder.bind_of_ok hskipped
    rw [hrest]
    exact there hthere after htaken hpending

/-- Where the operands that were taken have been counted, dropping ends as the bytes behind what is owed
tell. -/
theorem dropped_of_counted (htaken : source.taken = some count)
    (h : Extent.block source.owed next source.pending = extent) (skips : Skips opcode count next) :
    Dropped extent (skipRest opcode source).1 := by
  refine dropped_skipRest (fun hshort => h.symm.trans (if_pos hshort)) fun hthere after hafter hpending => ?_
  have hnext : next after.pending = extent := by
    rw [hpending, ← h]
    exact (if_neg hthere).symm
  simp only [unreadOperands, hafter, htaken]
  exact hnext ▸ skips after

/-- Where nobody can tell how far the request goes, nothing is dropped. -/
theorem dropped_of_lost (htaken : source.taken = none) (howed : source.owed = 0) :
    Dropped extent (skipRest opcode source).1 := by
  refine dropped_skipRest (fun hshort => ?_) fun _ after hafter _ => ?_
  · rw [howed] at hshort
    exact absurd hshort (Nat.not_lt_zero _)
  · simp only [unreadOperands, hafter, htaken]
    exact .all

/-- At the end of a connection what is owed is missing, or operands are, if any are left. -/
theorem dropped_of_ended (ended : source.pending = []) (hcut : extent = .cut) :
    Dropped extent (skipRest opcode source).1 := by
  refine dropped_skipRest (fun _ => hcut) fun _ after _ hpending => ?_
  have hoperands := dropped_skipOperands (unreadOperands opcode after) 0 after
  rw [hpending, ended, List.drop_nil] at hoperands
  generalize (skipOperands (unreadOperands opcode after) after).1 = result at hoperands ⊢
  cases hoperands with
  | all => exact .all
  | cut => exact .cut hcut
  | lost hlost length => exact absurd hlost (operands_nil_ne_lost _)

/-! ## Readers -/

/-- A reader has taken a number of operands, owes nothing, and what follows tells how far the request
goes. -/
structure Stands (extent : Extent) (count : Nat) (next : Bytes → Extent) (source : Source) : Prop where
  owed : source.owed = 0
  taken : source.taken = some count
  follows : next source.pending = extent

theorem Stands.past {further : Nat} {front : Bytes} {after : Source} {onward : Bytes → Extent}
    (stands : Stands extent count next source) (past : source.Past front further after)
    (h : next source.pending = onward after.pending) : Stands extent (count + further) onward after where
  owed := past.owed.trans stands.owed
  taken := by rw [past.taken, stands.taken, Option.map_some]
  follows := h.symm.trans stands.follows

theorem Stands.dropped (stands : Stands extent count next source) (skips : Skips opcode count next) :
    Dropped extent (skipRest opcode source).1 := by
  refine dropped_of_counted stands.taken ?_ skips
  rw [stands.owed]
  exact stands.follows

/-- A reader heeds how far a request goes: it finds a value, or it fails so that the rest of the request is
dropped as the bytes tell, and meets the end of the connection only if the request is cut. -/
def Heeds {α : Type} (opcode : Opcode) (extent : Extent) (before : Source → Prop) (decoder : Decoder α)
    (after : α → Source → Prop) : Prop :=
  ∀ source, before source →
    (∃ value later, decoder source = (.ok value, later) ∧ after value later) ∨
      ∃ error later, decoder source = (.error error, later) ∧ (error = .closed → extent = .cut) ∧
        Dropped extent (skipRest opcode later).1

namespace Heeds

variable {α β : Type} {decoder : Decoder α} {further : α → Decoder β} {before : Source → Prop}
  {middle : α → Source → Prop} {after : β → Source → Prop}

theorem bind (first : Heeds opcode extent before decoder middle)
    (second : ∀ value, Heeds opcode extent (middle value) (further value) after) :
    Heeds opcode extent before (decoder >>= further) after := by
  intro source hbefore
  rcases first source hbefore with ⟨value, later, hread, hmiddle⟩ |
    ⟨error, later, hread, hclosed, hdropped⟩
  · rw [Decoder.bind_of_ok hread]
    exact second value later hmiddle
  · exact .inr ⟨error, later, Decoder.bind_of_error hread, hclosed, hdropped⟩

theorem mono {post : α → Source → Prop} (first : Heeds opcode extent before decoder middle)
    (h : ∀ value source, middle value source → post value source) :
    Heeds opcode extent before decoder post := by
  intro source hbefore
  rcases first source hbefore with ⟨value, later, hread, hmiddle⟩ | hstops
  · exact .inl ⟨value, later, hread, h value later hmiddle⟩
  · exact .inr hstops

theorem pure {value : β} (h : ∀ source, before source → after value source) :
    Heeds opcode extent before (Pure.pure value) after :=
  fun source hbefore => .inl ⟨value, source, rfl, h source hbefore⟩

theorem fail {error : WireError} (hopen : error ≠ .closed) (skips : Skips opcode count next) :
    Heeds opcode extent (Stands extent count next) (Decoder.fail error : Decoder β) after :=
  fun source stands => .inr ⟨error, source, rfl, fun h => absurd h hopen, stands.dropped skips⟩

/-- A reader that ends with the connection. -/
theorem of_ends (hcut : extent = .cut) (ends : decoder.Ends source) :
    ∃ error later, decoder source = (.error error, later) ∧ (error = .closed → extent = .cut) ∧
      Dropped extent (skipRest opcode later).1 :=
  have ⟨later, hread, hpending⟩ := ends
  ⟨.closed, later, hread, fun _ => hcut, dropped_of_ended hpending hcut⟩

end Heeds

namespace Wire.Source

/-- A word is an operand. -/
theorem heeds_word (α : Type) [Word α] {onward : α → Bytes → Extent} :
    Heeds opcode extent (Stands extent count (Extent.word α onward)) (word α)
      fun value => Stands extent (count + 1) (onward value) := by
  intro source stands
  rcases word_cases onward source with ⟨hcut, hends⟩ | ⟨value, front, after, hread, past, hnext⟩
  · exact .inr (Heeds.of_ends (stands.follows.symm.trans hcut) hends)
  · exact .inl ⟨value, after, hread, stands.past past hnext⟩

/-- A byte string is an operand. -/
theorem heeds_bytes (skips : Skips opcode (count + 1) next) :
    Heeds opcode extent (Stands extent count (Extent.counted next)) bytes
      fun _ => Stands extent (count + 1) next := by
  intro source stands
  rcases bytes_cases next source with ⟨hcut, hends⟩ | ⟨-, length, after, hread, htaken, howed⟩ |
    ⟨length, error, front, middle, hread, hopen, past, hblock⟩ |
    ⟨value, front, after, hread, past, hnext⟩
  · exact .inr (Heeds.of_ends (stands.follows.symm.trans hcut) hends)
  · exact .inr ⟨_, after, hread, nofun, dropped_of_lost htaken (howed.trans stands.owed)⟩
  · refine .inr ⟨error, _, hread, fun h => absurd h hopen, ?_⟩
    have htaken : ({ middle with owed := length }.countField : Source).taken = some (count + 1) := by
      have htook := (past.trans (.countField middle)).taken
      rw [stands.taken, Option.map_some, Nat.zero_add] at htook
      exact htook
    exact dropped_of_counted htaken (hblock.symm.trans stands.follows) skips
  · exact .inl ⟨value, after, hread, stands.past past hnext⟩

theorem heeds_text (skips : Skips opcode (count + 1) next) :
    Heeds opcode extent (Stands extent count (Extent.counted next)) text
      fun _ => Stands extent (count + 1) next := by
  refine (heeds_bytes skips).bind fun value => ?_
  cases value with
  | none => exact .pure fun _ stands => stands
  | some value =>
    cases htext : Bytes.toText? value with
    | none =>
      simp only [htext]
      exact .fail nofun skips
    | some text =>
      simp only [htext]
      exact .pure fun _ stands => stands

theorem heeds_required {α : Type} {what : String} {decoder : Decoder (Option α)} {before : Source → Prop}
    (skips : Skips opcode count next)
    (h : Heeds opcode extent before decoder fun _ => Stands extent count next) :
    Heeds opcode extent before (required what decoder) fun _ => Stands extent count next :=
  h.bind fun value => by
    cases value with
    | none => exact .fail nofun skips
    | some value => exact .pure fun _ stands => stands

theorem heeds_requiredText {what : String} (skips : Skips opcode (count + 1) next) :
    Heeds opcode extent (Stands extent count (Extent.counted next)) (requiredText what)
      fun _ => Stands extent (count + 1) next :=
  heeds_required skips (heeds_text skips)

theorem heeds_requiredBytes {what : String} (skips : Skips opcode (count + 1) next) :
    Heeds opcode extent (Stands extent count (Extent.counted next)) (requiredBytes what)
      fun _ => Stands extent (count + 1) next :=
  heeds_required skips (heeds_bytes skips)

theorem heeds_recordType {onward : UInt8 → Bytes → Extent}
    (skips : ∀ tag, Skips opcode (count + 1) (onward tag)) :
    Heeds opcode extent (Stands extent count (Extent.word UInt8 onward)) recordType
      fun type => Stands extent (count + 1) (onward type.tag) :=
  (heeds_word UInt8).bind fun tag => by
    cases htype : RecordType.ofTag? tag with
    | none => exact .fail nofun (skips tag)
    | some type =>
      rw [RecordType.ofTag?_eq_some_iff.1 htype]
      exact .pure fun _ stands => stands

theorem heeds_identity {onward : Int64 → Bytes → Extent} :
    Heeds opcode extent
      (Stands extent count (Extent.word Int16 fun _ => Extent.word Int64 onward)) identity
      fun id => Stands extent (count + 2) (onward id.position) :=
  (heeds_word Int16).bind fun _ => (heeds_word Int64).bind fun _ => .pure fun _ stands => stands

end Wire.Source

/-! ## Requests -/

namespace Wire

open Source

/-- What holds when a request has been read: it is there, and its rest is dropped as the bytes tell. -/
structure Read (opcode : Opcode) (extent : Extent) (source : Source) : Prop where
  whole : extent = .whole source.pending
  dropped : Dropped extent (skipRest opcode source).1

/-- A request that has been read to its last operand. -/
theorem heeds_read {α : Type} {value : α} (skips : Skips opcode count .whole) :
    Heeds opcode extent (Stands extent count .whole) (Pure.pure value) fun _ => Read opcode extent :=
  .pure fun _ stands => ⟨stands.follows.symm, stands.dropped skips⟩

/-- As many shorts are read as come first. -/
theorem heeds_shorts (number : Nat) :
    Heeds opcode extent (Stands extent count (Extent.repeated number Extent.short next))
      (Decoder.repeated number (word Int16)) fun _ => Stands extent (count + number) next := by
  induction number generalizing count with
  | zero => exact .pure fun _ stands => stands
  | succ number ih =>
    have hcount : count + 1 + number = count + (number + 1) := by omega
    exact (heeds_word Int16).bind fun _ => ih.bind fun _ => .pure fun _ stands => hcount ▸ stands

theorem Request.heeds_clusterIds :
    Heeds .countClusters extent
      (Stands extent 0 (Extent.word Int16 fun number => Extent.operands [.shorts] number.toInt))
      clusterIds fun _ => Read .countClusters extent := by
  have done (count : Nat) (next : Bytes → Extent) : Skips .countClusters (count + 1) next :=
    skips_of_done (skipOperands_countClusters count)
  refine (heeds_word Int16).bind fun number => ?_
  by_cases hnegative : number < 0
  · rw [if_pos hnegative]
    exact .fail nofun (done 0 _)
  · rw [if_neg hnegative]
    have hnatural : ¬ number.toInt < 0 := fun h => hnegative (Int16.lt_iff_toInt_lt.2 h)
    simp only [Extent.operands, if_neg hnatural]
    have hcount : number.toInt.toNat + 1 = 0 + 1 + number.toInt.toNat := by omega
    exact (heeds_shorts _).mono fun _ _ stands =>
      ⟨stands.follows.symm, stands.dropped (hcount ▸ done _ _)⟩

theorem Request.heeds_commandOperand [Codec] (skips : Skips opcode (count + 1) next) :
    Heeds opcode extent (Stands extent count (Extent.counted next)) commandOperand
      fun _ => Stands extent (count + 1) next :=
  (heeds_requiredBytes skips).bind fun payload => by
    cases Codec.decodeCommand? payload with
    | none => exact .fail nofun skips
    | some request => exact .pure fun _ stands => stands

/-- Reading a request of a fixed layout. -/
theorem Request.heeds_decode [Codec] (h : opcode ≠ .commit) :
    Heeds opcode extent (Stands extent 0 opcode.extent) (decode opcode)
      fun _ => Read opcode extent := by
  have skips := skips_operands opcode
  cases opcode with
  | commit => exact absurd rfl h
  | countClusters => exact heeds_clusterIds.bind fun _ => .pure fun _ read => read
  | connect | createDatabase =>
    exact (heeds_requiredText (skips 1 0)).bind fun _ => (heeds_requiredText (skips 2 0)).bind fun _ =>
      heeds_read (skips 2 0)
  | openDatabase =>
    exact (heeds_requiredText (skips 1 0)).bind fun _ => (heeds_requiredText (skips 2 0)).bind fun _ =>
      (heeds_requiredText (skips 3 0)).bind fun _ => heeds_read (skips 3 0)
  | closeDatabase | databaseExists | countKeys | listKeys => exact heeds_read (skips 0 0)
  | addPhysicalCluster =>
    exact (heeds_requiredText (skips 1 0)).bind fun _ => (heeds_text (skips 2 0)).bind fun _ =>
      (heeds_word Int32).bind fun _ => heeds_read (skips 3 0)
  | addLogicalCluster =>
    exact (heeds_requiredText (skips 1 0)).bind fun _ => (heeds_word Int32).bind fun _ =>
      heeds_read (skips 2 0)
  | loadRecord => exact heeds_identity.bind fun _ => heeds_read (skips 2 0)
  | createRecord =>
    exact (heeds_word Int16).bind fun _ => (heeds_requiredBytes (skips 2 _)).bind fun _ =>
      (heeds_recordType fun _ => skips 3 _).bind fun _ => heeds_read (skips 3 0)
  | updateRecord =>
    exact heeds_identity.bind fun _ => (heeds_requiredBytes (skips 3 _)).bind fun _ =>
      (heeds_word Int32).bind fun _ => (heeds_recordType fun _ => skips 5 _).bind fun _ =>
        heeds_read (skips 5 0)
  | deleteRecord =>
    exact heeds_identity.bind fun _ => (heeds_word Int32).bind fun _ => heeds_read (skips 3 0)
  | countNamed | lookupKey | unbindKey =>
    exact (heeds_requiredText (skips 1 0)).bind fun _ => heeds_read (skips 1 0)
  | command =>
    exact (heeds_word UInt8).bind fun mode => (heeds_commandOperand (skips 2 mode.toNat)).bind fun _ =>
      heeds_read (skips 2 mode.toNat)
  | bindKey =>
    exact (heeds_requiredText (skips 1 0)).bind fun _ =>
      (heeds_recordType fun _ => skips 2 _).bind fun _ =>
        (heeds_requiredText (skips 3 _)).bind fun _ => heeds_read (skips 3 0)

/-! ## Batches -/

/-- Behind the number of entries no operands are dropped. -/
theorem skips_commit (enough : 2 ≤ count) (next : Bytes → Extent) : Skips .commit count next := by
  obtain ⟨count, rfl⟩ := Nat.exists_eq_add_of_le' enough
  exact skips_of_done (skipOperands_commit count)

/-- An entry that has been read to its end. -/
theorem heeds_entryEnd {entry : BatchEntry} (enough : 2 ≤ count) :
    Heeds .commit extent (Stands extent count next) (Pure.pure entry) fun _ source =>
      ∃ count, 2 ≤ count ∧ Stands extent count next source :=
  .pure fun _ stands => ⟨count, enough, stands⟩

theorem Source.heeds_entry (enough : 2 ≤ count) :
    Heeds .commit extent (Stands extent count (Extent.entry next)) entry fun _ source =>
      ∃ count, 2 ≤ count ∧ Stands extent count next source := by
  refine (heeds_word UInt8).bind fun status => ?_
  by_cases hcreate : status = 1
  · simp only [if_pos hcreate]
    exact (heeds_word Int16).bind fun _ => (heeds_text (skips_commit (by omega) _)).bind fun _ =>
      (heeds_requiredBytes (skips_commit (by omega) _)).bind fun _ => heeds_entryEnd (by omega)
  by_cases hupdate : status = 2
  · simp only [if_neg hcreate, if_pos hupdate]
    exact (heeds_word Int16).bind fun _ => (heeds_word Int64).bind fun _ =>
      (heeds_word Int32).bind fun _ => (heeds_requiredBytes (skips_commit (by omega) _)).bind fun _ =>
        heeds_entryEnd (by omega)
  by_cases hdelete : status = 3
  · simp only [if_neg hcreate, if_neg hupdate, if_pos hdelete]
    exact (heeds_word Int16).bind fun _ => (heeds_word Int64).bind fun _ =>
      (heeds_word Int32).bind fun _ => heeds_entryEnd (by omega)
  · simp only [if_neg hcreate, if_neg hupdate, if_neg hdelete]
    exact .fail nofun (skips_commit (by omega) _)

theorem BatchReader.heeds_start :
    Heeds .commit extent (Stands extent 0 (Extent.word Int32 fun _ => Extent.word Int32 fun number =>
      Extent.operands [.entries] number.toInt)) start fun reader =>
        Stands extent 2 (Extent.repeated reader.remaining Extent.entry .whole) := by
  refine (heeds_word Int32).bind fun _ => (heeds_word Int32).bind fun number => ?_
  by_cases hnegative : number < 0
  · rw [if_pos hnegative]
    exact .fail nofun (skips_commit (by omega) _)
  · have hnatural : ¬ number.toInt < 0 := fun h => hnegative (Int32.lt_iff_toInt_lt.2 h)
    rw [if_neg hnegative]
    simp only [Extent.operands, if_neg hnatural]
    exact .pure fun _ stands => stands

/-- Entries are taken one after another. -/
theorem BatchReader.take_of_stands {reader : BatchReader} {number : Nat}
    (left : reader.remaining = number) (enough : 2 ≤ count)
    (stands : Stands extent count (Extent.repeated number Extent.entry next) source) :
    ∃ entries failure last after, take number reader source = ((entries, failure), last, after) ∧
      (failure = some .closed → extent = .cut) ∧ (failure = none → next after.pending = extent) ∧
      Dropped extent (skipRest .commit after).1 := by
  induction number generalizing count reader source with
  | zero =>
    exact ⟨[], none, _, source, rfl, by rintro ⟨⟩, fun _ => stands.follows,
      stands.dropped (skips_commit enough next)⟩
  | succ number ih =>
    rcases Source.heeds_entry enough source stands with
      ⟨entry, middle, hread, further, hfurther, hmiddle⟩ |
      ⟨error, after, hread, hclosed, hdropped⟩
    · obtain ⟨entries, failure, last, after, htake, hfailure⟩ :=
        ih (remaining_advance left) hfurther hmiddle
      refine ⟨entry :: entries, failure, last, after, ?_, hfailure⟩
      rw [take, next_of_entry left hread]
      simp only [htake]
    · refine ⟨[], some error, reader.finish, after, ?_, fun h => hclosed (Option.some.inj h),
        by rintro ⟨⟩, hdropped⟩
      rw [take, next_of_failure left hread]

/-! ## All requests -/

/-- The reading of a request has met the end of the connection. -/
inductive MetEnd : Except WireError Request → Prop
  | stopped : MetEnd (.error .closed)
  | inBatch (number : Int32) (entries : List BatchEntry) :
      MetEnd (.ok (.commit number entries (some .closed)))

/-- A request has been read with all that belongs to it. -/
inductive Complete : Except WireError Request → Prop
  | batch (number : Int32) (entries : List BatchEntry) : Complete (.ok (.commit number entries none))
  | other {request : Request} (other : request.opcode ≠ .commit) : Complete (.ok request)

/-- After a request has been read or has failed to read, its rest is dropped as the bytes tell. The end of
the connection is met only if the request is cut, and all of the request is read only if it is there. -/
theorem Request.dropped_decode [Codec] (opcode : Opcode) {source : Source} (howed : source.owed = 0)
    (htaken : source.taken = some 0) :
    (MetEnd (decode opcode source).1 → opcode.extent source.pending = .cut) ∧
      (Complete (decode opcode source).1 → ∃ rest, opcode.extent source.pending = .whole rest) ∧
      Dropped (opcode.extent source.pending) (skipRest opcode (decode opcode source).2).1 := by
  have stands : Stands (opcode.extent source.pending) 0 opcode.extent source := ⟨howed, htaken, rfl⟩
  by_cases hcommit : opcode = .commit
  · subst hcommit
    rcases BatchReader.heeds_start source stands with ⟨reader, middle, hstart, hmiddle⟩ |
      ⟨error, after, hstart, hclosed, hdropped⟩
    · obtain ⟨entries, failure, last, after, htake, hfailure, hwhole, hdropped⟩ :=
        BatchReader.take_of_stands rfl (Nat.le_refl 2) hmiddle
      have hrest : reader.rest middle = ((entries, failure), last, after) := htake
      have hread : decode .commit source = (.ok (.commit reader.number entries failure), after) := by
        refine (Decoder.bind_of_ok hstart).trans ?_
        simp only [hrest]
      rw [hread]
      refine ⟨?_, ?_, hdropped⟩
      · rintro (_ | _)
        exact hfailure rfl
      · rintro (_ | other)
        · exact ⟨_, (hwhole rfl).symm⟩
        · exact absurd rfl other
    · have hread : decode .commit source = (.error error, after) := Decoder.bind_of_error hstart
      rw [hread]
      refine ⟨?_, by rintro ⟨⟩, hdropped⟩
      rintro (_ | _)
      exact hclosed rfl
  · rcases heeds_decode hcommit source stands with ⟨request, after, hread, hwhole, hdropped⟩ |
      ⟨error, after, hread, hclosed, hdropped⟩
    · rw [hread]
      refine ⟨?_, fun _ => ⟨_, hwhole⟩, hdropped⟩
      have hopcode := opcode_of_decode opcode source request after hread
      rintro (_ | _)
      exact absurd hopcode.symm hcommit
    · rw [hread]
      refine ⟨?_, by rintro ⟨⟩, hdropped⟩
      rintro (_ | _)
      exact hclosed rfl

end Wire

end RecordBase
