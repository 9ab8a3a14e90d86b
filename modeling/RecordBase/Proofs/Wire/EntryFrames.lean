import RecordBase.Proofs.Wire.Calls

/-!
# Entries that are refused

An entry stands in a batch as its fields, whatever its name and its content hold (`EntryFrame`). A channel
refuses the entry if the name is too long or no text, or the content is missing or too long. It has then
taken the fields up to the refused one (`Decoder.Refuses`), and takes nothing more of the batch.

* `BatchReader.take_of_refused`: so what is left of a batch with a refused entry is `EntryFrame.unread`, the
  content behind a refused name and all the entries behind that.
-/

namespace RecordBase.Wire

/-! ## Readers that refuse -/

namespace Decoder

variable {α β : Type} {limit : Nat} {fields others : List Field} {value : α} {decoder : Decoder α}
  {next : α → Decoder β} {error : WireError}

/-- A reader refuses the last of some fields. When what it owes is dropped, it has taken them and nothing
else. -/
def Refuses (decoder : Decoder α) (limit : Nat) (fields : List Field) : Prop :=
  ∀ source : Source, source.limit = limit → source.owed = 0 → encode fields <+: source.pending →
    ∃ error after settled, decoder source = (.error error, after) ∧ error ≠ .closed ∧
      Source.skipOwed after = (.ok after.owed, settled) ∧
      source.Past (encode fields) fields.length settled

theorem refuses_fail (h : error ≠ .closed) : (fail error : Decoder α).Refuses limit [] :=
  fun source _ howed _ =>
    have ⟨settled, hskipped, past⟩ := Source.skipOwed_of_nothing howed
    ⟨error, source, settled, rfl, h, hskipped, past⟩

theorem Refuses.bind (h : decoder.Refuses limit fields) : (decoder >>= next).Refuses limit fields := by
  intro source hlimit howed hfront
  obtain ⟨error, after, settled, hread, hopen, hskipped, past⟩ := h source hlimit howed hfront
  exact ⟨error, after, settled, bind_of_error hread, hopen, hskipped, past⟩

theorem Reads.refuses (first : decoder.Reads limit fields value)
    (second : (next value).Refuses limit others) :
    (decoder >>= next).Refuses limit (fields ++ others) := by
  intro source hlimit howed ⟨rest, hrest⟩
  rw [encode_append, List.append_assoc] at hrest
  obtain ⟨middle, hfirst, past⟩ := first source hlimit ⟨_, hrest⟩
  obtain ⟨error, after, settled, hsecond, hopen, hskipped, further⟩ := second middle
    (past.limit.trans hlimit) (past.owed.trans howed) ⟨rest, (past.pending_eq hrest.symm).symm⟩
  refine ⟨error, after, settled, (bind_of_ok hfirst).trans hsecond, hopen, hskipped, ?_⟩
  rw [encode_append, List.length_append]
  exact past.trans further

/-- What was read is refused. -/
theorem Reads.refuses_look (first : decoder.Reads limit fields value)
    (second : (next value).Refuses limit []) : (decoder >>= next).Refuses limit fields := by
  have h := first.refuses second
  rwa [List.append_nil] at h

end Decoder

/-! ## Entries -/

/-- Every field takes some bytes. -/
theorem Field.encode_ne_nil (field : Field) : field.encode ≠ [] := by
  cases field with
  | bytes value | text value => rcases value with _ | value <;> exact nofun
  | _ => exact nofun

theorem encode_eq_nil_iff (fields : List Field) : encode fields = [] ↔ fields = [] := by
  refine ⟨fun h => List.eq_nil_iff_forall_not_mem.2 fun field hfield => ?_, fun h => h ▸ rfl⟩
  exact field.encode_ne_nil (List.flatMap_eq_nil_iff.1 h field hfield)

/-- An entry as it stands in a batch, whatever its name and its content hold. -/
inductive EntryFrame where
  | create (cluster : Int16) (name content : Option Bytes)
  | update (id : RecordId) (version : Int32) (content : Option Bytes)
  | delete (id : RecordId) (version : Int32)

namespace EntryFrame

/-- The fields of an entry. -/
def fields : EntryFrame → List Field
  | create cluster name content => [.byte 1, .short cluster, .bytes name, .bytes content]
  | update id version content => .byte 2 :: identityFields id ++ [.int version, .bytes content]
  | delete id version => .byte 3 :: identityFields id ++ [.int version]

/-- The fields of a batch of such entries. -/
def batchFields (number : Int32) (frames : List EntryFrame) : List Field :=
  .int number :: countField frames.length :: frames.flatMap fields

/-- The lengths of an entry's name and content can be told. -/
def Small : EntryFrame → Prop
  | create _ name content => (name.getD []).length < 2 ^ 31 ∧ (content.getD []).length < 2 ^ 31
  | update _ _ content => (content.getD []).length < 2 ^ 31
  | delete _ _ => True

/-- A channel with some limit accepts the name of a cluster: there is none, or it is a text. -/
def NameAccepted (limit : Nat) : Option Bytes → Prop
  | none => True
  | some bytes => bytes.length ≤ limit ∧ (Bytes.toText? bytes).isSome

/-- A channel with some limit accepts the content of a record. -/
def ContentAccepted (limit : Nat) : Option Bytes → Prop
  | none => False
  | some bytes => bytes.length ≤ limit

/-- A channel with some limit accepts an entry. -/
def Accepted (limit : Nat) : EntryFrame → Prop
  | create _ name content => NameAccepted limit name ∧ ContentAccepted limit content
  | update _ _ content => ContentAccepted limit content
  | delete _ _ => True

instance (limit : Nat) : DecidablePred (NameAccepted limit)
  | none => inferInstanceAs (Decidable True)
  | some _ => inferInstanceAs (Decidable (_ ∧ _))

instance (limit : Nat) : DecidablePred (ContentAccepted limit)
  | none => inferInstanceAs (Decidable False)
  | some _ => inferInstanceAs (Decidable (_ ≤ _))

instance (limit : Nat) : DecidablePred (Accepted limit)
  | create _ _ _ => inferInstanceAs (Decidable (_ ∧ _))
  | update _ _ content => inferInstanceAs (Decidable (ContentAccepted limit content))
  | delete _ _ => inferInstanceAs (Decidable True)

/-- What is left of an entry when it has been refused: the content if that was its name. -/
def behind (limit : Nat) : EntryFrame → List Field
  | create _ name content => if NameAccepted limit name then [] else [.bytes content]
  | _ => []

/-- What is left of some entries when the first of them that is not accepted has been refused. -/
def unread (limit : Nat) : List EntryFrame → List Field
  | [] => []
  | frame :: rest =>
    if frame.Accepted limit then unread limit rest else frame.behind limit ++ rest.flatMap fields

theorem fields_ne_nil (frame : EntryFrame) : frame.fields ≠ [] := by
  cases frame <;> exact nofun

theorem refused_of_cons {limit : Nat} {frame : EntryFrame} {rest : List EntryFrame}
    (refused : ∃ other ∈ frame :: rest, ¬ other.Accepted limit) (accepted : frame.Accepted limit) :
    ∃ other ∈ rest, ¬ other.Accepted limit := by
  obtain ⟨other, hother, hrefused⟩ := refused
  exact ⟨other, (List.mem_cons.1 hother).resolve_left fun h => hrefused (h ▸ accepted), hrefused⟩

/-- Nothing is left only if the last entry is the one that is refused, and not for its name. -/
theorem unread_eq_nil_iff {limit : Nat} {frames : List EntryFrame}
    (refused : ∃ frame ∈ frames, ¬ frame.Accepted limit) :
    unread limit frames = [] ↔ ∃ before last, frames = before ++ [last] ∧
      (∀ frame ∈ before, frame.Accepted limit) ∧ ¬ last.Accepted limit ∧ last.behind limit = [] := by
  induction frames with
  | nil => simp at refused
  | cons frame rest ih =>
    by_cases haccepted : frame.Accepted limit
    · rw [unread, if_pos haccepted, ih (refused_of_cons refused haccepted)]
      constructor
      · rintro ⟨before, last, rfl, hbefore, hlast, hbehind⟩
        exact ⟨frame :: before, last, rfl, List.forall_mem_cons.2 ⟨haccepted, hbefore⟩, hlast, hbehind⟩
      · rintro ⟨_ | ⟨first, before⟩, last, hsplit, hbefore, hlast, hbehind⟩
        · obtain ⟨rfl, -⟩ := List.cons.inj hsplit
          exact absurd haccepted hlast
        · obtain ⟨-, rfl⟩ := List.cons.inj hsplit
          exact ⟨before, last, rfl, (List.forall_mem_cons.1 hbefore).2, hlast, hbehind⟩
    · rw [unread, if_neg haccepted, List.append_eq_nil_iff]
      constructor
      · rintro ⟨hbehind, hrest⟩
        obtain rfl : rest = [] := List.eq_nil_iff_forall_not_mem.2 fun other hother =>
          other.fields_ne_nil (List.flatMap_eq_nil_iff.1 hrest other hother)
        exact ⟨[], frame, rfl, nofun, haccepted, hbehind⟩
      · rintro ⟨_ | ⟨first, before⟩, last, hsplit, hbefore, -, hbehind⟩
        · obtain ⟨rfl, rfl⟩ := List.cons.inj hsplit
          exact ⟨hbehind, rfl⟩
        · obtain ⟨rfl, -⟩ := List.cons.inj hsplit
          exact absurd (List.forall_mem_cons.1 hbefore).1 haccepted

end EntryFrame

open EntryFrame

namespace Source

open Decoder (Reads Refuses)

variable {limit : Nat} {value : Option Bytes}

theorem refuses_bytes {value : Bytes} (small : value.length < 2 ^ 31) (long : limit < value.length) :
    bytes.Refuses limit [.bytes (some value)] := by
  intro source hlimit howed ⟨rest, hrest⟩
  rw [encode_singleton] at hrest ⊢
  exact bytes_of_refused small (hlimit ▸ long) howed hrest.symm

/-- The name of a cluster is read if it is accepted. -/
theorem reads_name (small : (value.getD []).length < 2 ^ 31) (accepted : NameAccepted limit value) :
    ∃ name, text.Reads limit [.bytes value] name := by
  cases value with
  | none => exact ⟨none, (reads_bytes small (Nat.zero_le _)).map rfl⟩
  | some bytes =>
    obtain ⟨short, hsome⟩ := accepted
    obtain ⟨name, hname⟩ := Option.isSome_iff_exists.1 hsome
    refine ⟨some name, (reads_bytes small short).map ?_⟩
    simp only [hname]

/-- A name that is not accepted is refused. -/
theorem refuses_name (small : (value.getD []).length < 2 ^ 31) (refused : ¬ NameAccepted limit value) :
    text.Refuses limit [.bytes value] := by
  cases value with
  | none => exact absurd trivial refused
  | some name =>
    by_cases hlong : limit < name.length
    · exact (refuses_bytes small hlong).bind
    · have hshort := Nat.not_lt.1 hlong
      have hbad : Bytes.toText? name = none := by
        cases htext : Bytes.toText? name with
        | none => rfl
        | some text => exact absurd ⟨hshort, by rw [htext]; rfl⟩ refused
      have hread : bytes.Reads limit [.bytes (some name)] (some name) := reads_bytes small hshort
      refine hread.refuses_look ?_
      simp only [hbad]
      exact Decoder.refuses_fail nofun

/-- The content of a record is read if it is accepted. -/
theorem reads_content {what : String} (small : (value.getD []).length < 2 ^ 31)
    (accepted : ContentAccepted limit value) :
    ∃ content, (requiredBytes what).Reads limit [.bytes value] content := by
  cases value with
  | none => exact accepted.elim
  | some content => exact ⟨content, reads_required (reads_bytes small accepted)⟩

/-- A content that is not accepted is refused. -/
theorem refuses_content {what : String} (small : (value.getD []).length < 2 ^ 31)
    (refused : ¬ ContentAccepted limit value) :
    (requiredBytes what).Refuses limit [.bytes value] := by
  cases value with
  | none =>
    have hread : bytes.Reads limit [.bytes none] none := reads_bytes small (Nat.zero_le _)
    exact hread.refuses_look (Decoder.refuses_fail nofun)
  | some content => exact (refuses_bytes small (Nat.not_le.1 refused)).bind

/-- An entry is read if it is accepted. -/
theorem reads_entryFrame {frame : EntryFrame} (small : frame.Small) (accepted : frame.Accepted limit) :
    ∃ entry, Source.entry.Reads limit frame.fields entry := by
  cases frame with
  | create cluster name content =>
    obtain ⟨name, hname⟩ := reads_name small.1 accepted.1
    obtain ⟨content, hcontent⟩ := reads_content small.2 accepted.2
    refine ⟨.create cluster name (some content), (reads_byte 1).bind ?_⟩
    rw [if_pos rfl]
    exact (reads_short cluster).bind (hname.bind (hcontent.map rfl))
  | update id version content =>
    obtain ⟨content, hcontent⟩ := reads_content small accepted
    refine ⟨.update id version (some content), (reads_byte 2).bind ?_⟩
    rw [if_neg (by decide), if_pos rfl]
    exact (reads_short id.cluster).bind ((reads_long id.position).bind ((reads_int version).bind
      (hcontent.map rfl)))
  | delete id version =>
    have within : AllWithin limit (entryFields (.delete id version)) := by
      simp [AllWithin, entryFields, identityFields, Field.Within]
    exact ⟨_, @reads_entry limit (.delete id version) trivial within⟩

/-- An entry that is not accepted is refused with what is behind it left. -/
theorem refuses_entryFrame {frame : EntryFrame} (small : frame.Small)
    (refused : ¬ frame.Accepted limit) :
    ∃ front, frame.fields = front ++ frame.behind limit ∧ Source.entry.Refuses limit front := by
  cases frame with
  | create cluster name content =>
    by_cases haccepted : NameAccepted limit name
    · obtain ⟨text, hname⟩ := reads_name small.1 haccepted
      have hcontent := fun accepted => refused ⟨haccepted, accepted⟩
      refine ⟨[.byte 1, .short cluster, .bytes name, .bytes content], ?_, ?_⟩
      · rw [behind, if_pos haccepted]
        rfl
      · refine (reads_byte 1).refuses ?_
        rw [if_pos rfl]
        exact (reads_short cluster).refuses (hname.refuses (refuses_content small.2 hcontent).bind)
    · refine ⟨[.byte 1, .short cluster, .bytes name], ?_, ?_⟩
      · rw [behind, if_neg haccepted]
        rfl
      · refine (reads_byte 1).refuses ?_
        rw [if_pos rfl]
        exact (reads_short cluster).refuses (refuses_name small.1 haccepted).bind
  | update id version content =>
    refine ⟨_, (List.append_nil _).symm, (reads_byte 2).refuses ?_⟩
    rw [if_neg (by decide), if_pos rfl]
    exact (reads_short id.cluster).refuses ((reads_long id.position).refuses
      ((reads_int version).refuses (refuses_content small refused).bind))
  | delete id version => exact absurd trivial refused

end Source

namespace BatchReader

/-- Entries are taken up to the first that is refused, and nothing behind that. -/
theorem take_of_refused {limit : Nat} {frames : List EntryFrame} {reader : BatchReader}
    {source : Source} (hlimit : source.limit = limit) (howed : source.owed = 0)
    (small : ∀ frame ∈ frames, frame.Small) (refused : ∃ frame ∈ frames, ¬ frame.Accepted limit)
    (left : reader.remaining = frames.length)
    (hfront : encode (frames.flatMap fields) <+: source.pending) :
    ∃ entries error last after, take frames.length reader source = ((entries, some error), last, after) ∧
      error ≠ .closed ∧ ∃ front count settled,
        encode (frames.flatMap fields) = front ++ encode (unread limit frames) ∧
        Source.skipOwed after = (.ok after.owed, settled) ∧ source.Past front count settled := by
  induction frames generalizing reader source with
  | nil => simp at refused
  | cons frame rest ih =>
    have hframe := small frame List.mem_cons_self
    rw [List.flatMap_cons] at hfront ⊢
    obtain ⟨more, hmore⟩ := hfront
    rw [encode_append, List.append_assoc] at hmore
    rw [List.length_cons] at left ⊢
    by_cases haccepted : frame.Accepted limit
    · obtain ⟨entry, hentry⟩ := Source.reads_entryFrame hframe haccepted
      obtain ⟨middle, hread, past⟩ := hentry source hlimit ⟨_, hmore⟩
      obtain ⟨entries, error, last, after, htake, hopen, front, count, settled, hsplit, hskipped, further⟩ :=
        ih (past.limit.trans hlimit) (past.owed.trans howed)
          (fun other hother => small other (List.mem_cons_of_mem _ hother))
          (refused_of_cons refused haccepted) (remaining_advance left)
          ⟨more, (past.pending_eq hmore.symm).symm⟩
      refine ⟨entry :: entries, error, last, after, ?_, hopen, _, _, settled, ?_, hskipped,
        past.trans further⟩
      · rw [take, next_of_entry left hread]
        simp only [htake]
      · rw [unread, if_pos haccepted, encode_append, hsplit, List.append_assoc]
    · obtain ⟨front, hsplit, hentry⟩ := Source.refuses_entryFrame hframe haccepted
      rw [hsplit, encode_append, List.append_assoc] at hmore
      obtain ⟨error, after, settled, hread, hopen, hskipped, past⟩ := hentry source hlimit howed ⟨_, hmore⟩
      refine ⟨[], error, reader.finish, after, ?_, hopen, _, _, settled, ?_, hskipped, past⟩
      · rw [take, next_of_failure left hread]
      · rw [unread, if_neg haccepted, hsplit, encode_append, encode_append, encode_append,
          List.append_assoc]

end BatchReader

namespace Request

/-- A batch is read up to the first entry that is refused. -/
theorem decode_of_refused [Codec] {number : Int32} {frames : List EntryFrame} {source : Source}
    (howed : source.owed = 0) (few : frames.length < 2 ^ 31) (small : ∀ frame ∈ frames, frame.Small)
    (refused : ∃ frame ∈ frames, ¬ frame.Accepted source.limit)
    (hfront : encode (EntryFrame.batchFields number frames) <+: source.pending) :
    ∃ entries error after, decode .commit source = (.ok (.commit number entries (some error)), after) ∧
      error ≠ .closed ∧ ∃ front count settled,
        encode (EntryFrame.batchFields number frames) = front ++ encode (unread source.limit frames) ∧
        Source.skipOwed after = (.ok after.owed, settled) ∧ source.Past front (count + 2) settled := by
  have hsplit : EntryFrame.batchFields number frames =
      [.int number, countField frames.length] ++ frames.flatMap EntryFrame.fields := rfl
  rw [hsplit, encode_append] at hfront ⊢
  obtain ⟨more, hmore⟩ := hfront
  rw [List.append_assoc] at hmore
  obtain ⟨middle, hstart, past⟩ := BatchReader.reads_start number few source rfl ⟨_, hmore⟩
  obtain ⟨entries, error, last, after, htake, hopen, front, count, settled, hfields, hskipped, further⟩ :=
    @BatchReader.take_of_refused source.limit frames { number, announced := frames.length } middle
      past.limit (past.owed.trans howed) small refused rfl ⟨more, (past.pending_eq hmore.symm).symm⟩
  have hrest : ({ number, announced := frames.length } : BatchReader).rest middle =
      ((entries, some error), last, after) := htake
  have whole := past.trans further
  rw [Nat.add_comm] at whole
  refine ⟨entries, error, after, ?_, hopen, _, count, settled, ?_, hskipped, whole⟩
  · refine (Decoder.bind_of_ok hstart).trans ?_
    simp only [hrest]
  · rw [hfields, List.append_assoc]

end Request

end RecordBase.Wire
