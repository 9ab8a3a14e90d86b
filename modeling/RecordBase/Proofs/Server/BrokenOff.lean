import Mathlib.Data.Nat.Digits.Defs
import RecordBase.Proofs.Server.Boundary
import RecordBase.Proofs.Wire.Passing
import RecordBase.Proofs.Wire.Replies

/-!
# Responses that are broken off

A response that cannot be sent is broken off, and the failure to send it follows. What is then sent is no
reply: neither a failure, for it begins as a success, nor a response to any request of that kind
(`brokenOff_ne_reply`). Where two responses part, a field of each is of the same kind (`Alike`), and a failure
in the place of a byte string would have to be one of sixteen million bytes.
-/

namespace RecordBase

open Wire

/-! ## Replies -/

/-- A response is of the kind that a request of some kind asks for. -/
inductive Wire.Response.Fits : Opcode → Response → Prop
  | session (id : String) : Fits .connect (.session id)
  | opened (session : String) (clusters : List (String × Int32)) :
      Fits .openDatabase (.opened session clusters)
  | created : Fits .createDatabase .done
  | closed : Fits .closeDatabase .done
  | exists (value : Bool) : Fits .databaseExists (.truth value)
  | cluster (id : Int16) : Fits .addPhysicalCluster (.cluster id)
  | logicalCluster (id : Int16) (descriptor : RecordId) :
      Fits .addLogicalCluster (.logicalCluster id descriptor)
  | count (value : Int64) : Fits .countClusters (.number value)
  | loaded (found : Option Record) : Fits .loadRecord (.loaded found)
  | position (place : Int64) : Fits .createRecord (.position place)
  | version (version : Int32) : Fits .updateRecord (.version version)
  | deleted : Fits .deleteRecord .done
  | countNamed (value : Int64) : Fits .countNamed (.number value)
  | result (given : CommandResult) : Fits .command (.result given)
  | stream (found : List Record) : Fits .command (.stream found)
  | looked (found : Option Record) : Fits .lookupKey (.frame found)
  | bound (found : Option Record) : Fits .bindKey (.frame found)
  | unbound (found : Option Record) : Fits .unbindKey (.frame found)
  | size (count : Int32) : Fits .countKeys (.size count)
  | keys (texts : List String) : Fits .listKeys (.keys texts)
  | outcome (outcome : Outcome) : Fits .commit (.outcome outcome)

/-- What is sent of a response that is broken off, and of the failure to send it. -/
def Wire.brokenOffFields [Codec] (response : Response) (count : UInt64) : List Field :=
  sendable response.message.fields ++ (overlong count).envelope.fields

/-- The fields of a reply to a request with some number. -/
inductive Wire.IsReply [Codec] (code : UInt8) : List Field → Prop
  | success {opcode : Opcode} {response : Response} (known : Opcode.ofCode? code = some opcode)
      (fits : response.Fits opcode) (sendable : response.Sendable) : IsReply code response.fields
  | failure {opcode : Opcode} (known : Opcode.ofCode? code = some opcode) (category : Category)
      {message : String} (sendable : (Field.text (some message)).Sendable) :
      IsReply code (failureFields (some category.name) (some message))
  | unknown (unknown : Opcode.ofCode? code = none) : IsReply code (failureFields none none)

/-! ## The wording of the failure -/

theorem Bytes.length_ofText_le (text : String) : (ofText text).length ≤ 4 * text.length := by
  have hchars : ∀ chars : List Char, (ofText (String.ofList chars)).length ≤ 4 * chars.length := by
    intro chars
    induction chars with
    | nil => exact Nat.zero_le _
    | cons char rest ih =>
      have hsize : [char].utf8Encode.size = char.utf8Size := by simp [List.utf8Encode]
      have hfour := char.utf8Size_le_four
      simp [ofText] at ih ⊢
      omega
  have htext := hchars text.toList
  rwa [String.ofList_toList, String.length_toList] at htext

theorem Numeral.length_format {value : Nat} (h : value < 10 ^ 20) : (format value).length ≤ 20 :=
  Nat.repr_length value 20 (by decide) h

theorem length_wording (first second : String) :
    ("length " ++ first ++ " exceeds the limit of " ++ second ++ " bytes").length =
      first.length + second.length + 35 := by
  have hwords : "length ".length = 7 ∧ " exceeds the limit of ".length = 22 ∧ " bytes".length = 6 := by
    decide
  simp only [String.length_append, hwords]
  omega

namespace Wire

variable {count : UInt64}

theorem length_overlong (count : UInt64) : (Bytes.ofText (overlong count).message).length ≤ 300 := by
  have hlength : (Numeral.format Int32.maxValue.toInt).length ≤ 20 :=
    @Numeral.length_format 2147483647 (by decide)
  have hcount : (Numeral.format count.toNat).length ≤ 20 :=
    Numeral.length_format (Nat.lt_trans count.toNat_lt (by decide))
  have hwording : (overlong count).message.length = _ := length_wording _ _
  have htext := Bytes.length_ofText_le (overlong count).message
  omega

theorem tellable_overlong (count : UInt64) : (overlong count).Tellable :=
  Nat.le_trans (length_overlong count) (by decide)

theorem answerFields_of_unsendable [Codec] {response : Response} (h : ¬ response.Sendable) (limit : Nat) :
    ∃ count, answerFields limit (.ok response) = brokenOffFields response count := by
  obtain ⟨count, htold⟩ := Response.told_of_not_sendable h limit
  have htail : ServerError.toldFields (.wire (.tooLong Int32.maxValue count)) =
      (overlong count).envelope.fields := sendable_of_all (tellable_overlong count).sendable
  exact ⟨count, by simp only [answerFields, htold, htail, brokenOffFields]⟩

/-- The failure to send a response begins with a status and three zeros, and is short. -/
theorem encode_overlong (count : UInt64) :
    ∃ rest, encode (overlong count).envelope.fields = 1 :: 0 :: 0 :: 0 :: rest ∧ rest.length < 2 ^ 10 := by
  have hfields : (overlong count).envelope.fields =
      [.byte failureStatus, .text (some "decode"), .text (some (overlong count).message)] := rfl
  have hcategory : counted (some (Bytes.ofText "decode")) =
      0 :: 0 :: 0 :: 6 :: Bytes.ofText "decode" := by decide
  have hdecode : (Bytes.ofText "decode").length = 6 := by decide
  refine ⟨6 :: Bytes.ofText "decode" ++ counted (some (Bytes.ofText (overlong count).message)), ?_, ?_⟩
  · rw [hfields, encode_cons, encode_cons, encode_singleton, Field.encode, Field.encode, Field.encode,
      Option.map_some, Option.map_some, hcategory]
    rfl
  · have hwording := length_overlong count
    simp only [counted, List.length_append, List.length_cons, Word.length_toBigEndian, hdecode]
    have hwidth : Word.width Int32 = 4 := rfl
    omega

/-! ## Where fields part -/

variable {field other : Field} {fields others : List Field}

/-- Fields of one kind are told apart from what follows them. -/
theorem Field.eq_of_encode_append {rest further : Bytes} (kind : field.kind = other.kind)
    (hfield : field.Sendable) (hother : other.Sendable)
    (h : field.encode ++ rest = other.encode ++ further) : field = other ∧ rest = further := by
  have within {field : Field} (sendable : field.Sendable) : field.Within greatest :=
    Field.within_iff.2 ⟨Nat.lt_succ_of_le sendable, sendable⟩
  let source : Source := { arrived := field.encode ++ rest, limit := greatest }
  have hpending : source.pending = field.encode ++ rest := List.append_nil _
  obtain ⟨after, hread, -⟩ := FieldKind.reads_field (within hfield) source rfl
    ⟨rest, by rw [hpending, encode_singleton]⟩
  obtain ⟨later, hread', -⟩ := FieldKind.reads_field (within hother) source rfl
    ⟨further, by rw [hpending, h, encode_singleton]⟩
  rw [← kind, hread] at hread'
  cases hread'
  exact ⟨rfl, List.append_cancel_left h⟩

/-- Where two lists of fields part, a field of each is of the same kind. -/
def Alike : List Field → List Field → Prop
  | field :: fields, other :: others => field.kind = other.kind ∧ (field = other → Alike fields others)
  | _, _ => True

@[simp] theorem alike_nil (fields : List Field) : Alike fields [] := by
  cases fields <;> trivial

@[simp] theorem nil_alike (fields : List Field) : Alike [] fields := trivial

/-- Fields of the same kinds may come first. -/
theorem Alike.append {front more : List Field} (kinds : front.map Field.kind = more.map Field.kind)
    (h : Alike fields others) : Alike (front ++ fields) (more ++ others) := by
  induction front generalizing more with
  | nil =>
    obtain rfl := List.map_eq_nil_iff.1 kinds.symm
    exact h
  | cons field rest ih =>
    obtain ⟨other, later, rfl, hkind, hlater⟩ := List.map_eq_cons_iff.1 kinds.symm
    exact ⟨hkind.symm, fun _ => ih hlater.symm⟩

theorem alike_of_kinds (kinds : fields.map Field.kind = others.map Field.kind) : Alike fields others := by
  have h := Alike.append kinds (alike_nil [])
  rwa [List.append_nil, List.append_nil] at h

theorem alike_flatMap {α : Type} {write : α → List Field}
    (kinds : ∀ first second, (write first).map Field.kind = (write second).map Field.kind)
    (items further : List α) : Alike (items.flatMap write) (further.flatMap write) := by
  induction items generalizing further with
  | nil => trivial
  | cons item rest ih =>
    cases further with
    | nil => exact alike_nil _
    | cons another later => exact .append (kinds item another) (ih later)

/-! ## Responses of one kind -/

theorem Alike.cons (field : Field) (h : Alike fields others) : Alike (field :: fields) (field :: others) :=
  ⟨rfl, fun _ => h⟩

theorem alike_of_ne {first second : UInt8} (h : first ≠ second) :
    Alike (.byte first :: fields) (.byte second :: others) :=
  ⟨rfl, fun heq => absurd (Field.byte.inj heq) h⟩

theorem kind_countField (count : Nat) : (countField count).kind = .int := rfl

theorem alike_text (first second : Option String) : Alike [.text first] [.text second] :=
  alike_of_kinds rfl

/-- Items behind their numbers. -/
theorem alike_counted (count another : Nat) (h : Alike fields others) :
    Alike (countField count :: fields) (countField another :: others) :=
  ⟨(kind_countField count).trans (kind_countField another).symm, fun _ => h⟩

theorem alike_frameFields (found other : Option Record) : Alike (frameFields found) (frameFields other) := by
  cases found <;> cases other
  · exact alike_of_kinds rfl
  · exact ⟨rfl, fun heq => absurd (Field.short.inj heq) (by decide)⟩
  · exact ⟨rfl, fun heq => absurd (Field.short.inj heq) (by decide)⟩
  · exact alike_of_kinds rfl

namespace Response

theorem alike_loadedFields (found other : Option Record) :
    Alike (loadedFields found) (loadedFields other) := by
  cases found <;> cases other
  · exact alike_of_kinds rfl
  · exact alike_of_ne (by decide)
  · exact alike_of_ne (by decide)
  · exact alike_of_kinds rfl

theorem alike_streamFields (records others : List Record) :
    Alike (streamFields records) (streamFields others) := by
  induction records generalizing others with
  | nil =>
    cases others with
    | nil => exact alike_of_kinds rfl
    | cons other rest => exact alike_of_ne (by decide)
  | cons record rest ih =>
    cases others with
    | nil => exact alike_of_ne (by decide)
    | cons other later =>
      rw [streamFields_cons, streamFields_cons]
      exact .append rfl (.append rfl (ih later))

variable [Codec]

theorem alike_resultFields (given other : CommandResult) :
    Alike (resultFields given) (resultFields other) := by
  cases given <;> cases other <;> first | exact alike_of_kinds rfl | exact alike_of_ne (by decide)

/-- A result delivered at once begins otherwise than a stream. -/
theorem alike_result_stream (given : CommandResult) (records : List Record) :
    Alike (resultFields given) (streamFields records) ∧
      Alike (streamFields records) (resultFields given) := by
  cases given <;> cases records <;> exact ⟨alike_of_ne (by decide), alike_of_ne (by decide)⟩

/-- Two responses to requests of one kind, other than to a batch, are alike. -/
theorem Fits.alike {opcode : Opcode} {response other : Response} (fits : response.Fits opcode)
    (others : other.Fits opcode) (h : opcode ≠ .commit) : Alike response.fields other.fields := by
  refine .cons _ ?_
  cases fits <;> cases others
  case loaded.loaded found other => exact alike_loadedFields found other
  case looked.looked found other | bound.bound found other | unbound.unbound found other =>
    exact alike_frameFields found other
  case result.result given other => exact alike_resultFields given other
  case stream.stream records others => exact alike_streamFields records others
  case result.stream given records => exact (alike_result_stream given records).1
  case stream.result records given => exact (alike_result_stream given records).2
  case opened.opened =>
    exact ⟨rfl, fun _ => alike_counted _ _ (alike_flatMap (fun _ _ => rfl) _ _)⟩
  case keys.keys texts others =>
    have htexts := @alike_flatMap String (fun text => [.text (some text)]) (fun _ _ => rfl) texts others
    rw [← List.map_eq_flatMap, ← List.map_eq_flatMap] at htexts
    exact alike_counted _ _ htexts
  case logicalCluster.logicalCluster => exact ⟨rfl, fun _ => alike_text _ _⟩
  case outcome.outcome => exact absurd rfl h
  all_goals exact alike_of_kinds rfl

end Response

/-! ## Failures in the place of fields -/

section

variable {failure rest further : Bytes} (starts : failure = 1 :: 0 :: 0 :: 0 :: rest)
  (short : rest.length < 2 ^ 10)
include starts short

/-- A number in the place of the failure would be sixteen millions. -/
theorem not_failure_of_le {number : Nat} (h : number ≤ greatest) (enough : number ≤ further.length) :
    Word.toBigEndian (Int32.ofNat number) ++ further ≠ failure := by
  rw [starts]
  intro heq
  have hword : Word.toBigEndian (Int32.ofNat number) ++ further = [1, 0, 0, 0] ++ rest := heq
  obtain ⟨hnumber, hrest⟩ := List.append_inj hword (Word.length_toBigEndian _)
  have hcount : Int32.ofNat number = Word.ofBigEndian [1, 0, 0, 0] := by
    rw [← hnumber, Word.ofBigEndian_toBigEndian]
  have hmillions : (Word.ofBigEndian [1, 0, 0, 0] : Int32).toInt = 16777216 := by decide
  have hvalue := Source.toInt_ofNat_length (Nat.lt_succ_of_le h)
  rw [hcount, hmillions] at hvalue
  rw [hrest] at enough
  omega

/-- A byte string in the place of the failure would be too long. -/
theorem counted_ne_failure {value : Option Bytes} (h : (value.getD []).length ≤ greatest) :
    counted value ++ further ≠ failure := by
  cases value with
  | none =>
    have hnothing : counted none = [255, 255, 255, 255] := by decide
    rw [hnothing, starts]
    intro heq
    cases heq
  | some bytes =>
    rw [counted, List.append_assoc]
    refine not_failure_of_le starts short h ?_
    rw [List.length_append]
    exact Nat.le_add_right _ _

/-- A field that starts with a length in the place of the failure would be too long. -/
theorem field_ne_failure (kind : other.kind.isCounted) (h : other.Sendable) :
    other.encode ++ further ≠ failure := by
  cases other with
  | bytes value => exact counted_ne_failure starts short h
  | text value => exact counted_ne_failure starts short h
  | _ => cases kind

/-- Fields that are broken off before one that cannot be sent are no other fields, where these are of the
same kinds. -/
theorem brokenOff_ne (alike : Alike fields others) (sent : ∀ field ∈ others, field.Sendable)
    (unsent : ∃ field ∈ fields, ¬ field.Sendable) :
    encode (sendable fields) ++ failure ≠ encode others := by
  have hfailure : failure ≠ [] := by rw [starts]; exact List.cons_ne_nil _ _
  induction fields generalizing others with
  | nil => exact absurd unsent (by simp)
  | cons field fields ih =>
    cases others with
    | nil => exact fun h => hfailure (List.append_eq_nil_iff.1 h).2
    | cons other others =>
      obtain ⟨kind, hrest⟩ := alike
      obtain ⟨hother, hothers⟩ := List.forall_mem_cons.1 sent
      by_cases hfield : field.Sendable
      · intro h
        rw [sendable_cons hfield, encode_cons, encode_cons, List.append_assoc] at h
        obtain ⟨rfl, hmore⟩ := Field.eq_of_encode_append kind hfield hother h
        refine ih (hrest rfl) hothers ?_ hmore
        simpa [hfield] using unsent
      · have hnone : sendable (field :: fields) = [] :=
          List.takeWhile_cons_of_neg (by simpa using hfield)
        have hcounted : other.kind.isCounted := by
          rw [← kind]
          cases field <;> first | rfl | exact absurd (Nat.zero_le _) hfield
        rw [hnone]
        exact (field_ne_failure starts short hcounted hother).symm

end

/-! ## Responses that are broken off -/

/-- A list of texts in the place of the failure would have sixteen million of them. -/
theorem textsFields_ne_overlong {texts : List String} (few : texts.length ≤ greatest) (count : UInt64) :
    encode (overlong count).envelope.fields ≠ encode (textsFields texts) := by
  obtain ⟨rest, starts, short⟩ := encode_overlong count
  have htexts : texts.length ≤ (encode (texts.map fun text => .text (some text))).length := by
    clear few
    induction texts with
    | nil => exact Nat.zero_le _
    | cons text rest ih =>
      rw [List.map_cons, encode_cons, List.length_append, Field.encode, Option.map_some, counted,
        List.length_append, Word.length_toBigEndian, List.length_cons]
      have hwidth : Word.width Int32 = 4 := rfl
      omega
  rw [textsFields, encode_cons, countField_of_le few]
  exact (not_failure_of_le starts short few htexts).symm

section

variable [Codec] {opcode : Opcode} {response other : Response} (fits : response.Fits opcode)
  (fitsOther : other.Fits opcode) (sendableOther : other.Sendable) (count : UInt64)
include fits fitsOther sendableOther

/-- A response that is broken off at a field is no other response to a request of its kind. -/
theorem brokenOff_ne_of_field (unsendable : ¬ response.Sendable) (written : response.refusal? = none) :
    encode (brokenOffFields response count) ≠ encode other.fields := by
  have hbatch : opcode ≠ .commit := by
    rintro rfl
    cases fits with
    | outcome outcome => exact unsendable (Response.sendable_outcome outcome)
  have hmessage : response.message.fields = response.fields := by
    rw [Response.message, written]
  have unsent : ∃ field ∈ response.fields, ¬ field.Sendable := by
    by_contra hnone
    exact unsendable ⟨fun field hfield => by_contra fun h => hnone ⟨field, hfield, h⟩, written⟩
  obtain ⟨rest, starts, short⟩ := encode_overlong count
  rw [brokenOffFields, encode_append, hmessage]
  exact brokenOff_ne starts short (fits.alike fitsOther hbatch) sendableOther.fields unsent

/-- Nor is one that has too many keys, of which nothing is sent behind the status. -/
theorem brokenOff_ne_of_refusal {error : WireError} (refused : response.refusal? = some error) :
    encode (brokenOffFields response count) ≠ encode other.fields := by
  cases fits with
  | keys texts =>
    cases fitsOther with
    | keys others =>
      have few : others.length ≤ greatest := by
        have hothers := sendableOther.refusal
        by_contra hmany
        rw [Response.refusal?, if_pos (Nat.lt_of_not_le hmany)] at hothers
        cases hothers
      have hmessage : sendable (Response.keys texts).message.fields = [.byte successStatus] := by
        rw [Response.message, refused]
        rfl
      have hreply : (Response.keys others).fields = .byte successStatus :: textsFields others := rfl
      rw [brokenOffFields, encode_append, hmessage, hreply, encode_singleton, encode_cons]
      exact fun h => textsFields_ne_overlong few count (List.append_cancel_left h)
  | _ => cases refused

end

/-- A response that is broken off, with the failure to send it behind, is no reply to the request. -/
theorem brokenOff_ne_reply [Codec] {opcode : Opcode} {response : Response} (fits : response.Fits opcode)
    (unsendable : ¬ response.Sendable) (count : UInt64) {reply : List Field}
    (h : IsReply opcode.code reply) : encode (brokenOffFields response count) ≠ encode reply := by
  cases h with
  | failure =>
    obtain ⟨more, hmore⟩ := response.sendable_message
    rw [brokenOffFields, hmore]
    rintro ⟨⟩
  | unknown unknown => cases opcode.ofCode?_code.symm.trans unknown
  | @success known other found fitsOther sendableOther =>
    obtain rfl := Option.some.inj (opcode.ofCode?_code.symm.trans found)
    cases hrefusal : response.refusal? with
    | none => exact brokenOff_ne_of_field fits fitsOther sendableOther count unsendable hrefusal
    | some error => exact brokenOff_ne_of_refusal fits fitsOther sendableOther count hrefusal

end Wire

end RecordBase
