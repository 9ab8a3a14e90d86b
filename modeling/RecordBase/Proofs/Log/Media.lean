import RecordBase.Log.OpenFile
import RecordBase.Proofs.Log.Journal

/-!
# All media keep one log

A log is a string of bytes: what requests leave of it (`ByteLog.leftBy`) and what they are told
(`ByteLog.Request.told`) needs no medium. A way of keeping logs is faithful if the five things it does tell
and leave just that (`ByteLog.Faithful`).

* `Faithful.runAll`: who keeps logs faithfully gives the replies that the bytes tell;
* `take_leftBy`: what no truncation goes below stays where it is;
* `Medium.faithful`, `OpenLog.faithful`: logs in memory and in a file are kept so, wherever the place in
  the open file is;
* `media_keep_one_log`: so their replies are the same, and what was appended is read back.
-/

namespace RecordBase

namespace ByteLog

/-! ## Logs as bytes -/

/-- What a request leaves of a log. -/
def Request.leaves (bytes : Bytes) : Request → Bytes
  | append data => bytes ++ data
  | truncate length => bytes.take length
  | readAt .. | readAll | size | flush | sync | reopen => bytes

/-- What a request is told of a log. -/
def Request.told (bytes : Bytes) : Request → Reply
  | append _ => .place bytes.length
  | readAt offset length => .ofRead (readWithin bytes bytes.length offset length)
  | readAll => .ofRead (readWithin bytes bytes.length 0 bytes.length)
  | size => .length bytes.length
  | truncate length =>
    if bytes.length < length then .failed (.truncateBeyondEnd length bytes.length) else .done
  | flush | sync | reopen => .done

/-- What requests leave of a log. -/
def leftBy (bytes : Bytes) (requests : List Request) : Bytes := requests.foldl Request.leaves bytes

/-- What requests are told of a log, one after another. -/
def toldTo (bytes : Bytes) : List Request → List Reply
  | [] => []
  | request :: rest => request.told bytes :: toldTo (request.leaves bytes) rest

/-- What no truncation goes below stays where it is. -/
theorem take_leftBy {count : Nat} {requests : List Request}
    (spared : ∀ size, Request.truncate size ∈ requests → count ≤ size) {bytes : Bytes}
    (h : count ≤ bytes.length) :
    (leftBy bytes requests).take count = bytes.take count ∧ count ≤ (leftBy bytes requests).length := by
  induction requests generalizing bytes with
  | nil => exact ⟨rfl, h⟩
  | cons request rest ih =>
    have hrest (size : Nat) (hsize : Request.truncate size ∈ rest) : count ≤ size :=
      spared size (List.mem_cons_of_mem _ hsize)
    have hlong : count ≤ (request.leaves bytes).length := by
      cases request with
      | append data => exact Nat.le_trans h (by simp [Request.leaves])
      | truncate size =>
        rw [Request.leaves, List.length_take]
        exact Nat.le_min.2 ⟨spared size List.mem_cons_self, h⟩
      | readAt | readAll | size | flush | sync | reopen => exact h
    have hfront : (request.leaves bytes).take count = bytes.take count := by
      cases request with
      | append data => exact List.take_append_of_le_length h
      | truncate size =>
        rw [Request.leaves, List.take_take, Nat.min_eq_left (spared size List.mem_cons_self)]
      | readAt | readAll | size | flush | sync | reopen => rfl
    obtain ⟨htake, hlength⟩ := ih hrest hlong
    exact ⟨htake.trans hfront, hlength⟩

/-- What was appended is read where it was put. -/
theorem readWithin_leftBy {bytes data : Bytes} {requests : List Request}
    (fits : bytes.length + data.length < 2 ^ 64)
    (spared : ∀ size, Request.truncate size ∈ requests → bytes.length + data.length ≤ size) :
    let left := leftBy (bytes ++ data) requests
    readWithin left left.length bytes.length data.length = .ok data := by
  intro left
  obtain ⟨htake, hlength⟩ := take_leftBy spared (Nat.le_of_eq List.length_append.symm)
  rw [readWithin, if_pos ⟨fits, hlength⟩, List.take_drop, htake, List.take_of_length_le (by simp),
    List.drop_left]

/-! ## Faithful keepers -/

section Faithful

variable {σ : Type} [ByteLog σ]

/-- A way of keeping logs, by the bytes that each log holds, that tells and leaves what these do. -/
structure Faithful (holds : σ → Bytes → Prop) : Prop where
  size : ∀ {log bytes}, holds log bytes → ByteLog.size log = bytes.length
  readAt : ∀ {log bytes}, holds log bytes → ∀ offset length,
    (ByteLog.readAt log offset length).1 = readWithin bytes bytes.length offset length ∧
      holds (ByteLog.readAt log offset length).2 bytes
  append : ∀ {log bytes}, holds log bytes → ∀ data,
    (ByteLog.append log data).1 = bytes.length ∧ holds (ByteLog.append log data).2 (bytes ++ data)
  truncate : ∀ {log bytes}, holds log bytes → ∀ size,
    Reply.ofTruncation (ByteLog.truncate log size).1 = (Request.truncate size).told bytes ∧
      holds (ByteLog.truncate log size).2 (bytes.take size)
  reopen : ∀ {log bytes}, holds log bytes → holds (ByteLog.reopen log) bytes

variable {holds : σ → Bytes → Prop} {log : σ} {bytes : Bytes}

theorem Faithful.run (faithful : Faithful holds) (h : holds log bytes) (request : Request) :
    (request.run log).1 = request.told bytes ∧ holds (request.run log).2 (request.leaves bytes) := by
  cases request with
  | append data =>
    obtain ⟨hplace, hholds⟩ := faithful.append h data
    exact ⟨congrArg Reply.place hplace, hholds⟩
  | readAt offset length =>
    obtain ⟨hread, hholds⟩ := faithful.readAt h offset length
    exact ⟨congrArg Reply.ofRead hread, hholds⟩
  | readAll =>
    obtain ⟨hread, hholds⟩ := faithful.readAt h 0 (ByteLog.size log)
    have hall : (ByteLog.readAll log).1 = readWithin bytes bytes.length 0 bytes.length := by
      rw [ByteLog.readAll, hread, faithful.size h]
    exact ⟨congrArg Reply.ofRead hall, hholds⟩
  | size => exact ⟨congrArg Reply.length (faithful.size h), h⟩
  | truncate size => exact faithful.truncate h size
  | flush => exact ⟨rfl, h⟩
  | sync => exact ⟨rfl, h⟩
  | reopen => exact ⟨rfl, faithful.reopen h⟩

theorem Faithful.runAll (faithful : Faithful holds) (h : holds log bytes) (requests : List Request) :
    (ByteLog.runAll log requests).1 = toldTo bytes requests ∧
      holds (ByteLog.runAll log requests).2 (leftBy bytes requests) := by
  induction requests generalizing log bytes with
  | nil => exact ⟨rfl, h⟩
  | cons request rest ih =>
    obtain ⟨htold, hleft⟩ := faithful.run h request
    obtain ⟨hrest, hholds⟩ := ih hleft
    exact ⟨List.cons_eq_cons.2 ⟨htold, hrest⟩, hholds⟩

/-- Whatever data requests append to a log, it is read at the place that they were told, unless a
truncation after that goes below its end; for lengths are less than `2 ^ 64`. -/
def GivesBack (log : σ) (requests : List Request) : Prop :=
  ∀ before data after, requests = before ++ Request.append data :: after →
    let offset := (ByteLog.append (ByteLog.runAll log before).2 data).1
    offset + data.length < 2 ^ 64 →
    (∀ size, Request.truncate size ∈ after → offset + data.length ≤ size) →
    (ByteLog.readAt (ByteLog.runAll log requests).2 offset data.length).1 = .ok data

theorem Faithful.givesBack (faithful : Faithful holds) (h : holds log bytes) (requests : List Request) :
    GivesBack log requests := by
  intro before data after hrequests offset fits spared
  have hoffset : offset = (leftBy bytes before).length :=
    (faithful.append (faithful.runAll h before).2 data).1
  have hleft : leftBy bytes requests = leftBy (leftBy bytes before ++ data) after := by
    rw [leftBy, hrequests, List.foldl_append]
    rfl
  have hread := (faithful.readAt (faithful.runAll h requests).2 offset data.length).1
  rw [hread, hleft]
  rw [hoffset] at fits spared ⊢
  exact readWithin_leftBy fits spared

end Faithful

end ByteLog

/-! ## Media -/

namespace Medium

variable {medium : Medium} {bytes : Bytes}

theorem place_append (medium : Medium) (data : Bytes) : (medium.append data).1 = medium.size := by
  cases medium <;> rfl

theorem Holds.readAt (h : medium.Holds bytes) (offset length : Nat) :
    medium.readAt offset length = readWithin bytes bytes.length offset length := by
  obtain ⟨hbytes, hsize⟩ := h
  cases medium with
  | memory log =>
    obtain rfl := hbytes
    rfl
  | file log =>
    obtain rfl := hbytes
    exact congrArg (readWithin log.bytes · offset length) hsize

theorem Holds.truncate_of_lt (h : medium.Holds bytes) {size : Nat} (beyond : bytes.length < size) :
    medium.truncate size = .error (.truncateBeyondEnd size bytes.length) := by
  obtain ⟨hbytes, hsize⟩ := h
  cases medium with
  | memory log =>
    simp only [Medium.bytes] at hbytes
    simp only [Medium.truncate, MemoryLog.truncate, hbytes, if_pos beyond]
    rfl
  | file log =>
    simp only [Medium.size] at hsize
    simp only [Medium.truncate, FileLog.truncate, hsize, if_pos beyond]
    rfl

theorem Holds.reopen (h : medium.Holds bytes) : medium.reopen.Holds bytes := by
  obtain ⟨hbytes, hsize⟩ := h
  cases medium with
  | memory log => exact ⟨hbytes, hsize⟩
  | file log =>
    obtain rfl := hbytes
    exact holds_file log.bytes

theorem faithful : ByteLog.Faithful Medium.Holds where
  size h := h.size_eq
  readAt h offset length := ⟨h.readAt offset length, h⟩
  append h data := ⟨(place_append _ data).trans h.size_eq, h.append data⟩
  truncate {medium bytes} h size := by
    by_cases beyond : bytes.length < size
    · have hfails : ByteLog.truncate medium size =
          (.error (.truncateBeyondEnd size bytes.length), medium) := by
        simp only [ByteLog.truncate, h.truncate_of_lt beyond]
      rw [hfails, ByteLog.Request.told, if_pos beyond, List.take_of_length_le (Nat.le_of_lt beyond)]
      exact ⟨rfl, h⟩
    · obtain ⟨shorter, hcut, hholds⟩ := h.truncate (Nat.not_lt.1 beyond)
      have hworks : ByteLog.truncate medium size = (.ok (), shorter) := by
        simp only [ByteLog.truncate, hcut]
      rw [hworks, ByteLog.Request.told, if_neg beyond]
      exact ⟨rfl, hholds⟩
  reopen h := h.reopen

end Medium

/-! ## Open files -/

namespace OpenLog

/-- A log in an open file that has just these bytes, and knows how many; the place may be any. -/
structure Holds (log : OpenLog) (bytes : Bytes) : Prop where
  bytes_eq : log.file.bytes = bytes
  length_eq : log.length = bytes.length

variable {log : OpenLog} {bytes : Bytes}

theorem holds_ofFile (bytes : Bytes) : (ofFile bytes).Holds bytes := ⟨rfl, rfl⟩

/-- Within the file, as many bytes are found as are asked for. -/
theorem readExact_of_le {file : OpenFile} {count : Nat} (h : file.place + count ≤ file.bytes.length) :
    file.readExact count =
      (.ok ((file.bytes.drop file.place).take count), { file with place := file.place + count }) := by
  have hfound : ((file.bytes.drop file.place).take count).length = count := by
    rw [List.length_take, List.length_drop]
    omega
  simp only [OpenFile.readExact, hfound, Nat.lt_irrefl, if_false]

theorem Holds.readAt (h : log.Holds bytes) (offset length : Nat) :
    (log.readAt offset length).1 = readWithin bytes bytes.length offset length ∧
      (log.readAt offset length).2.Holds bytes := by
  obtain ⟨rfl, hlength⟩ := h
  rw [OpenLog.readAt, readWithin, hlength]
  split
  · rename_i hwithin
    split
    · rename_i hzero
      rw [hzero, List.take_zero]
      exact ⟨rfl, rfl, hlength⟩
    · have hread : (log.file.seek offset).readExact length = _ := readExact_of_le hwithin.2
      rw [hread]
      exact ⟨rfl, rfl, rfl⟩
  · exact ⟨rfl, rfl, hlength⟩

theorem Holds.append (h : log.Holds bytes) (data : Bytes) :
    (log.append data).1 = bytes.length ∧ (log.append data).2.Holds (bytes ++ data) := by
  obtain ⟨rfl, hlength⟩ := h
  refine ⟨hlength, ?_⟩
  cases data with
  | nil =>
    rw [List.append_nil]
    exact ⟨rfl, hlength⟩
  | cons first rest =>
    refine ⟨?_, ?_⟩
    · show overwrite log.file.bytes log.length (first :: rest) = _
      rw [hlength, Medium.overwrite_length]
    · show log.length + (first :: rest).length = _
      rw [hlength, List.length_append]

theorem Holds.truncate (h : log.Holds bytes) (size : Nat) :
    ByteLog.Reply.ofTruncation (log.truncate size).1 = (ByteLog.Request.truncate size).told bytes ∧
      (log.truncate size).2.Holds (bytes.take size) := by
  obtain ⟨rfl, hlength⟩ := h
  rw [OpenLog.truncate, ByteLog.Request.told, hlength]
  split
  · rename_i beyond
    exact ⟨rfl, (List.take_of_length_le (Nat.le_of_lt beyond)).symm, by
      rw [hlength, List.take_of_length_le (Nat.le_of_lt beyond)]⟩
  · rename_i within
    have hnothing : size - log.file.bytes.length = 0 := Nat.sub_eq_zero_of_le (Nat.not_lt.1 within)
    refine ⟨rfl, ?_, ?_⟩
    · simp [OpenFile.setLength, hnothing]
    · rw [List.length_take, Nat.min_eq_left (Nat.not_lt.1 within)]

theorem faithful : ByteLog.Faithful OpenLog.Holds where
  size h := h.length_eq
  readAt h offset length := h.readAt offset length
  append h data := h.append data
  truncate h size := h.truncate size
  reopen {log _} h := h.bytes_eq ▸ holds_ofFile log.file.bytes

end OpenLog

namespace ByteLog

/-- **All media keep one log.** Requests get the same replies, faults included, from a log in memory, from
one in a file, and from one in an open file with its place, whatever bytes each starts with; and all
three give back what was appended to them. -/
theorem media_keep_one_log (bytes : Bytes) (requests : List Request) :
    (runAll (Medium.memory ⟨bytes⟩) requests).1 = (runAll (OpenLog.ofFile bytes) requests).1 ∧
      (runAll (Medium.file (.ofFile bytes)) requests).1 = (runAll (OpenLog.ofFile bytes) requests).1 ∧
      GivesBack (Medium.memory ⟨bytes⟩) requests ∧ GivesBack (Medium.file (.ofFile bytes)) requests ∧
      GivesBack (OpenLog.ofFile bytes) requests := by
  have hmemory := Medium.holds_memory bytes
  have hfile := Medium.holds_file bytes
  have hopen := OpenLog.holds_ofFile bytes
  have htold := (OpenLog.faithful.runAll hopen requests).1
  refine ⟨?_, ?_, ?_, ?_, ?_⟩
  · exact (Medium.faithful.runAll hmemory requests).1.trans htold.symm
  · exact (Medium.faithful.runAll hfile requests).1.trans htold.symm
  · exact Medium.faithful.givesBack hmemory requests
  · exact Medium.faithful.givesBack hfile requests
  · exact OpenLog.faithful.givesBack hopen requests

example : (runAll (OpenLog.ofFile [1]) [.append [2, 3], .readAt (2 ^ 64 - 1) 1, .truncate 2, .readAt 1 1,
    .truncate 3, .reopen, .append [4], .readAll]).1 =
      [.place 1, .failed (.readPastEnd (2 ^ 64 - 1) 1 3), .done, .content [2],
        .failed (.truncateBeyondEnd 3 2), .done, .place 2, .content [1, 2, 4]] := by decide

end ByteLog

end RecordBase
