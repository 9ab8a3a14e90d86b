import RecordBase.Proofs.Database.Serving
import RecordBase.Proofs.Store.History
import RecordBase.Proofs.Store.Views

/-!
# All views of a cluster agree

Reads, counts, scans and commands look at the records of a cluster in ways of their own: through the
cache or past it, at numbers kept as records come and go, at slots that several clusters share.

* `Database.views_agree`: in every database that serves they show the same records.
-/

namespace RecordBase

namespace Query

variable {store : Store} {request : CommandRequest} {query : Query}

theorem execute_of_words {words : List String} (hwords : Text.words request.text = words)
    (hquery : ofWords? words = some query) :
    store.execute request = store.answer request.maxResults? query := by
  simp only [Store.execute, parse?, hwords, hquery]

theorem ofWords?_load {keyword : String} (h : Text.asciiLowercase keyword = "load")
    (identity : String) : ofWords? [keyword, identity] = some (.load identity) := by
  simp only [ofWords?, List.map_cons, List.map_nil, h]

theorem ofWords?_count {first second third : String} (h₁ : Text.asciiLowercase first = "select")
    (h₂ : Text.asciiLowercase second = "count(*)") (h₃ : Text.asciiLowercase third = "from")
    (target : String) :
    ofWords? [first, second, third, target] = some (.count (clusterName target)) := by
  simp only [ofWords?, List.map_cons, List.map_nil, h₁, h₂, h₃]

theorem ofWords?_select {first second : String} (h₁ : Text.asciiLowercase first = "select")
    (h₂ : Text.asciiLowercase second = "from") (target : String) :
    ofWords? [first, second, target] = some (.select (clusterName target)) := by
  simp only [ofWords?, List.map_cons, List.map_nil, h₁, h₂]

end Query

namespace Store

/-- What the views of a cluster show, if they agree on its records. Keywords of commands are in any
case, with any blanks around the words. -/
structure Shows (store : Store) (cluster : Int16) (records : List Record) : Prop where
  scan : store.scan cluster = .ok records
  increasing : records.Pairwise fun a b => a.id.position < b.id.position
  read : ∀ record ∈ records, record.id.cluster = cluster ∧
    (store.read record.id).1 = .ok (some record) ∧
    (store.readUncached record.id).1 = .ok (some record)
  found : ∀ id record, id.cluster = cluster → (store.read id).1 = .ok (some record) ∨
    (store.readUncached id).1 = .ok (some record) → record ∈ records ∧ record.id = id
  load : ∀ record ∈ records, ∀ request keyword,
    Text.words request.text = [keyword, record.id.text] → Text.asciiLowercase keyword = "load" →
    (store.execute request).1 = .ok (.record record)
  count : store.count [cluster] = .ok (records.length : Int)
  countNamed : ∀ name, store.clusterNamed? name = some cluster →
    store.countNamed name = .ok (records.length : Int)
  countCommand : ∀ request first second third target,
    Text.words request.text = [first, second, third, target] →
    Text.asciiLowercase first = "select" → Text.asciiLowercase second = "count(*)" →
    Text.asciiLowercase third = "from" →
    store.clusterNamed? (Query.clusterName target) = some cluster →
    (store.execute request).1 = .ok (.value (.integer (Int64.ofInt records.length)))
  select : ∀ request first second target,
    Text.words request.text = [first, second, target] →
    Text.asciiLowercase first = "select" → Text.asciiLowercase second = "from" →
    store.clusterNamed? (Query.clusterName target) = some cluster →
    (store.execute request).1 = .ok (.records
      (if 0 ≤ request.limit then records.take request.limit.toInt.toNat else records))

variable {store : Store} {cluster : Int16} {listing : Listing}

theorem countNamed_of_scan (kept : store.contents.Kept) {name : String} {records : List Record}
    (hname : store.clusterNamed? name = some cluster) (h : store.scan cluster = .ok records) :
    store.countNamed name = .ok (records.length : Int) := by
  simp only [Store.countNamed, clusterNamed, hname, count_of_scan kept h]

theorem select_of_scan {name : String} {records : List Record}
    (hname : store.clusterNamed? name = some cluster) (h : store.scan cluster = .ok records)
    (limit : Option Nat) : store.select name limit = .ok (limit.elim records records.take) := by
  have hcluster : store.clusterNamed name = .ok cluster := by simp only [clusterNamed, hname]
  rw [Store.select, hcluster]
  show (store.scan cluster >>= _) = _
  rw [h]
  cases limit <;> rfl

theorem answer_load {record : Record} (h : (store.read record.id).1 = .ok (some record))
    (limit : Option Nat) :
    (store.answer limit (.load record.id.text)).1 = .ok (.record record) := by
  simp only [answer, RecordId.parse?_text]
  split <;> rename_i hread <;> rw [hread] at h <;> cases h
  rfl

/-- In a store in good order with a coherent cache all views agree. -/
theorem shows_of_kept (kept : store.contents.Kept) (coherent : store.Coherent)
    (listed : store.contents.clusters.get? cluster = some listing) :
    store.Shows cluster (store.contents.recordsOf listing) := by
  have hscan := scan_of_listed listed
  have hread {id : RecordId} {record : Record} :
      (store.read id).1 = .ok (some record) ↔ store.contents.record? id = some record := by
    rw [read_eq_readUncached coherent, readUncached_eq_some_iff_of_kept kept]
  refine ⟨hscan, Contents.recordsOf_increasing _ _, ?_, ?_, ?_, count_of_scan kept hscan,
    fun name hname => countNamed_of_scan kept hname hscan, ?_, ?_⟩
  · intro record h
    obtain ⟨hcluster, hrecord⟩ := (kept.mem_recordsOf_iff listed).1 h
    exact ⟨hcluster, hread.2 hrecord, (readUncached_eq_some_iff_of_kept kept).2 hrecord⟩
  · intro id record hcluster h
    have hrecord : store.contents.record? id = some record :=
      h.elim hread.1 (readUncached_eq_some_iff_of_kept kept).1
    obtain ⟨_, slot, -, rfl⟩ := Contents.stored_of_record? kept.sound hrecord
    exact ⟨(kept.mem_recordsOf_iff listed).2 ⟨hcluster, hrecord⟩, rfl⟩
  · intro record h request keyword hwords hkeyword
    have hfound := hread.2 ((kept.mem_recordsOf_iff listed).1 h).2
    rw [Query.execute_of_words hwords (Query.ofWords?_load hkeyword _), answer_load hfound]
  · intro request first second third target hwords h₁ h₂ h₃ hname
    rw [Query.execute_of_words hwords (Query.ofWords?_count h₁ h₂ h₃ target), answer,
      countNamed_of_scan kept hname hscan]
    rfl
  · intro request first second target hwords h₁ h₂ hname
    rw [Query.execute_of_words hwords (Query.ofWords?_select h₁ h₂ target), answer,
      select_of_scan hname hscan, CommandRequest.maxResults?]
    by_cases hlimit : 0 ≤ request.limit
    · rw [if_pos hlimit, if_pos hlimit]
      rfl
    · rw [if_neg hlimit, if_neg hlimit]
      rfl

end Store

namespace Database

variable {ε : Type} {database : Database}

/-- In every database that serves, fresh or opened again over a log that grew by fewer than `2 ^ 32` bytes at
a time, all views of a cluster that exists agree on its records, and the count of some clusters is the sum
of the lengths of their scans. -/
theorem views_agree (serving : Serving ε database) :
    (∀ cluster listed, database.store.cluster? cluster = some listed →
      ∃ records, database.store.Shows cluster records) ∧
    ∀ parts : List (Int16 × List Record),
      (∀ part ∈ parts, database.store.scan part.1 = .ok part.2) →
      database.store.count (parts.map (·.1)) =
        .ok (parts.foldr (fun part sum => (part.2.length : Int) + sum) 0) := by
  refine ⟨fun cluster listed h => ?_, fun parts scans => Store.count_of_scans serving.kept scans⟩
  obtain ⟨listing, hlisted, -⟩ := Option.map_eq_some_iff.1 h
  exact ⟨_, Store.shows_of_kept serving.kept serving.coherent hlisted⟩

/-- The views of a cluster with one record. -/
theorem views_agree_of_creation :
    let create : Step Unit := .operation (.create 0 [1] .document)
    let store := (create.run plain).2.store
    let record : Record := ⟨⟨0, 0⟩, 0, .document, [1]⟩
    store.Shows 0 [record] ∧ store.count [0, 0] = .ok 2 ∧
      (store.execute { text := " Load  #0:0" }).1 = .ok (.record record) := by
  intro create store record
  obtain ⟨shows, counts⟩ := views_agree (.stepped serving_plain create)
  obtain ⟨records, agree⟩ := shows 0 _ rfl
  have hscan : store.scan 0 = .ok [record] := rfl
  obtain rfl : records = [record] := Except.ok.inj (agree.scan.symm.trans hscan)
  have words : Text.words " Load  #0:0" = ["Load", record.id.text] := by decide +kernel
  refine ⟨agree, ?_, agree.load record List.mem_cons_self _ "Load" words (by decide +kernel)⟩
  exact counts [(0, [record]), (0, [record])]
    (List.forall_mem_cons.2 ⟨hscan, List.forall_mem_singleton.2 hscan⟩)

end Database

end RecordBase
