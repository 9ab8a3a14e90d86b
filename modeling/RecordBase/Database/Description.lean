import RecordBase.Database.Basic

/-!
# Descriptions of databases

One-line descriptions for logs and consoles: the name of a thing and some of its fields.
-/

namespace RecordBase

/-- A description by the name of a thing and its fields; `more` if there are others. -/
def describe (name : String) (fields : List (String × String)) (more : Bool) : String :=
  let shown := fields.map fun field => field.1 ++ ": " ++ field.2
  let shown := if more then shown ++ [".."] else shown
  if shown.isEmpty then name else name ++ " \x7b " ++ ", ".intercalate shown ++ " \x7d"

/-- The description of a value that may be missing. -/
def describeOption : Option String → String
  | some text => "Some(" ++ text ++ ")"
  | none => "None"

/-- The description of some texts. -/
def describeTexts (texts : List String) : String :=
  "[" ++ ", ".intercalate (texts.map Text.quote) ++ "]"

/-- The description of an identity. -/
def RecordId.description (id : RecordId) : String := "RecordId(" ++ id.text ++ ")"

/-- The description of a storage mode. -/
def StorageMode.description : StorageMode → String
  | memory => "Memory"
  | directory => "Local"

/-- The description of a journal. -/
def Journal.description (journal : Journal) : String :=
  describe "SegmentManager" [("sync_on_write", toString journal.syncOnWrite)] true

/-- The description of a store. -/
def Store.description (store : Store) : String :=
  describe "RecordStore"
    [("clusters", toString store.contents.clusters.size),
      ("cache", describeOption (store.cache.map fun cache => toString cache.size))] true

/-- The description of a store's dictionary. -/
def Store.dictionaryDescription (store : Store) : String :=
  describe "Dictionary" [("len", toString store.contents.dictionary.size)] true

/-- The description of a database. -/
def Database.description (database : Database) : String :=
  describe "Database"
    [("name", Text.quote database.name), ("mode", database.mode.description),
      ("store", database.store.description)] true

end RecordBase
