/-!
# Locations of databases

A client names a database by an address such as `remote:host:2424/demo` or `memory:demo`, of which
only the end counts.
-/

namespace RecordBase

/-- What follows the last occurrence of a character, if there is one. -/
def afterLast? (mark : Char) : List Char → Option (List Char)
  | [] => none
  | c :: rest =>
    match afterLast? mark rest with
    | some found => some found
    | none => if c = mark then some rest else none

/-- The name of the database at an address: what follows the last slash, or else the last colon. -/
def databaseNameAt (url : String) : String :=
  let chars := url.toList
  String.ofList ((afterLast? '/' chars).getD ((afterLast? ':' chars).getD chars))

end RecordBase
