import RecordBase.Text.Blank
import RecordBase.Text.Numeral

/-!
# Record identities

A record is addressed by its cluster and its position in it. The text of an identity,
`#cluster:position`, is also the key under which a record is cached. Positions below minus one are
placeholders for records that a batch creates: minus two stands for its first creation.
-/

namespace RecordBase

/-- The address of a record. -/
structure RecordId where
  /-- The cluster the record belongs to. -/
  cluster : Int16
  /-- The position in the cluster. -/
  position : Int64
  deriving DecidableEq, Repr, Inhabited

namespace RecordId

/-- The position of a record that has not been stored. -/
def unassignedPosition : Int64 := -1

/-- Whether a stored record can have this identity. -/
def isValid (id : RecordId) : Bool := 0 ≤ id.cluster && 0 ≤ id.position

/-- Whether the identity stands for a record created earlier in the same batch. -/
def isTemporary (id : RecordId) : Bool := id.position ≤ -2

/-- The placeholder of the `ordinal`-th record that a batch creates. -/
def temporary (cluster : Int16) (ordinal : Nat) : RecordId :=
  ⟨cluster, Int64.ofInt (-2 - ordinal)⟩

/-- Which creation of its batch a placeholder stands for. -/
def temporaryOrdinal? (id : RecordId) : Option Nat :=
  if id.isTemporary then some (-2 - id.position.toInt).toNat else none

/-- The text of an identity. -/
def text (id : RecordId) : String :=
  "#" ++ Numeral.format id.cluster.toInt ++ ":" ++ Numeral.format id.position.toInt

/-- What stands before and after the first colon. -/
def splitColon? : List Char → Option (List Char × List Char)
  | [] => none
  | c :: rest =>
    if c = ':' then some ([], rest) else (splitColon? rest).map fun (a, b) => (c :: a, b)

/-- Reads the text of an identity. The number sign may be missing, and blanks may stand around
both numbers. -/
def parse? (text : String) : Option RecordId := do
  let body := match text.toList with
    | '#' :: rest => rest
    | chars => chars
  let (cluster, position) ← splitColon? body
  let cluster ← Numeral.parseInt16? (Text.trim (String.ofList cluster))
  let position ← Numeral.parseInt64? (Text.trim (String.ofList position))
  some ⟨cluster, position⟩

end RecordId

end RecordBase
