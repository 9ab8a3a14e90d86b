import RecordBase.Bytes.Endian

/-!
# Commands and their values

What a client asks for in words, and the scalar or list that it may get back.
-/

namespace RecordBase

/-- A command with a limit on the number of its results. -/
structure CommandRequest where
  text : String
  /-- The most results wanted; no limit if negative. -/
  limit : Int32 := -1
  deriving DecidableEq, Repr

/-- The most results wanted, if there is a limit. -/
def CommandRequest.maxResults? (request : CommandRequest) : Option Nat :=
  if 0 ≤ request.limit then some request.limit.toInt.toNat else none

/-- A scalar or a list. -/
inductive CommandValue where
  | null
  | bool (value : Bool)
  | integer (value : Int64)
  /-- A floating-point number, by the 64 bits of its IEEE 754 form. -/
  | float (bits : UInt64)
  | text (value : String)
  | bytes (value : Bytes)
  | list (items : List CommandValue)
  /-- The text of a record's identity. -/
  | identity (text : String)
  deriving Repr

end RecordBase
