/-!
# JSON values

Values of JSON as far as settings need them: the value of a number only if it is written as plain
digits, and the text of a string only if its escapes make up whole characters.
-/

namespace RecordBase

/-- A value of JSON. -/
inductive JsonValue where
  | null
  | bool (value : Bool)
  /-- A number, and its value if it is written as digits alone. -/
  | number (natural : Option Nat)
  /-- A string, and its text unless an escape leaves half of a surrogate pair. -/
  | string (text : Option String)
  | array (items : List JsonValue)
  | object (members : List (Option String × JsonValue))

namespace JsonValue

/-- The value of a number below `2 ^ 64`. -/
def word? : JsonValue → Option Nat
  | number (some value) => if value < 2 ^ 64 then some value else none
  | _ => none

/-- The value of a truth value. -/
def bool? : JsonValue → Option Bool
  | bool value => some value
  | _ => none

/-- The text of a string. -/
def text? : JsonValue → Option String
  | string text => text
  | _ => none

/-- The text of a string, or nothing where null stands. -/
def textOrNull? : JsonValue → Option (Option String)
  | null => some none
  | value => value.text?.map some

/-- The members of an object with their names, if all names are texts. -/
def named? : List (Option String × JsonValue) → Option (List (String × JsonValue))
  | [] => some []
  | (some name, value) :: rest => (named? rest).map ((name, value) :: ·)
  | (none, _) :: _ => none

/-- The fields of a structure with the given field names. It is written as an object, in which
other members are passed over and no field may stand twice, or as an array of the first fields in
order. -/
def fields? (names : List String) : JsonValue → Option (List (String × JsonValue))
  | object members => do
    let known := (← named? members).filter fun member => names.contains member.1
    if (known.map (·.1)).Nodup then some known else none
  | array items => if items.length ≤ names.length then some (names.zip items) else none
  | _ => none

end JsonValue

end RecordBase
