import RecordBase.Bytes.Utf8
import RecordBase.Cbor.Head

/-!
# Reading data items

Readers of the kinds of data item that a message asks for. Tags before an item are passed over,
except those that make a byte string a number. There is one way to fail.
-/

namespace RecordBase.Cbor

/-- Reads a value from the front of some bytes. -/
abbrev Decoder := StateT Bytes Option

namespace Decoder

variable {α : Type}

/-- Takes a head. -/
def anyHead : Decoder Head := Head.decode

/-- Takes a number of bytes. -/
def take (count : Nat) : Decoder Bytes := Head.split? count

/-- Takes heads up to the first that is no tag, or a tag to be kept; `fuel` heads at most. -/
def headWithin (keep : Nat → Bool) : (fuel : Nat) → Decoder Head
  | 0 => failure
  | fuel + 1 => do
    match ← anyHead with
    | .tag number => if keep number then return .tag number else headWithin keep fuel
    | head => return head

/-- Takes heads up to the first that is no tag, or a tag to be kept. Each takes a byte at least. -/
def headKeeping (keep : Nat → Bool) : Decoder Head := do
  match ← anyHead with
  | .tag number =>
    if keep number then return .tag number else fun rest => headWithin keep rest.length rest
  | head => return head

/-- Takes the head of an item, and the tags before it. -/
def head : Decoder Head := headKeeping fun _ => false

/-! ## Strings -/

/-- The length in a head of a byte string. -/
def bytesLength? : Head → Option (Option Nat)
  | .bytes length => some length
  | _ => none

/-- The length in a head of a text. -/
def textLength? : Head → Option (Option Nat)
  | .text length => some length
  | _ => none

/-- Takes the chunks of a string up to the end of the outermost one, in a string nested `nesting`
deep; `fuel` heads at most. -/
def chunksWithin (length? : Head → Option (Option Nat)) :
    (fuel nesting : Nat) → Decoder (List Bytes)
  | 0, _ => failure
  | fuel + 1, nesting => do
    match ← anyHead with
    | .stop =>
      match nesting with
      | 0 => return []
      | nesting + 1 => chunksWithin length? fuel nesting
    | head =>
      match length? head with
      | none => failure
      | some none => chunksWithin length? fuel (nesting + 1)
      | some (some length) =>
        let first ← take length
        let others ← chunksWithin length? fuel nesting
        return first :: others

/-- Takes the chunks of a string whose head has been read. -/
def chunks (length? : Head → Option (Option Nat)) : Option Nat → Decoder (List Bytes)
  | some length => do return [← take length]
  | none => fun rest => chunksWithin length? rest.length 0 rest

/-- The text of some bytes. -/
def textOf (bytes : Bytes) : Decoder String := liftM (Bytes.toText? bytes)

/-- Takes the bytes of a byte string whose head has been read. -/
def bytesBody (length : Option Nat) : Decoder Bytes := do
  return (← chunks bytesLength? length).flatten

/-- Takes the characters of a text whose head has been read. Each chunk is a text by itself. -/
def textBody (length : Option Nat) : Decoder String := do
  return String.join (← (← chunks textLength? length).mapM textOf)

/-- Takes a text. -/
def text : Decoder String := do
  match ← head with
  | .text length => textBody length
  | _ => failure

/-- The greatest length of a key. -/
def keyLimit : Nat := 4096

/-- Takes the bytes of a key whose length has been read. -/
def keyBody (length : Option Nat) : Decoder Bytes :=
  match length with
  | some length => if length ≤ keyLimit then take length else failure
  | none => failure

/-- Takes the key of a map, as bytes: a text or a byte string of known length. -/
def key : Decoder Bytes := do
  match ← head with
  | .text length =>
    let name ← keyBody length
    let _ ← textOf name
    return name
  | .bytes length => keyBody length
  | _ => failure

/-! ## Numbers and truth values -/

/-- Whether a tag makes a byte string a number. -/
def isNumberTag (number : Nat) : Bool := number = 2 || number = 3

/-- Takes the byte string of a number: at most sixteen bytes after its leading zeros. -/
def magnitude : Decoder Nat := do
  match ← anyHead with
  | .bytes length =>
    let digits := (← bytesBody length).dropWhile (· = 0)
    if digits.length ≤ 16 then return Bytes.ofBigEndian digits else failure
  | _ => failure

/-- Takes a whole number. -/
def integer : Decoder Int := do
  match ← headKeeping isNumberTag with
  | .positive value => return value
  | .negative value => return -1 - value
  | .tag number =>
    let value ← magnitude
    return if number = 2 then value else -1 - value
  | _ => failure

/-- Takes a whole number between two bounds. -/
def integerWithin (least greatest : Int) : Decoder Int := do
  let value ← integer
  if least ≤ value ∧ value ≤ greatest then return value else failure

/-- Takes a floating-point number. -/
def float : Decoder UInt64 := do
  match ← head with
  | .float bits => return bits
  | _ => failure

/-- Takes a truth value. -/
def bool : Decoder Bool := do
  match ← head with
  | .simple code =>
    if code = Head.falseCode then return false
    else if code = Head.trueCode then return true
    else failure
  | _ => failure

/-! ## Arrays and maps -/

/-- Takes the same thing a number of times. -/
def repeated (item : Decoder α) : (count : Nat) → Decoder (List α)
  | 0 => return []
  | count + 1 => do
    let first ← item
    let others ← repeated item count
    return first :: others

/-- Takes the same thing up to the mark of an end; `fuel` times at most. -/
def untilStop (item : Decoder α) : (fuel : Nat) → Decoder (List α)
  | 0 => failure
  | fuel + 1 => fun bytes =>
    match Head.decode bytes with
    | some (.stop, rest) => some ([], rest)
    | _ => (do
      let first ← item
      let others ← untilStop item fuel
      return first :: others : Decoder (List α)) bytes

/-- Takes the same thing as often as the head before says. -/
def items (item : Decoder α) : (count : Option Nat) → Decoder (List α)
  | some count => repeated item count
  | none => fun bytes => untilStop item bytes.length bytes

/-- Whether a code stands for a simple value with a meaning. -/
def isKnownSimple (code : Nat) : Bool :=
  Head.falseCode ≤ code && code ≤ Head.undefinedCode

/-- The greatest length of a byte string that is read as a number while an item is passed over. -/
def shortNumber : Nat := 16

/-- Reads a short byte string as a number. Below zero it has to have 128 bits with its sign. -/
def shortMagnitude (below : Bool) (length : Nat) : Decoder Unit := do
  let value := Bytes.ofBigEndian (← take length)
  if below && 2 ^ 127 ≤ value then failure else return ()

/-- Passes over the item of a tag. A short byte string of known length that the tag makes a number
is no nested item. -/
def skipTagged (inner : Option (Decoder Unit)) (number : Nat) : Decoder Unit := fun bytes =>
  let nested := (inner.getD failure) bytes
  if isNumberTag number then
    match Head.decode bytes with
    | some (.bytes (some length), rest) =>
      if length ≤ shortNumber then shortMagnitude (number = 3) length rest else nested
    | _ => nested
  else nested

/-- Passes over an item; `inner` passes over those nested in it, unless none may be. -/
def skipItem (inner : Option (Decoder Unit)) : Decoder Unit := do
  match ← anyHead, inner with
  | .positive _, _ | .negative _, _ | .float _, _ => return ()
  | .simple code, _ => if isKnownSimple code then return () else failure
  | .bytes length, _ => let _ ← bytesBody length
  | .text length, _ => let _ ← textBody length
  | .array count, some inner => let _ ← items inner count
  | .map count, some inner => let _ ← items (do inner; inner) count
  | .tag number, inner => skipTagged inner number
  | _, _ => failure

/-- Passes over an item, in which `depth` levels may be nested. -/
def skip : (depth : Nat) → Decoder Unit
  | 0 => skipItem none
  | depth + 1 => skipItem (some (skip depth))

end Decoder

end RecordBase.Cbor
