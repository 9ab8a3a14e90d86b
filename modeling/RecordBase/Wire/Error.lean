import RecordBase.Bytes.Hex
import RecordBase.Text.Numeral

/-!
# Why a message cannot be read

A closed transport ends the connection; every other failure is that of one message and leaves the
connection usable.
-/

namespace RecordBase

/-- Why a message cannot be read or sent. -/
inductive WireError where
  /-- The transport ended or failed. -/
  | closed
  /-- A length below minus one. -/
  | invalidLength (length : Int32)
  /-- A length above what the reader accepts, or above what a message can tell. -/
  | tooLong (length : Int32) (limit : UInt64)
  /-- A text that is not UTF-8. -/
  | notText
  | unknownRecordType (tag : UInt8)
  /-- A batch entry that is no creation, update or deletion. -/
  | unknownStatus (tag : UInt8)
  | negativeCount (count : Int32)
  /-- Nothing where something has to be. -/
  | missing (what : String)
  | malformedIdentity (text : String)
  /-- Bytes that do not read as a command or a command's value. -/
  | malformedCommand
  /-- The other side answered with a failure. -/
  | remote (category message : Option String)
  /-- A response that starts neither as a success nor as a failure. -/
  | unexpectedStatus (status : UInt8)
  deriving DecidableEq, Repr

/-- The wording of a failure. -/
def WireError.message : WireError → String
  | closed => "transport error: "
  | invalidLength length => "invalid length prefix " ++ Numeral.format length.toInt
  | tooLong length limit =>
    "length " ++ Numeral.format length.toInt ++ " exceeds the limit of " ++
      Numeral.format limit.toNat ++ " bytes"
  | notText => "string is not valid UTF-8"
  | unknownRecordType tag => "unknown record type 0x" ++ Hex.ofNat 2 tag.toNat
  | unknownStatus tag => "unknown transaction entry status " ++ toString tag.toNat
  | negativeCount count => "negative transaction entry count " ++ Numeral.format count.toInt
  | missing what => "missing " ++ what
  | malformedIdentity text => "invalid record id: " ++ text
  | malformedCommand => "invalid command payload: "
  | remote category message =>
    "server error [" ++ category.getD "unknown" ++ "]: " ++ message.getD "no message"
  | unexpectedStatus status => "unexpected response status " ++ toString status.toNat

end RecordBase
