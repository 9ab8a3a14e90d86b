import RecordBase.Text.Ranges

/-!
# Blank space

The characters with the Unicode property White_Space, what a text is without the blanks at its
ends, and the words between blanks.
-/

namespace RecordBase.Text

/-- The code points with the property White_Space. -/
def blankRanges : List (Nat × Nat) := [
  (0x9, 0xd), (0x20, 0x20), (0x85, 0x85), (0xa0, 0xa0), (0x1680, 0x1680), (0x2000, 0x200a),
  (0x2028, 0x2029), (0x202f, 0x202f), (0x205f, 0x205f), (0x3000, 0x3000)]

/-- Whether a character is blank space. -/
def isBlank (c : Char) : Bool := inRanges blankRanges c.toNat

/-- The characters left when blanks are dropped from the front. -/
def trimStartChars (chars : List Char) : List Char := chars.dropWhile isBlank

/-- The characters left when blanks are dropped from both ends. -/
def trimChars (chars : List Char) : List Char :=
  (trimStartChars (trimStartChars chars).reverse).reverse

/-- A text without the blanks at its ends. -/
def trim (text : String) : String := String.ofList (trimChars text.toList)

/-- A text without the blanks at its front. -/
def trimStart (text : String) : String := String.ofList (trimStartChars text.toList)

/-- The words of some characters, given the characters of the word read so far, last one first. -/
def wordsAfter (word : List Char) : List Char → List String
  | [] => if word.isEmpty then [] else [String.ofList word.reverse]
  | c :: rest =>
    if isBlank c then
      (if word.isEmpty then [] else [String.ofList word.reverse]) ++ wordsAfter [] rest
    else wordsAfter (c :: word) rest

/-- The words of a text: its longest parts without blanks. -/
def words (text : String) : List String := wordsAfter [] text.toList

end RecordBase.Text
