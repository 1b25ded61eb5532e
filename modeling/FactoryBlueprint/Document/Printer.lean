import FactoryBlueprint.Number.Decimal
import FactoryBlueprint.Document.Basic

/-! # Writing documents

Documents are written without blanks, fields in key order. A text escapes the quote, the backslash
and control characters; everything else stands for itself.
-/

namespace FactoryBlueprint.Document

/-- The last digit of a number in base sixteen, lower case. -/
def hexDigit (n : Nat) : Char := (Nat.digitChar (n % 16))

/-- How a character is written within a text. -/
def escape (c : Char) : List Char :=
  if c = '"' then ['\\', '"']
  else if c = '\\' then ['\\', '\\']
  else if c = '\x08' then ['\\', 'b']
  else if c = '\x0c' then ['\\', 'f']
  else if c = '\n' then ['\\', 'n']
  else if c = '\r' then ['\\', 'r']
  else if c = '\t' then ['\\', 't']
  else if c.toNat < 0x20 then ['\\', 'u', '0', '0', hexDigit (c.toNat / 16), hexDigit c.toNat]
  else [c]

/-- A text between quotes. -/
def quoted (s : String) : List Char := '"' :: s.toList.flatMap escape ++ ['"']

/-- The digits of an integer. -/
def digits (n : Int) : List Char := (toString n).toList

mutual

/-- The characters of a written document. -/
def chars : Document → List Char
  | .null => "null".toList
  | .bool value => (if value then "true" else "false").toList
  | .integer value => digits value
  | .number value => (NumberLayout.document.render value).toList
  | .text value => quoted value
  | .array [] => ['[', ']']
  | .array (item :: rest) => '[' :: (chars item ++ (charsOfItems rest ++ [']']))
  | .object [] => ['\x7b', '\x7d']
  | .object ((key, value) :: rest) =>
    '\x7b' :: (quoted key ++ ':' :: (chars value ++ (charsOfFields rest ++ ['\x7d'])))

/-- Items after the first, each after a comma. -/
def charsOfItems : List Document → List Char
  | [] => []
  | item :: rest => ',' :: (chars item ++ charsOfItems rest)

/-- Fields after the first, each after a comma. -/
def charsOfFields : List (String × Document) → List Char
  | [] => []
  | (key, value) :: rest => ',' :: (quoted key ++ ':' :: (chars value ++ charsOfFields rest))

end

/-- The written document. -/
def render (document : Document) : String := String.ofList document.chars

end FactoryBlueprint.Document
