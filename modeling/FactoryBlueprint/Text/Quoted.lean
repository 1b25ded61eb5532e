import FactoryBlueprint.Text.Unprintable

/-! # Text inside messages

Messages show a text or a list of texts between double quotes, with a quote, a backslash and every
character that could not be seen escaped.
-/

namespace FactoryBlueprint.Quoted

/-- The digits of `n` in base sixteen, lower case. -/
def hex (n : Nat) : String := String.ofList (Nat.toDigits 16 n)

/-- How a character is written between quotes. -/
def escape (c : Char) : String :=
  if c = '"' then "\\\""
  else if c = '\\' then "\\\\"
  else if c = '\n' then "\\n"
  else if c = '\r' then "\\r"
  else if c = '\t' then "\\t"
  else if c.toNat = 0 then "\\0"
  else if c.toNat < 0x20 || c.toNat = 0x7F || (0x80 ≤ c.toNat && Unprintable.contains c) then
    "\\u\x7b" ++ hex c.toNat ++ "\x7d"
  else c.toString

/-- A text between quotes. -/
def text (s : String) : String := "\"" ++ String.join (s.toList.map escape) ++ "\""

/-- A list of texts, each between quotes. -/
def texts (ss : List String) : String := "[" ++ ", ".intercalate (ss.map text) ++ "]"

end FactoryBlueprint.Quoted
