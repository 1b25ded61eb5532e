import FactoryBlueprint.DataFile.Scalar
import FactoryBlueprint.DataFile.Toml.Moment
import FactoryBlueprint.DataFile.Toml.Node
import FactoryBlueprint.DataFile.Toml.Text

/-! # TOML

A notation in lines: a key with a value, or the header of a table or of a further element of an
array of tables. The lines build up the root table.
-/

namespace FactoryBlueprint.Toml

-- Powers are those of the core library wherever this is imported.
attribute [local instance (high)] instPowNat

/-! ### Numbers -/

/-- True if every `_` stands between two digits. -/
def separatesDigits (isDigit : Char → Bool) : List Char → Bool
  | '_' :: _ => false
  | c :: '_' :: d :: rest => isDigit c && isDigit d && separatesDigits isDigit (d :: rest)
  | [_, '_'] => false
  | _ :: rest => separatesDigits isDigit rest
  | [] => true

/-- An integer, which fits 64 bits. -/
def integer? (n : Int) : Option Document :=
  if -(2 ^ (63 : Nat)) ≤ n ∧ n < 2 ^ (63 : Nat) then some (.integer n) else none

/-- An integer in base 16, 8 or 2. -/
def inBase? (base : Nat) (digits : List Char) : Option Document :=
  if separatesDigits (fun c => (Scanner.hexDigit? c).isSome) digits then
    (Scalar.digitsInBase? base (Scalar.withoutSeparators digits)).bind fun n => integer? n
  else none

/-- A number in base ten. It is an integer if it has neither fraction nor exponent. A number beyond
the range is minus infinity; there is no plus infinity but the one of that name. -/
def decimal? (negative : Bool) (digits : List Char) : Option Document := do
  guard (digits.head?.any Char.isDigit && separatesDigits Char.isDigit digits)
  let numeral ← Numeral.parse? (Scalar.withoutSeparators digits)
  if numeral.fraction.isNone && numeral.exponent.isNone then
    integer? (withSign negative (Numeral.value numeral.whole))
  else
    let value := { numeral with negative := negative }.nearest
    if !negative && !value.isFinite then none else some (.number value)

def number? (word : List Char) : Option Document :=
  let (negative, unsigned) := Scalar.sign word
  if unsigned = ['i', 'n', 'f'] then some (.number (.infinite negative))
  else if unsigned = ['n', 'a', 'n'] then some (.number .nan)
  else
    match Scalar.base unsigned with
    | (10, digits) => decimal? negative digits
    | (base, digits) => if word = unsigned then inBase? base digits else none

/-! ### Values -/

/-- Characters of numbers, truth values and moments. -/
def isWordChar (c : Char) : Bool :=
  c.isAlphanum || c = '_' || c = '+' || c = '-' || c = '.' || c = ':'

/-- What a moment is read as: a table with a field that no entry has. -/
def moment : Document := .object [("moment", .null)]

/-- A number, a truth value or a moment. -/
def word? (cs : List Char) : Option (Document × List Char) :=
  match Moment.moment? cs with
  | some rest => some (moment, rest)
  | none =>
    let word := cs.takeWhile isWordChar
    let document :=
      if word = ['t', 'r', 'u', 'e'] then some (.bool true)
      else if word = ['f', 'a', 'l', 's', 'e'] then some (.bool false)
      else number? word
    document.map (·, cs.dropWhile isWordChar)

/-- The most arrays and tables that may lie around a value. -/
def maxDepth : Nat := 79

mutual

/-- Reads a value from the front, with room for so many levels in it. Every step takes a character,
so `fuel` of their number is enough. -/
def value? : (fuel room : Nat) → List Char → Option (Document × List Char)
  | 0, _, _ => none
  | _ + 1, 0, '[' :: _ | _ + 1, 0, '\x7b' :: _ => none
  | fuel + 1, room + 1, '[' :: rest =>
    (items? fuel room (skipLines false rest)).map fun (items, rest) => (.array items, rest)
  | fuel + 1, room + 1, '\x7b' :: rest =>
    match skipBlanks rest with
    | '\x7d' :: rest => some (.object [], rest)
    | rest => (fields? fuel room [] rest).map fun (fields, rest) =>
      (.object (Node.fieldDocuments fields), rest)
  | _, _, c :: rest => if c = '"' ∨ c = '\'' then do
      let (s, rest) ← text? (c :: rest)
      some (.text s, rest)
    else word? (c :: rest)
  | _, _, [] => none

/-- Reads values up to the end of an array, over several lines. -/
def items? : (fuel room : Nat) → List Char → Option (List Document × List Char)
  | 0, _, _ => none
  | _ + 1, _, ']' :: rest => some ([], rest)
  | fuel + 1, room, cs => do
    let (value, rest) ← value? fuel room cs
    match skipLines false rest with
    | ',' :: rest =>
      let (values, rest) ← items? fuel room (skipLines false rest)
      some (value :: values, rest)
    | ']' :: rest => some ([value], rest)
    | _ => none

/-- Reads the fields of a table within a line. -/
def fields? : (fuel room : Nat) → List (String × Node) → List Char →
    Option (List (String × Node) × List Char)
  | 0, _, _, _ => none
  | fuel + 1, room, fields, cs => do
    let ((path, key), (value, rest)) ← assignment? fuel room cs
    let fields ← Node.assign? key value path fields
    match skipBlanks rest with
    | ',' :: rest => fields? fuel room fields rest
    | '\x7d' :: rest => some (fields, rest)
    | _ => none

/-- Reads a key with its value. -/
def assignment? : (fuel room : Nat) → List Char →
    Option ((List String × String) × (Document × List Char))
  | 0, _, _ => none
  | fuel + 1, room, cs => do
    let (keys, rest) ← path? maxKeys cs
    match rest with
    | '=' :: rest => some (keys, ← value? fuel room (skipBlanks rest))
    | _ => none

end

/-! ### Lines -/

/-- Reads lines into the table at `path`. -/
def lines? : (fuel : Nat) → List String → List (String × Node) → List Char →
    Option (List (String × Node))
  | 0, _, _, _ => none
  | fuel + 1, table, root, cs =>
    match skipLines false cs with
    | [] => some root
    | '[' :: '[' :: rest => do
      let ((path, key), rest) ← path? maxKeys rest
      match rest with
      | ']' :: ']' :: rest =>
        let root ← Node.openElement? path key root
        lines? fuel (path ++ [key]) root (← lineEnd? rest)
      | _ => none
    | '[' :: rest => do
      let ((path, key), rest) ← path? maxKeys rest
      match rest with
      | ']' :: rest =>
        let root ← Node.openTable? path key root
        lines? fuel (path ++ [key]) root (← lineEnd? rest)
      | _ => none
    | rest => do
      let ((path, key), (value, rest)) ← assignment? fuel maxDepth rest
      let root ← Node.within? (Node.assign? key value path) table root
      lines? fuel table root (← lineEnd? rest)

/-- A text without the byte order mark in front. -/
def withoutMark : List Char → List Char
  | '\ufeff' :: rest => rest
  | cs => cs

/-- Reads a whole text as a table. -/
def read? (text : String) : Option (List (String × Document)) := do
  let cs := withoutMark text.toList
  let root ← lines? (2 * cs.length + 3) [] [] cs
  some (Node.fieldDocuments root)

end FactoryBlueprint.Toml
