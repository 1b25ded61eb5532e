import FactoryBlueprint.DataFile.Ron.Token
import FactoryBlueprint.DataFile.Scalar
import FactoryBlueprint.DataFile.Shape

/-! # RON

A notation with lists `[...]`, tuples and records `(...)`, words that may name what follows them,
and comments. What is written is first read as a `Ron` and then, by the shape of what is expected,
as a document. Fields that are not expected are passed over if they hold something well written.

A text may start by enabling extensions, one of which allows a shorter form of optional values.
-/

namespace FactoryBlueprint

-- Powers are those of the core library wherever this is imported.
attribute [local instance (high)] instPowNat

inductive Ron where
  /-- A number or a name. -/
  | word (letters : List Char)
  | rawName (letters : List Char)
  | text (value : String)
  | character
  | list (items : List Ron)
  | tuple (items : List Ron)
  | record (fields : List (String × Ron))
  | dictionary (entries : List (Ron × Ron))
  /-- A name before a tuple or a record. -/
  | named (isRaw : Bool) (letters : List Char) (value : Ron)
  deriving Inhabited

namespace Ron

/-! ### Structure -/

/-- The tokens after a comma, or the tokens themselves before the closing mark. -/
def afterItem? (closing : Char) : List Token → Option (List Token)
  | .mark ',' :: rest => some rest
  | .mark c :: rest => if c = closing then some (.mark c :: rest) else none
  | _ => none

mutual

/-- Reads a value from the front. Every step takes a token, so `fuel` of their number is enough. -/
def value? : Nat → List Token → Option (Ron × List Token)
  | 0, _ => none
  | _ + 1, .text s :: rest => some (.text s, rest)
  | _ + 1, .character :: rest => some (.character, rest)
  | fuel + 1, .word w :: .mark '(' :: rest => do
    let (value, rest) ← body? fuel rest
    some (.named false w value, rest)
  | _ + 1, .word w :: rest => some (.word w, rest)
  | fuel + 1, .rawName w :: .mark '(' :: rest => do
    let (value, rest) ← body? fuel rest
    some (.named true w value, rest)
  | _ + 1, .rawName w :: rest => some (.rawName w, rest)
  | fuel + 1, .mark '(' :: rest => body? fuel rest
  | fuel + 1, .mark '[' :: rest =>
    (items? fuel ']' rest).map fun (items, rest) => (.list items, rest)
  | fuel + 1, .mark '\x7b' :: rest =>
    (entries? fuel rest).map fun (entries, rest) => (.dictionary entries, rest)
  | _, _ => none

/-- Reads a tuple or a record after its opening mark. -/
def body? : Nat → List Token → Option (Ron × List Token)
  | 0, _ => none
  | fuel + 1, key :: .mark ':' :: rest =>
    (fields? fuel (key :: .mark ':' :: rest)).map fun (fields, rest) => (.record fields, rest)
  | fuel + 1, tokens =>
    (items? fuel ')' tokens).map fun (items, rest) => (.tuple items, rest)

/-- Reads values up to a closing mark. -/
def items? : Nat → Char → List Token → Option (List Ron × List Token)
  | 0, _, _ => none
  | fuel + 1, closing, tokens =>
    match tokens with
    | .mark c :: rest =>
      if c = closing then some ([], rest) else item? fuel closing (.mark c :: rest)
    | tokens => item? fuel closing tokens

/-- Reads a value and those after it. -/
def item? : Nat → Char → List Token → Option (List Ron × List Token)
  | 0, _, _ => none
  | fuel + 1, closing, tokens => do
    let (value, rest) ← value? fuel tokens
    let rest ← afterItem? closing rest
    let (values, rest) ← items? fuel closing rest
    some (value :: values, rest)

/-- Reads named fields up to the end of a record. -/
def fields? : Nat → List Token → Option (List (String × Ron) × List Token)
  | 0, _ => none
  | _ + 1, .mark ')' :: rest => some ([], rest)
  | fuel + 1, key :: .mark ':' :: rest => do
    let name ← key.name?
    let (value, rest) ← value? fuel rest
    let rest ← afterItem? ')' rest
    let (fields, rest) ← fields? fuel rest
    some ((name, value) :: fields, rest)
  | _, _ => none

/-- Reads keys with values up to the end of a dictionary. -/
def entries? : Nat → List Token → Option (List (Ron × Ron) × List Token)
  | 0, _ => none
  | _ + 1, .mark '\x7d' :: rest => some ([], rest)
  | fuel + 1, tokens => do
    let (key, rest) ← value? fuel tokens
    match rest with
    | .mark ':' :: rest =>
      let (value, rest) ← value? fuel rest
      let rest ← afterItem? '\x7d' rest
      let (entries, rest) ← entries? fuel rest
      some ((key, value) :: entries, rest)
    | _ => none

end

/-! ### Extensions -/

inductive Extension where
  /-- A value that is there may be written without `Some`. -/
  | implicitSome
  /-- Types that wrap a single value need not be written; no entry has any. -/
  | unwrapNewtypes
  | unwrapVariantNewtypes
  deriving DecidableEq

namespace Extension

/-- Every extension with its name. -/
def names : List (String × Extension) :=
  [("implicit_some", .implicitSome), ("unwrap_newtypes", .unwrapNewtypes),
    ("unwrap_variant_newtypes", .unwrapVariantNewtypes)]

/-- The extension that a token names. -/
def ofToken? (token : Token) : Option Extension := do names.lookup (← token.name?)

/-- Reads names of extensions and the end of their list. -/
def list? : List Token → Option (List Extension × List Token)
  | name :: .mark ',' :: .mark ')' :: .mark ']' :: rest
  | name :: .mark ')' :: .mark ']' :: rest => (ofToken? name).map ([·], rest)
  | name :: .mark ',' :: rest => do
    let extension ← ofToken? name
    let (extensions, rest) ← list? rest
    some (extension :: extensions, rest)
  | _ => none

/-- Reads the lists of extensions in front. Every list takes a token, so `fuel` of their number is
enough. -/
def lists? : Nat → List Token → Option (List Extension × List Token)
  | fuel + 1, .mark '#' :: rest =>
    match rest with
    | .mark '!' :: .mark '[' :: .word letters :: .mark '(' :: rest => do
      guard (String.ofList letters = "enable")
      let (extensions, rest) ← list? rest
      let (more, rest) ← lists? fuel rest
      some (extensions ++ more, rest)
    | _ => none
  | _, tokens => some ([], tokens)

end Extension

/-- Reads a whole text. -/
def parse? (cs : List Char) : Option (List Extension × Ron) := do
  let tokens ← tokens? cs
  let (extensions, tokens) ← Extension.lists? tokens.length tokens
  match ← value? (4 * tokens.length + 1) tokens with
  | (value, []) => some (extensions, value)
  | _ => none

/-! ### Numbers -/

/-- The digits of an integer in a base; `_` may stand after any of them. -/
def digits? (base : Nat) (cs : List Char) : Option Nat :=
  if cs.head? = some '_' then none else Scalar.digitsInBase? base (Scalar.withoutSeparators cs)

/-- An integer without a sign. -/
def natural? (cs : List Char) : Option Nat :=
  let (base, digits) := Scalar.base cs
  digits? base digits

/-- A number, as it is written where one is expected. -/
def number? (cs : List Char) : Option Binary64 :=
  let (negative, unsigned) := Scalar.sign cs
  if unsigned = ['i', 'n', 'f'] then some (.infinite negative)
  else if unsigned = ['N', 'a', 'N'] then some .nan
  else Scalar.number? cs

/-- True of an integer that fits 64 bits. One with a sign takes a bit for it. -/
def isInteger (cs : List Char) : Bool :=
  let (negative, unsigned) := Scalar.sign cs
  match natural? unsigned with
  | none => false
  | some n =>
    n < if cs = unsigned then 2 ^ (64 : Nat)
      else if negative then 2 ^ (63 : Nat) + 1 else 2 ^ (63 : Nat)

/-! ### Values that are passed over -/

/-- The most lists, records, items and fields that may lie around a value. -/
def maxDepth : Nat := 128

/-- Words that stand for a value by themselves. -/
def constants : List String := ["true", "false", "None", "inf", "NaN"]

/-- The word before the value of an option. -/
def someWord : String := "Some"

mutual

/-- True of a value that is well written, with room for so many levels in it. -/
def isWellWritten : Nat → Ron → Bool
  | _, .text _ | _, .character | _, .rawName _ => true
  | _, .word letters =>
    (Token.isName letters && String.ofList letters ≠ someWord) || isInteger letters ||
      (number? letters).isSome
  | room + 1, .named false letters value =>
    if String.ofList letters = someWord then
      match value with
      | .tuple [item] => isWellWritten room item
      | _ => false
    else
      Token.isName letters && !constants.contains (String.ofList letters) &&
        isWellWritten (room + 1) value
  | room, .named true _ value => isWellWritten room value
  | room + 1, .list items | room + 1, .tuple items => areWellWritten room items
  | room + 1, .record fields => fieldsWellWritten room fields
  | room + 1, .dictionary entries => entriesWellWritten room entries
  | 0, _ => false

def areWellWritten : Nat → List Ron → Bool
  | _, [] => true
  | 0, _ => false
  | room + 1, item :: rest => isWellWritten room item && areWellWritten (room + 1) rest

def fieldsWellWritten : Nat → List (String × Ron) → Bool
  | _, [] => true
  | 0, _ => false
  | room + 1, (_, value) :: rest => isWellWritten room value && fieldsWellWritten (room + 1) rest

def entriesWellWritten : Nat → List (Ron × Ron) → Bool
  | _, [] => true
  | 0, _ => false
  | room + 1, (key, value) :: rest =>
    isWellWritten room key && isWellWritten room value && entriesWellWritten (room + 1) rest

end

/-! ### Documents -/

/-- A word as a document of the expected shape. -/
def wordDocument? : Shape → List Char → Option Document
  | .bool, w =>
    if w = ['t', 'r', 'u', 'e'] then some (.bool true)
    else if w = ['f', 'a', 'l', 's', 'e'] then some (.bool false)
    else none
  | .natural, w => (natural? w).map fun n => .integer n
  | .number, w => (number? w).map .number
  | .variant, w => some (.text (String.ofList w))
  | _, _ => none

/-- The shape of a value that is written without `Some`. -/
def bareShape? (extensions : List Extension) (shape : Shape) : Option Shape :=
  if shape.isOptional && !extensions.contains .implicitSome then none else some shape.present

mutual

/-- What is written, as a document of the expected shape, with room for so many levels in it. -/
def document? (extensions : List Extension) : Nat → Shape → Ron → Option Document
  | _, shape, .word letters =>
    if shape.isOptional && letters = ['N', 'o', 'n', 'e'] then some .null
    else (bareShape? extensions shape).bind fun shape => wordDocument? shape letters
  | _, shape, .rawName letters =>
    match bareShape? extensions shape with
    | some .variant => some (.text (String.ofList letters))
    | _ => none
  | _, shape, .text s =>
    match bareShape? extensions shape with
    | some .text => some (.text s)
    | _ => none
  | room + 1, shape, .list items =>
    match bareShape? extensions shape with
    | some (.list item) => (documents? extensions room item items).map .array
    | _ => none
  | room + 1, shape, .tuple items =>
    match bareShape? extensions shape with
    | some (.tuple item) => (documents? extensions room item items).map .array
    | _ => none
  | room + 1, shape, .record fields =>
    match bareShape? extensions shape with
    | some (.record _ shapes) => (fieldDocuments? extensions room shapes fields).map .object
    | _ => none
  | room + 1, shape, .named isRaw letters value =>
    if shape.isOptional && !isRaw && String.ofList letters = someWord then
      match value with
      | .tuple [item] => document? extensions room shape.present item
      | _ => none
    else
      match bareShape? extensions shape, value with
      | some (.record type shapes), .record fields =>
        if String.ofList letters = type then
          (fieldDocuments? extensions room shapes fields).map .object
        else none
      | _, _ => none
  | _, _, _ => none

def documents? (extensions : List Extension) : Nat → Shape → List Ron → Option (List Document)
  | _, _, [] => some []
  | 0, _, _ => none
  | room + 1, shape, item :: rest => do
    let document ← document? extensions room shape item
    let documents ← documents? extensions (room + 1) shape rest
    some (document :: documents)

/-- The fields that are expected. -/
def fieldDocuments? (extensions : List Extension) :
    Nat → List (String × Shape) → List (String × Ron) → Option (List (String × Document))
  | _, _, [] => some []
  | 0, _, _ => none
  | room + 1, shapes, (key, value) :: rest => do
    let documents ← fieldDocuments? extensions (room + 1) shapes rest
    match shapes.lookup key with
    | none => if isWellWritten room value then some documents else none
    | some shape =>
      let document ← document? extensions room shape value
      some ((key, document) :: documents)

end

/-- Reads a whole text as a document of the expected shape. -/
def read? (shape : Shape) (text : String) : Option Document := do
  let (extensions, ron) ← parse? text.toList
  document? extensions maxDepth shape ron

end Ron
end FactoryBlueprint
