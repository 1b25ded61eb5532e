import FactoryBlueprint.DataFile.Shape
import FactoryBlueprint.Document.Parser

/-! # JSON

What is written is first read as a `Json`, whose numbers and texts stay as they are spelled, and
then, by the shape of what is expected, as a document. Fields that are not expected are passed over:
they must be well written, but their numbers may lie beyond the range, their texts may hold halves
of surrogate pairs, and they may nest to any depth.
-/

namespace FactoryBlueprint

inductive Json where
  /-- A quoted text, a number or a constant, as it is spelled. -/
  | leaf (spelling : List Char)
  | array (items : List Json)
  | object (fields : List (List Char × Json))
  deriving Inhabited

namespace Json

/-! ### Tokens -/

inductive Token where
  | mark (c : Char)
  | leaf (spelling : List Char)
  deriving DecidableEq

/-- Where a scan stands. Characters of an unfinished token are kept last first. -/
inductive Scan where
  | between
  | word (read : List Char)
  | quoted (read : List Char)
  | escape (read : List Char)
  /-- Within a code unit of which `left` digits are to come. -/
  | unit (read : List Char) (left : Nat)

namespace Scan

/-- True of the words that are spelled as constants and numbers are. -/
def isSpelling (word : List Char) : Bool :=
  word = ['t', 'r', 'u', 'e'] || word = ['f', 'a', 'l', 's', 'e'] || word = ['n', 'u', 'l', 'l'] ||
    (Numeral.parse? word).isSome

/-- The state and the token, if any, after a character outside every token. -/
def start (c : Char) : Option (Scan × List Token) :=
  if FactoryBlueprint.Token.isSeparator c then some (.between, [])
  else if c = '"' then some (.quoted [c], [])
  else if FactoryBlueprint.Token.isWordChar c then some (.word [c], [])
  else (FactoryBlueprint.Token.punctuation? c).map fun _ => (.between, [.mark c])

/-- The state after one more character, and the tokens that it completes. -/
def step (scan : Scan) (c : Char) : Option (Scan × List Token) :=
  match scan with
  | .between => start c
  | .word read =>
    if FactoryBlueprint.Token.isWordChar c then some (.word (c :: read), [])
    else if isSpelling read.reverse then
      (start c).map fun (next, tokens) => (next, .leaf read.reverse :: tokens)
    else none
  | .quoted read =>
    if c = '"' then some (.between, [.leaf (c :: read).reverse])
    else if c = '\\' then some (.escape (c :: read), [])
    else if c.toNat < 0x20 then none
    else some (.quoted (c :: read), [])
  | .escape read =>
    if c = 'u' then some (.unit (c :: read) 4, [])
    else (Scanner.escaped? c).map fun _ => (.quoted (c :: read), [])
  | .unit read left =>
    (Scanner.hexDigit? c).map fun _ =>
      (if left = 1 then .quoted (c :: read) else .unit (c :: read) (left - 1), [])

/-- The last token, if the text may end here. -/
def finish? : Scan → Option (List Token)
  | .between => some []
  | .word read => if isSpelling read.reverse then some [.leaf read.reverse] else none
  | _ => none

/-- One character of a scan that has completed the tokens `done`, last first. -/
def advance (scan : Scan × List Token) (c : Char) : Option (Scan × List Token) := do
  let (next, tokens) ← scan.1.step c
  pure (next, tokens.reverse ++ scan.2)

end Scan

/-- The tokens of a text. -/
def tokens? (cs : List Char) : Option (List Token) := do
  let (scan, done) ← cs.foldlM Scan.advance (.between, [])
  let last ← scan.finish?
  pure (done.reverse ++ last)

/-! ### Structure -/

/-- True of the spellings of texts. -/
def isQuoted (spelling : List Char) : Bool := spelling.head? = some '"'

mutual

/-- Reads a value from the front. Every step takes a token, so `fuel` of their number is enough. -/
def value? : Nat → List Token → Option (Json × List Token)
  | 0, _ => none
  | _ + 1, .leaf spelling :: rest => some (.leaf spelling, rest)
  | _ + 1, .mark '[' :: .mark ']' :: rest => some (.array [], rest)
  | fuel + 1, .mark '[' :: rest =>
    (items? fuel rest).map fun (items, rest) => (.array items, rest)
  | _ + 1, .mark '\x7b' :: .mark '\x7d' :: rest => some (.object [], rest)
  | fuel + 1, .mark '\x7b' :: rest =>
    (fields? fuel rest).map fun (fields, rest) => (.object fields, rest)
  | _, _ => none

/-- Reads the items of an array and its end. -/
def items? : Nat → List Token → Option (List Json × List Token)
  | 0, _ => none
  | fuel + 1, tokens => do
    match ← value? fuel tokens with
    | (item, .mark ']' :: rest) => some ([item], rest)
    | (item, .mark ',' :: rest) =>
      let (items, rest) ← items? fuel rest
      some (item :: items, rest)
    | _ => none

/-- Reads the fields of an object and its end. -/
def fields? : Nat → List Token → Option (List (List Char × Json) × List Token)
  | fuel + 1, .leaf key :: .mark ':' :: rest => do
    guard (isQuoted key)
    match ← value? fuel rest with
    | (value, .mark '\x7d' :: rest) => some ([(key, value)], rest)
    | (value, .mark ',' :: rest) =>
      let (fields, rest) ← fields? fuel rest
      some ((key, value) :: fields, rest)
    | _ => none
  | _, _ => none

end

/-- Reads a whole text. -/
def parse? (cs : List Char) : Option Json := do
  let tokens ← tokens? cs
  match ← value? (2 * tokens.length + 1) tokens with
  | (value, []) => some value
  | _ => none

/-! ### Documents -/

/-- The document that is spelled, if it has one. -/
def leafDocument? (spelling : List Char) : Option Document :=
  Document.ofChars? spelling

/-- The text of a key, if it is one. -/
def key? (spelling : List Char) : Option String :=
  match leafDocument? spelling with
  | some (.text key) => some key
  | _ => none

mutual

/-- What is written, as a document of the expected shape. -/
def document? (shape : Shape) : Json → Option Document
  | .leaf spelling => leafDocument? spelling
  | .array items =>
    match shape.present with
    | .list item | .tuple item => (documents? item items).map .array
    | .record _ shapes => (placedDocuments? (shapes.map (·.2)) items).map .array
    | _ => none
  | .object fields =>
    match shape.present with
    | .record _ shapes => (fieldDocuments? shapes fields).map .object
    | .variant => (namedDocuments? fields).map .object
    | _ => none

def documents? (shape : Shape) : List Json → Option (List Document)
  | [] => some []
  | item :: rest => do
    let document ← document? shape item
    let documents ← documents? shape rest
    some (document :: documents)

/-- The fields of a record that are written in their order, without their names. -/
def placedDocuments? : List Shape → List Json → Option (List Document)
  | _, [] => some []
  | [], _ => none
  | shape :: shapes, item :: rest => do
    let document ← document? shape item
    let documents ← placedDocuments? shapes rest
    some (document :: documents)

/-- The fields that are expected. -/
def fieldDocuments? (shapes : List (String × Shape)) :
    List (List Char × Json) → Option (List (String × Document))
  | [] => some []
  | (spelling, value) :: rest => do
    let key ← key? spelling
    let documents ← fieldDocuments? shapes rest
    match shapes.lookup key with
    | none => some documents
    | some shape =>
      let document ← document? shape value
      some ((key, document) :: documents)

/-- The name of a variant with nothing in it. -/
def namedDocuments? : List (List Char × Json) → Option (List (String × Document))
  | [(spelling, .leaf value)] => do some [(← key? spelling, ← leafDocument? value)]
  | _ => none

end

/-- Reads a whole text as a document of the expected shape. -/
def read? (shape : Shape) (text : String) : Option Document := do
  document? shape (← parse? text.toList)

end Json
end FactoryBlueprint
