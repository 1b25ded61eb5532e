import FactoryBlueprint.Number.Binary64
import FactoryBlueprint.Document.Fields

/-! # Documents

A document is the tree that a blueprint string carries: nothing, truth values, numbers, texts,
arrays and objects. A number without fraction and exponent stays an integer; integers and fractional
numbers are different values. The fields of an object are kept in key order.

`Document.same` is the equality of documents. It compares fractional numbers by value.
-/

namespace FactoryBlueprint

inductive Document where
  | null
  | bool (value : Bool)
  /-- A whole number written without fraction or exponent, within 64 bits. -/
  | integer (value : Int)
  /-- A finite number written with a fraction or an exponent. -/
  | number (value : Binary64)
  | text (value : String)
  | array (items : List Document)
  | object (fields : List (String × Document))
  deriving Inhabited

namespace Document

/-- A number as a document. There is no way to write an infinity or `nan`. -/
def ofNumber (x : Binary64) : Document := if x.isFinite then .number x else .null

/-- A natural number as a document. -/
def ofNat (n : Nat) : Document := .integer n

/-- An object with the given fields, in any order. -/
def ofFields (bindings : List (String × Document)) : Document := .object (Fields.ofList bindings)

/-- The document, or `null` where there is none. -/
def ofOption {α : Type} (write : α → Document) : Option α → Document
  | none => .null
  | some a => write a

/-- The fields of an object; nothing else has any. -/
def fields : Document → Fields Document
  | .object fields => fields
  | _ => []

/-- The value of a field of an object. -/
def field? (document : Document) (key : String) : Option Document := document.fields.lookup key

/-- The natural number that an integer is. -/
def natural? : Document → Option Nat
  | .integer n => if 0 ≤ n then some n.toNat else none
  | _ => none

mutual

/-- Equality of documents, numbers by value. -/
def same : Document → Document → Bool
  | .null, .null => true
  | .bool a, .bool b => a == b
  | .integer a, .integer b => a == b
  | .number a, .number b => a.sameValue b
  | .text a, .text b => a == b
  | .array as, .array bs => sameItems as bs
  | .object as, .object bs => sameFields as bs
  | _, _ => false

def sameItems : List Document → List Document → Bool
  | [], [] => true
  | a :: as, b :: bs => same a b && sameItems as bs
  | _, _ => false

/-- Equality of fields: the same keys with the same values. -/
def sameFields : List (String × Document) → List (String × Document) → Bool
  | [], [] => true
  | (k, a) :: as, (l, b) :: bs => k == l && same a b && sameFields as bs
  | _, _ => false

end

instance : BEq Document := ⟨same⟩

end Document
end FactoryBlueprint
