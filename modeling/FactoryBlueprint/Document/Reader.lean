import FactoryBlueprint.Document.Mismatch

/-! # Reading values out of documents

A `Reader` reads a document as a value or says why it cannot.

A record is read field by field. Its fields are visited in the order in which the document holds
them, and the first one with a bad value is the fault; only then come the fields that are missing,
in the order in which the type declares them. To read each field once and still report the right
fault, every fault carries its rank in that order (`Fault`), and of two faults the lower ranked is
kept (`Reading`).
-/

namespace FactoryBlueprint

-- Powers are those of the core library wherever this is imported.
attribute [local instance (high)] instPowNat

/-- Reads a document as a value. -/
abbrev Reader (α : Type) := Document → Except Mismatch α

/-- A mismatch with its place in the order of visiting. -/
structure Fault where
  rank : Nat
  cause : Mismatch

/-- A part of a record, or the first fault among the fields that it is read from. -/
def Reading (α : Type) := Except Fault α

namespace Reading

variable {α β : Type}

/-- The first of two faults. -/
def first (a b : Fault) : Fault := if b.rank < a.rank then b else a

protected def map (f : α → β) : Reading α → Reading β
  | .ok a => .ok (f a)
  | .error fault => .error fault

protected def seq (f : Reading (α → β)) (a : Reading α) : Reading β :=
  match f, a with
  | .ok f, .ok a => .ok (f a)
  | .error fault, .ok _ => .error fault
  | .ok _, .error fault => .error fault
  | .error fault, .error other => .error (first fault other)

instance : Applicative Reading where
  pure a := .ok a
  map f a := a.map f
  seq f a := Reading.seq f (a ())

/-- A value that is already known. -/
def ofValue (a : α) : Reading α := .ok a

end Reading

/-- The fields of a record as they are visited. -/
structure Entries where
  fields : List (String × Document)
  /-- Name of the type that is read. -/
  type : String
  /-- Names of the fields that the type has, as declared. -/
  declared : List String
  /-- The fields came without names, in the order of declaration. -/
  positional : Bool

namespace Entries

variable {α : Type}

/-- The fault of a field that is not there. -/
def missing (entries : Entries) (name : String) : Fault :=
  let place := entries.declared.idxOf name
  ⟨entries.fields.length + place,
    if entries.positional then
      .wrongLength place s!"struct {entries.type} with {entries.declared.length} elements"
    else .missingField name⟩

/-- Reads a field, if it is there. -/
def field? (entries : Entries) (name : String) (read : Reader α) : Reading (Option α) :=
  match entries.fields.findIdx? (·.1 == name) with
  | none => .ok none
  | some rank =>
    match entries.fields[rank]? with
    | none => .ok none
    | some (_, value) =>
      match read value with
      | .ok a => .ok (some a)
      | .error cause => .error ⟨rank, cause⟩

/-- Reads a field that must be there. -/
def required (entries : Entries) (name : String) (read : Reader α) : Reading α :=
  match entries.field? name read with
  | .ok (some a) => .ok a
  | .ok none => .error (entries.missing name)
  | .error fault => .error fault

/-- Reads a field that may be left out. -/
def withDefault (entries : Entries) (name : String) (default : α) (read : Reader α) : Reading α :=
  (entries.field? name read).map (·.getD default)

/-- Reads a field that may be left out or `null`. -/
def optional (entries : Entries) (name : String) (read : Reader α) : Reading (Option α) :=
  (entries.field? name fun
    | .null => .ok none
    | document => (read document).map some).map Option.join

/-- The fields that the type does not have, in key order. -/
def rest (entries : Entries) : Fields Document :=
  Fields.ofList (Fields.without entries.fields entries.declared)

/-- The first declared field that comes twice. -/
def repeated? (entries : Entries) : Option String :=
  entries.declared.find? fun name => 1 < (entries.fields.filter (·.1 == name)).length

end Entries

namespace Reader

variable {α : Type}

/-- A reader's fault without its rank. -/
def ofReading (reading : Reading α) : Except Mismatch α :=
  match reading with
  | .ok a => .ok a
  | .error fault => .error fault.cause

/-- Reads the named fields of an object. -/
def ofObject (type : String) (declared : List String) (fields : List (String × Document))
    (body : Entries → Reading α) : Except Mismatch α :=
  let entries : Entries := ⟨fields, type, declared, false⟩
  match entries.repeated? with
  | some name => .error (.repeatedField name)
  | none => ofReading (body entries)

/-- Reads a record from an object, or from an array of its fields as declared. -/
def record (type : String) (declared : List String) (body : Entries → Reading α) : Reader α
  | .object fields => ofObject type declared fields body
  | .array items => do
    let a ← ofReading (body ⟨declared.zip items, type, declared, true⟩)
    if declared.length < items.length then
      .error (.wrongLength items.length "fewer elements in array")
    else pure a
  | document => .error (.wrongType document s!"struct {type}")

/-- Reads a record that keeps fields of other names; it is always an object. -/
def openRecord (type : String) (declared : List String) (body : Entries → Reading α) : Reader α
  | .object fields => ofObject type declared fields body
  | document => .error (.wrongType document s!"struct {type}")

/-- Reads any document. -/
def document : Reader Document := .ok

def text : Reader String
  | .text s => .ok s
  | document => .error (.wrongType document "a string")

def bool : Reader Bool
  | .bool b => .ok b
  | document => .error (.wrongType document "a boolean")

/-- Reads a number; an integer is one too. -/
def number : Reader Binary64
  | .number x => .ok x
  | .integer n => .ok (.ofInt n)
  | document => .error (.wrongType document "f64")

/-- Reads an integer from `low` to `high`. -/
def integer (type : String) (low high : Int) : Reader Int
  | .integer n => if low ≤ n ∧ n ≤ high then .ok n else .error (.wrongValue (.integer n) type)
  | document => .error (.wrongType document type)

/-- Reads a natural number of at most `bits` binary digits. -/
def natural (bits : Nat) : Reader Nat := fun document =>
  (integer s!"u{bits}" 0 (2 ^ bits - 1) document).map Int.toNat

/-- Reads an integer of 32 bits. -/
def int32 : Reader Int := integer "i32" (-2147483648) 2147483647

/-- Reads every item of an array. -/
def list (read : Reader α) : Reader (List α)
  | .array items => items.mapM read
  | document => .error (.wrongType document "a sequence")

/-- Reads an array of `length` items. -/
def listOfLength (length : Nat) (read : Reader α) : Reader (List α)
  | .array items => do
    let values ← (items.take length).mapM read
    if items.length < length then
      .error (.wrongLength items.length s!"an array of length {length}")
    else if length < items.length then
      .error (.wrongLength items.length "fewer elements in array")
    else pure values
  | document => .error (.wrongType document s!"an array of length {length}")

/-- Reads every value of an object. -/
def map (read : Reader α) : Reader (Fields α)
  | .object fields => fields.mapM fun (key, value) => do pure (key, ← read value)
  | document => .error (.wrongType document "a map")

/-- Reads nothing. -/
def unit : Reader Unit
  | .null => .ok ()
  | document => .error (.wrongType document "unit")

/-- Reads an array or an object that holds nothing. -/
def empty : Reader Unit
  | .array [] | .object [] => .ok ()
  | document => .error (.wrongType document "unit")

/-- Reads one of several names: a text, or an object that binds the name to what `nothing` reads. -/
def variant (variants : List (String × α)) (nothing : Reader Unit := unit) : Reader α
  | .text name => named name
  | .object [(name, value)] => do
    let a ← named name
    nothing value
    pure a
  | .object fields => .error (.wrongValue (.object fields) "map with a single key")
  | document => .error (.wrongType document "string or map")
where
  named (name : String) : Except Mismatch α :=
    match variants.lookup name with
    | some a => .ok a
    | none => .error (.unknownVariant name (variants.map (·.1)))

end Reader
end FactoryBlueprint
