import FactoryBlueprint.Connections.Basic
import FactoryBlueprint.Document.Reader

/-! # Wires in documents

A document names the far end of a wire by the number of the entity there. Wires are kept under the
terminals `1`, `2`, `Cu0` and `Cu1`, and by colour within the first two.
-/

namespace FactoryBlueprint

/-- A far end as it is written, with `key` naming the number of its terminal. -/
def WireEnd.write (key : String) (far : WireEnd Nat) : Document :=
  .ofFields (("entity_id", .ofNat far.target) ::
    (far.terminal.map fun terminal => (key, Document.ofNat terminal)).toList)

def WireEnd.read (type key : String) : Reader (WireEnd Nat) :=
  Reader.record type ["entity_id", key] fun entries =>
    WireEnd.mk <$> entries.required "entity_id" (Reader.natural 64) <*>
      entries.optional key (Reader.natural 8)

/-- A field for a value that may be absent. -/
def Document.optionalField {α : Type} (key : String) (write : α → Document) (value : Option α) :
    List (String × Document) :=
  (value.map fun a => (key, write a)).toList

/-- The red and green wires at one terminal. -/
structure CircuitRecord where
  red : Option (List (WireEnd Nat))
  green : Option (List (WireEnd Nat))
  deriving DecidableEq

namespace CircuitRecord

def empty : CircuitRecord := ⟨none, none⟩

def points (circuit : CircuitRecord) : WireColor → Option (List (WireEnd Nat))
  | .red => circuit.red
  | .green => circuit.green

def read : Reader CircuitRecord :=
  let points := Reader.list (WireEnd.read "CircuitPointRecord" "circuit_id")
  Reader.record "CircuitRecord" ["red", "green"] fun entries =>
    CircuitRecord.mk <$> entries.optional "red" points <*> entries.optional "green" points

def write (circuit : CircuitRecord) : Document :=
  let points (ends : List (WireEnd Nat)) := Document.array (ends.map (·.write "circuit_id"))
  .ofFields (Document.optionalField "red" points circuit.red ++
    Document.optionalField "green" points circuit.green)

end CircuitRecord

/-- All wires of an entity. -/
structure ConnectionsRecord where
  input : Option CircuitRecord
  output : Option CircuitRecord
  copperLeft : Option (List (WireEnd Nat))
  copperRight : Option (List (WireEnd Nat))
  deriving DecidableEq

namespace ConnectionsRecord

def empty : ConnectionsRecord := ⟨none, none, none, none⟩

def isEmpty (record : ConnectionsRecord) : Bool :=
  record.input.isNone && record.output.isNone && record.copperLeft.isNone &&
    record.copperRight.isNone

def circuit (record : ConnectionsRecord) : CircuitSide → Option CircuitRecord
  | .input => record.input
  | .output => record.output

def copper (record : ConnectionsRecord) : CopperSide → Option (List (WireEnd Nat))
  | .left => record.copperLeft
  | .right => record.copperRight

def read : Reader ConnectionsRecord :=
  let points := Reader.list (WireEnd.read "CopperPointRecord" "wire_id")
  Reader.record "ConnectionsRecord" ["1", "2", "Cu0", "Cu1"] fun entries =>
    ConnectionsRecord.mk <$> entries.optional "1" CircuitRecord.read <*>
      entries.optional "2" CircuitRecord.read <*> entries.optional "Cu0" points <*>
      entries.optional "Cu1" points

def write (record : ConnectionsRecord) : Document :=
  let points (ends : List (WireEnd Nat)) := Document.array (ends.map (·.write "wire_id"))
  .ofFields (Document.optionalField "1" CircuitRecord.write record.input ++
    Document.optionalField "2" CircuitRecord.write record.output ++
    Document.optionalField "Cu0" points record.copperLeft ++
    Document.optionalField "Cu1" points record.copperRight)

end ConnectionsRecord
end FactoryBlueprint
