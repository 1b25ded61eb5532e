import FactoryBlueprint.Connections.Record
import FactoryBlueprint.Error

/-! # Entity numbers

Documents number the entities of a list from 1 in the order of its leaves. A `Numbering` leads from
associations to numbers, to write a document, and back, to read one.
-/

namespace FactoryBlueprint

/-- The keys of a list in the order of their numbers. -/
structure Numbering where
  list : ListId
  keys : List Key

namespace Numbering

/-- The number of an association's target; none if it is gone or in another list. -/
def number? (numbering : Numbering) (association : Association) : Option Nat :=
  if association.list = numbering.list then
    (numbering.keys.idxOf? association.target).map (· + 1)
  else none

/-- The association to the entity of a number. -/
def association? (numbering : Numbering) (number : Nat) : Option Association :=
  if number = 0 then none
  else (numbering.keys[number - 1]?).map (⟨numbering.list, ·⟩)

/-- Far ends by number; none if a target has no number. -/
def numberEnds? (numbering : Numbering) (ends : List (WireEnd Association)) :
    Option (List (WireEnd Nat)) :=
  ends.mapM fun far => (numbering.number? far.target).map (⟨·, far.terminal⟩)

/-- An entry by number, left out where there is none. -/
def numberEntry? (numbering : Numbering) (entry : WireEntry) : Option (Option (List (WireEnd Nat))) :=
  match entry.ends? with
  | none => some none
  | some ends => (numbering.numberEnds? ends).map some

/-- The wires at a terminal as they are written; left out when there are none. -/
def circuitRecord? (numbering : Numbering) (circuit : CircuitEntries) :
    Option (Option CircuitRecord) := do
  let red ← numbering.numberEntry? circuit.red
  let green ← numbering.numberEntry? circuit.green
  let record : CircuitRecord := ⟨red, green⟩
  pure (if record = .empty then none else some record)

/-- The wires as they are written; none if a target has no number. -/
def connectionsRecord? (numbering : Numbering) (connections : Connections) :
    Option ConnectionsRecord := do
  let input ← numbering.circuitRecord? connections.input
  let output ← numbering.circuitRecord? connections.output
  let left ← numbering.numberEntry? connections.copperLeft
  let right ← numbering.numberEntry? connections.copperRight
  pure ⟨input, output, left, right⟩

/-- The association to the entity of a number that was found at `path`. -/
def resolve (numbering : Numbering) (path : String) (number : Nat) : Except Error Association :=
  match numbering.association? number with
  | some association => .ok association
  | none => .error (.located path (.noSuchEntity number numbering.keys.length))

/-- The associations to the entities of a list of numbers that was found at `path`. -/
def resolveAll (numbering : Numbering) (path : String) (numbers : List Nat) :
    Except Error (List Association) :=
  numbers.zipIdx.mapM fun (number, i) => numbering.resolve s!"{path}[{i}]" number

/-- The far ends that were found at `path`, each once. -/
def resolveEntry (numbering : Numbering) (path : String) (ends : Option (List (WireEnd Nat))) :
    Except Error WireEntry := do
  let ends := ends.getD []
  let targets ← numbering.resolveAll path (ends.map (·.target))
  pure (WireEntry.absent.addAll
    ((targets.zip ends).map fun (target, far) => ⟨target, far.terminal⟩))

def resolveCircuit (numbering : Numbering) (path : String) (record : Option CircuitRecord) :
    Except Error CircuitEntries := do
  let record := record.getD .empty
  let red ← numbering.resolveEntry (path ++ ".red") record.red
  let green ← numbering.resolveEntry (path ++ ".green") record.green
  pure ⟨red, green⟩

/-- The wires that were found at `path`. -/
def resolveConnections (numbering : Numbering) (path : String) (record : ConnectionsRecord) :
    Except Error Connections := do
  let input ← numbering.resolveCircuit (path ++ ".1") record.input
  let output ← numbering.resolveCircuit (path ++ ".2") record.output
  let left ← numbering.resolveEntry (path ++ ".Cu0") record.copperLeft
  let right ← numbering.resolveEntry (path ++ ".Cu1") record.copperRight
  pure ⟨input, output, left, right⟩

end Numbering
end FactoryBlueprint
