import FactoryBlueprint.Connections.Record
import FactoryBlueprint.Proofs.Document.Reader

/-! # What wire documents hold

Which far ends and wires the fields of an object hold, field by field.
-/

namespace FactoryBlueprint

namespace WireEnd

structure Holds (key : String) (fields : List (String × Document)) (far : WireEnd Nat) : Prop where
  target : FactoryBlueprint.Holds fields "entity_id" (Reader.natural 64) far.target
  terminal : HoldsOptional fields key (Reader.natural 8) far.terminal

theorem read_eq_ok_iff {type key : String} {document : Document} {far : WireEnd Nat} :
    read type key document = .ok far ↔
      ∃ fields, RecordFields ["entity_id", key] document fields ∧ Holds key fields far := by
  refine Reader.record_eq_ok_iff fun fields positional => ?_
  simp only [Reading.eq_ok_iff_gives, Reading.gives_seq_iff, Reading.gives_map_iff]
  simp only [Reading.Gives, Entries.required_eq_ok_iff, Entries.optional_eq_ok_iff]
  constructor
  · rintro ⟨_, target, _, terminal, rfl⟩
    exact ⟨target, terminal⟩
  · rintro ⟨target, terminal⟩
    exact ⟨_, target, _, terminal, rfl⟩

end WireEnd

namespace CircuitRecord

structure Holds (fields : List (String × Document)) (record : CircuitRecord) : Prop where
  red : HoldsOptional fields "red"
    (Reader.list (WireEnd.read "CircuitPointRecord" "circuit_id")) record.red
  green : HoldsOptional fields "green"
    (Reader.list (WireEnd.read "CircuitPointRecord" "circuit_id")) record.green

theorem read_eq_ok_iff {document : Document} {record : CircuitRecord} :
    read document = .ok record ↔
      ∃ fields, RecordFields ["red", "green"] document fields ∧ Holds fields record := by
  refine Reader.record_eq_ok_iff fun fields positional => ?_
  simp only [Reading.eq_ok_iff_gives, Reading.gives_seq_iff, Reading.gives_map_iff]
  simp only [Reading.Gives, Entries.optional_eq_ok_iff]
  constructor
  · rintro ⟨_, red, _, green, rfl⟩
    exact ⟨red, green⟩
  · rintro ⟨red, green⟩
    exact ⟨_, red, _, green, rfl⟩

end CircuitRecord

namespace ConnectionsRecord

structure Holds (fields : List (String × Document)) (record : ConnectionsRecord) : Prop where
  input : HoldsOptional fields "1" CircuitRecord.read record.input
  output : HoldsOptional fields "2" CircuitRecord.read record.output
  copperLeft : HoldsOptional fields "Cu0"
    (Reader.list (WireEnd.read "CopperPointRecord" "wire_id")) record.copperLeft
  copperRight : HoldsOptional fields "Cu1"
    (Reader.list (WireEnd.read "CopperPointRecord" "wire_id")) record.copperRight

theorem read_eq_ok_iff {document : Document} {record : ConnectionsRecord} :
    read document = .ok record ↔
      ∃ fields, RecordFields ["1", "2", "Cu0", "Cu1"] document fields ∧ Holds fields record := by
  refine Reader.record_eq_ok_iff fun fields positional => ?_
  simp only [Reading.eq_ok_iff_gives, Reading.gives_seq_iff, Reading.gives_map_iff]
  simp only [Reading.Gives, Entries.optional_eq_ok_iff]
  constructor
  · rintro ⟨_, input, _, output, _, left, _, right, rfl⟩
    exact ⟨input, output, left, right⟩
  · rintro ⟨input, output, left, right⟩
    exact ⟨_, input, _, output, _, left, _, right, rfl⟩

end ConnectionsRecord
end FactoryBlueprint
