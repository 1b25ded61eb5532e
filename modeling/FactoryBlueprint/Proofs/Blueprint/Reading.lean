import FactoryBlueprint.Proofs.Blueprint.Fits
import FactoryBlueprint.Proofs.Connections.Record
import FactoryBlueprint.Proofs.Connections.Resolving
import FactoryBlueprint.Proofs.Entity.Record
import FactoryBlueprint.Proofs.Schedule.Record

/-! # What is read fits

What a document holds is within its ranges, so an entity, a tile or a schedule that was read fits,
and so do the wires that its numbers lead to.
-/

namespace FactoryBlueprint

/-! ### Records -/

theorem GridPosition.fits_of_read {document : Document} {position : GridPosition}
    (read : GridPosition.read document = .ok position) : position.Fits := by
  obtain ⟨fields, -, ⟨_, -, x⟩, ⟨_, -, y⟩⟩ := GridPosition.read_eq_ok_iff.mp read
  exact ⟨(Reader.int32_eq_ok_iff.mp x).2, (Reader.int32_eq_ok_iff.mp y).2⟩

theorem Tile.fits_of_read {document : Document} {tile : Tile}
    (read : Tile.read document = .ok tile) : tile.Fits := by
  obtain ⟨fields, -, -, -, ⟨_, -, position⟩, extra⟩ := Tile.read_eq_ok_iff.mp read
  exact ⟨GridPosition.fits_of_read position, extra ▸ Fields.sorted_ofList _⟩

theorem EntityRecord.fits_entity {document : Document} {record : EntityRecord}
    (read : EntityRecord.read document = .ok record) (table : PrototypeTable) :
    (record.entity table).Fits := by
  obtain ⟨fields, -, -, held⟩ := EntityRecord.read_eq_ok_iff.mp read
  have sorted : record.rest.Sorted := held.rest ▸ Fields.sorted_ofList _
  refine ⟨.empty, ?_, List.Pairwise.filter _ sorted, List.Pairwise.filter _ sorted⟩
  intro field mem
  simp only [entity] at mem
  have items := held.items
  cases given : record.items with
  | none => simp [given] at mem
  | some counts =>
    rw [given] at mem items
    obtain ⟨document, -, reads⟩ := holdsOptional_some_iff.mp items
    obtain ⟨_, -, paired⟩ := Reader.map_eq_ok_iff.mp reads
    obtain ⟨_, _, -, reads⟩ := exists_of_mem_right paired mem
    exact (Reader.natural_eq_ok_iff.mp reads).2

theorem WaitCondition.fits_of_read {document : Document} {wait : WaitCondition}
    (read : WaitCondition.read document = .ok wait) : wait.Fits := by
  obtain ⟨fields, -, -, held⟩ := WaitCondition.read_eq_ok_iff.mp read
  refine ⟨?_, ?_, held.extra ▸ Fields.sorted_ofList _⟩
  · intro ticks given
    have holds := held.ticks
    rw [Option.mem_def.mp given] at holds
    obtain ⟨_, -, reads⟩ := holdsOptional_some_iff.mp holds
    exact (Reader.natural_eq_ok_iff.mp reads).2
  · intro condition given constant told
    have holds := held.condition
    rw [Option.mem_def.mp given] at holds
    obtain ⟨_, -, reads⟩ := holdsOptional_some_iff.mp holds
    obtain ⟨_, -, within⟩ := Condition.read_eq_ok_iff.mp reads
    have holds := within.constant
    rw [Option.mem_def.mp told] at holds
    obtain ⟨_, -, reads⟩ := holdsOptional_some_iff.mp holds
    exact (Reader.int32_eq_ok_iff.mp reads).2

/-- What is read of the items of a list holds of its values. -/
theorem forall_of_holdsDefault {α : Type} {fields : List (String × Document)} {key : String}
    {read : Reader α} {as : List α} (held : HoldsDefault fields key [] (Reader.list read) as)
    {property : α → Prop} (each : ∀ document a, read document = .ok a → property a) :
    ∀ a ∈ as, property a := by
  intro a mem
  rcases held with ⟨-, rfl⟩ | ⟨_, -, reads⟩
  · exact absurd mem List.not_mem_nil
  · obtain ⟨_, -, paired⟩ := Reader.list_eq_ok_iff.mp reads
    obtain ⟨_, -, reads⟩ := exists_of_mem_right paired mem
    exact each _ a reads

theorem Stop.fits_of_read {document : Document} {stop : Stop}
    (read : Stop.read document = .ok stop) : stop.Fits := by
  obtain ⟨fields, -, -, held⟩ := Stop.read_eq_ok_iff.mp read
  exact ⟨forall_of_holdsDefault held.waits fun _ _ => WaitCondition.fits_of_read,
    held.extra ▸ Fields.sorted_ofList _⟩

theorem Schedule.fits_of_read {document : Document} {schedule : Schedule Nat}
    (read : Schedule.read document = .ok schedule) : schedule.Fits := by
  obtain ⟨fields, -, -, held⟩ := Schedule.read_eq_ok_iff.mp read
  exact ⟨forall_of_holdsDefault held.stops fun _ _ => Stop.fits_of_read,
    held.extra ▸ Fields.sorted_ofList _⟩

/-! ### Wires -/

/-- Every far end is within its range. -/
def SmallEnds (ends : List (WireEnd Nat)) : Prop := ∀ far ∈ ends, far.target < 2 ^ 64 ∧ far.Small

theorem SmallEnds.nil : SmallEnds [] := fun _ mem => absurd mem List.not_mem_nil

theorem SmallEnds.distinct {ends : List (WireEnd Nat)} (small : SmallEnds ends) :
    SmallEnds (Distinct.addAll [] ends) := by
  intro far mem
  rcases Distinct.mem_addAll.mp mem with nothing | told
  · exact absurd nothing List.not_mem_nil
  · exact small far told

theorem smallEnds_of_holds {fields : List (String × Document)} {name type key : String}
    {ends : Option (List (WireEnd Nat))}
    (held : HoldsOptional fields name (Reader.list (WireEnd.read type key)) ends) :
    SmallEnds (ends.getD []) := by
  cases ends with
  | none => exact .nil
  | some told =>
    obtain ⟨_, -, reads⟩ := holdsOptional_some_iff.mp held
    obtain ⟨_, -, paired⟩ := Reader.list_eq_ok_iff.mp reads
    intro far mem
    obtain ⟨_, _, reads⟩ := exists_of_mem_right paired mem
    obtain ⟨_, -, within⟩ := WireEnd.read_eq_ok_iff.mp reads
    obtain ⟨_, -, target⟩ := within.target
    refine ⟨(Reader.natural_eq_ok_iff.mp target).2, fun terminal given => ?_⟩
    have holds := within.terminal
    rw [Option.mem_def.mp given] at holds
    obtain ⟨_, -, reads⟩ := holdsOptional_some_iff.mp holds
    exact (Reader.natural_eq_ok_iff.mp reads).2

theorem smallEnds_of_holdsCircuit {fields : List (String × Document)} {name : String}
    {record : Option CircuitRecord} (held : HoldsOptional fields name CircuitRecord.read record)
    (color : WireColor) : SmallEnds ((record.getD .empty).ends color) := by
  cases record with
  | none => cases color <;> exact .nil
  | some record =>
    obtain ⟨_, -, reads⟩ := holdsOptional_some_iff.mp held
    obtain ⟨_, -, within⟩ := CircuitRecord.read_eq_ok_iff.mp reads
    cases color with
    | red => exact smallEnds_of_holds within.red
    | green => exact smallEnds_of_holds within.green

/-- Every far end of the record is within its range. -/
structure ConnectionsRecord.Small (record : ConnectionsRecord) : Prop where
  circuit : ∀ side color, SmallEnds (record.circuitEnds side color)
  copper : ∀ side, SmallEnds (record.copperEnds side)

namespace ConnectionsRecord

theorem small_empty : Small .empty where
  circuit side color := by cases side <;> cases color <;> exact .nil
  copper side := by cases side <;> exact .nil

theorem small_of_holds {fields : List (String × Document)} {name : String}
    {record : Option ConnectionsRecord}
    (held : HoldsOptional fields name ConnectionsRecord.read record) :
    (record.getD .empty).Small := by
  cases record with
  | none => exact small_empty
  | some record =>
    obtain ⟨_, -, reads⟩ := holdsOptional_some_iff.mp held
    obtain ⟨_, -, within⟩ := ConnectionsRecord.read_eq_ok_iff.mp reads
    refine ⟨fun side color => ?_, fun side => ?_⟩
    · cases side with
      | input => exact smallEnds_of_holdsCircuit within.input color
      | output => exact smallEnds_of_holdsCircuit within.output color
    · cases side with
      | left => exact smallEnds_of_holds within.copperLeft
      | right => exact smallEnds_of_holds within.copperRight

theorem Small.distinct {record : ConnectionsRecord} (small : record.Small) :
    record.distinct.Small where
  circuit side color := by
    rw [ConnectionsRecord.distinct, circuitEnds_ofPoints]
    exact (small.circuit side color).distinct
  copper side := by
    rw [ConnectionsRecord.distinct, copperEnds_ofPoints]
    exact (small.copper side).distinct

/-- The far ends that numbers lead to, each once. -/
theorem farEndsFit_of_namesEnd {numbering : Numbering} {points : List (WireEnd Nat)}
    {all : List (WireEnd Association)} (small : SmallEnds points)
    (named : List.Forall₂ numbering.NamesEnd all points) : FarEndsFit (Distinct.addAll [] all) := by
  intro far mem
  rcases Distinct.mem_addAll.mp mem with nothing | told
  · exact absurd nothing List.not_mem_nil
  · obtain ⟨point, inPoints, names⟩ := exists_of_mem_left named told
    intro terminal given
    rw [← names.terminal] at given
    exact (small point inPoints).2 terminal given

theorem Small.fits {record : ConnectionsRecord} (small : record.Small) {numbering : Numbering}
    {path : String} {connections : Connections}
    (resolved : numbering.resolveConnections path record = .ok connections) : connections.Fits := by
  obtain ⟨circuits, coppers⟩ := Numbering.resolveConnections_eq_ok_iff.mp resolved
  refine ⟨fun side color => ?_, fun side => ?_⟩
  · obtain ⟨all, named, same⟩ := circuits side color
    rw [same]
    exact farEndsFit_of_namesEnd (small.circuit side color) named
  · obtain ⟨all, named, same⟩ := coppers side
    rw [same]
    exact farEndsFit_of_namesEnd (small.copper side) named

end ConnectionsRecord

theorem EntityRecord.small_of_read {document : Document} {record : EntityRecord}
    (read : EntityRecord.read document = .ok record) :
    (record.connections.getD .empty).Small := by
  obtain ⟨_, -, -, held⟩ := EntityRecord.read_eq_ok_iff.mp read
  exact ConnectionsRecord.small_of_holds held.connections

end FactoryBlueprint
