import FactoryBlueprint.Entity.Record
import FactoryBlueprint.Proofs.Document.Reader
import FactoryBlueprint.Proofs.Document.Written
import FactoryBlueprint.Tile

/-! # What entity and tile documents hold

Which record the fields of an object hold, field by field.
-/

namespace FactoryBlueprint

namespace Point

structure Holds (fields : List (String × Document)) (point : Point) : Prop where
  x : FactoryBlueprint.Holds fields "x" Reader.number point.x
  y : FactoryBlueprint.Holds fields "y" Reader.number point.y

theorem read_eq_ok_iff {document : Document} {point : Point} :
    read document = .ok point ↔
      ∃ fields, RecordFields ["x", "y"] document fields ∧ Holds fields point := by
  refine Reader.record_eq_ok_iff fun fields positional => ?_
  simp only [Reading.eq_ok_iff_gives, Reading.gives_seq_iff, Reading.gives_map_iff]
  simp only [Reading.Gives, Entries.required_eq_ok_iff]
  constructor
  · rintro ⟨_, x, _, y, rfl⟩
    exact ⟨x, y⟩
  · rintro ⟨x, y⟩
    exact ⟨_, x, _, y, rfl⟩

end Point

namespace GridPosition

structure Holds (fields : List (String × Document)) (position : GridPosition) : Prop where
  x : FactoryBlueprint.Holds fields "x" Reader.int32 position.x
  y : FactoryBlueprint.Holds fields "y" Reader.int32 position.y

theorem read_eq_ok_iff {document : Document} {position : GridPosition} :
    read document = .ok position ↔
      ∃ fields, RecordFields ["x", "y"] document fields ∧ Holds fields position := by
  refine Reader.record_eq_ok_iff fun fields positional => ?_
  simp only [Reading.eq_ok_iff_gives, Reading.gives_seq_iff, Reading.gives_map_iff]
  simp only [Reading.Gives, Entries.required_eq_ok_iff]
  constructor
  · rintro ⟨_, x, _, y, rfl⟩
    exact ⟨x, y⟩
  · rintro ⟨x, y⟩
    exact ⟨_, x, _, y, rfl⟩

end GridPosition

namespace EntityRecord

/-- The fields that an entity has of its own. -/
def names : List String :=
  ["name", "entity_number", "position", "direction", "connections", "neighbours", "items", "tags"]

structure Holds (fields : List (String × Document)) (record : EntityRecord) : Prop where
  name : FactoryBlueprint.Holds fields "name" Reader.text record.name
  number : HoldsOptional fields "entity_number" (Reader.natural 64) record.number
  position : FactoryBlueprint.Holds fields "position" Point.read record.position
  direction : HoldsOptional fields "direction" Direction.read record.direction
  connections : HoldsOptional fields "connections" ConnectionsRecord.read record.connections
  neighbours : HoldsOptional fields "neighbours" (Reader.list (Reader.natural 64)) record.neighbours
  items : HoldsOptional fields "items" (Reader.map (Reader.natural 32)) record.items
  tags : HoldsOptional fields "tags" (Reader.map Reader.document) record.tags
  rest : Fields.ofList (Fields.without fields names) = record.rest

theorem read_eq_ok_iff {document : Document} {record : EntityRecord} :
    read document = .ok record ↔ ∃ fields, document = .object fields ∧
      (⟨fields, "EntityRecord", names, false⟩ : Entries).repeated? = none ∧
        Holds fields record := by
  rw [read, Reader.openRecord_eq_ok_iff]
  refine exists_congr fun fields => and_congr_right fun _ => and_congr_right fun _ => ?_
  simp only [Reading.eq_ok_iff_gives, Reading.gives_seq_iff, Reading.gives_map_iff]
  simp only [Reading.Gives, Entries.required_eq_ok_iff, Entries.optional_eq_ok_iff,
    Reading.ofValue_eq_ok_iff]
  constructor
  · rintro ⟨_, name, _, number, _, position, _, direction, _, connections, _, neighbours, _, items,
      _, tags, _, rest, rfl⟩
    exact ⟨name, number, position, direction, connections, neighbours, items, tags, rest⟩
  · rintro ⟨name, number, position, direction, connections, neighbours, items, tags, rest⟩
    exact ⟨_, name, _, number, _, position, _, direction, _, connections, _, neighbours, _, items,
      _, tags, _, rest, rfl⟩

end EntityRecord

namespace Tile

/-- The fields that a tile has of its own. -/
def names : List String := ["name", "position"]

structure Holds (fields : List (String × Document)) (tile : Tile) : Prop where
  name : FactoryBlueprint.Holds fields "name" Reader.text tile.name
  position : FactoryBlueprint.Holds fields "position" GridPosition.read tile.position
  extra : Fields.ofList (Fields.without fields names) = tile.extra

theorem read_eq_ok_iff {document : Document} {tile : Tile} :
    read document = .ok tile ↔ ∃ fields, document = .object fields ∧
      (⟨fields, "TileRecord", names, false⟩ : Entries).repeated? = none ∧ Holds fields tile := by
  rw [read, Reader.openRecord_eq_ok_iff]
  refine exists_congr fun fields => and_congr_right fun _ => and_congr_right fun _ => ?_
  simp only [Reading.eq_ok_iff_gives, Reading.gives_seq_iff, Reading.gives_map_iff]
  simp only [Reading.Gives, Entries.required_eq_ok_iff, Reading.ofValue_eq_ok_iff]
  constructor
  · rintro ⟨_, name, _, position, _, extra, rfl⟩
    exact ⟨name, position, extra⟩
  · rintro ⟨name, position, extra⟩
    exact ⟨_, name, _, position, _, extra, rfl⟩

theorem field?_write (tile : Tile) (origin : GridPosition) (key : String) :
    (tile.write origin).field? key =
      if key = "position" then some (tile.position - origin).write
      else if key = "name" then some (.text tile.name) else tile.extra.lookup key := by
  simp only [write, Document.field?_object, Fields.overwrite_cons, Fields.overwrite_nil,
    Fields.lookup_insert]

end Tile

/-! ### Written entities

The named fields of an entity hide those of its own that have the same key, if they are written at
all.
-/

namespace Entity

/-- Neither of the entity's own maps has the key. -/
structure Lacks (entity : Entity) (key : String) : Prop where
  fields : entity.fields.lookup key = none
  extra : entity.extra.lookup key = none

theorem Lacks.lookup_own {entity : Entity} {key : String} (lacks : entity.Lacks key) :
    entity.own.lookup key = none := by
  rw [Entity.own, Fields.lookup_overwrite_of_notMem _ (Fields.lookup_eq_none_iff.mp lacks.fields)]
  exact lacks.extra

variable (entity : Entity) (number : Nat) (position : Point) (connections : ConnectionsRecord)
  (neighbours : List Nat)

/-- A value that is left out lets a field of the entity's own show. -/
theorem lookup_writeFields (key : String) :
    (entity.writeFields number position connections neighbours).lookup key =
      let own := entity.own.lookup key
      if key = "entity_number" then some (.ofNat number)
      else if key = "neighbours" then
        if neighbours = [] then own else some (.array (neighbours.map Document.ofNat))
      else if key = "connections" then
        if connections.isEmpty then own else some connections.write
      else if key = "tags" then if entity.tags = [] then own else some (.object entity.tags)
      else if key = "items" then
        if entity.items = [] then own
        else some (.object (entity.items.map fun (item, count) => (item, .ofNat count)))
      else if key = "direction" then
        if entity.direction = .north then own else some entity.direction.write
      else if key = "position" then some position.write
      else if key = "name" then some (.text entity.name)
      else own := by
  simp only [writeFields, Fields.overwrite_append, Fields.overwrite_cons, Fields.overwrite_nil,
    Fields.lookup_insert, Fields.lookup_overwrite_optionalField, Fields.map_unless_or,
    List.isEmpty_iff]
  by_cases isNumber : key = "entity_number"
  · simp [isNumber]
  by_cases isNeighbours : key = "neighbours"
  · simp [isNeighbours]
  by_cases isConnections : key = "connections"
  · simp [isConnections]
  by_cases isTags : key = "tags"
  · simp [isTags]
  by_cases isItems : key = "items"
  · simp [isItems]
  by_cases isDirection : key = "direction"
  · simp [isDirection]
  simp [isNumber, isNeighbours, isConnections, isTags, isItems, isDirection]

end Entity
end FactoryBlueprint
