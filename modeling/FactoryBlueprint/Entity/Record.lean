import FactoryBlueprint.Connections.Record
import FactoryBlueprint.Entity.Basic

/-! # Entities in documents

An `EntityRecord` is an entity as a document holds it: its wires name other entities by number, and
the keys of its kind are not yet told from others.
-/

namespace FactoryBlueprint

structure EntityRecord where
  name : String
  number : Option Nat
  position : Point
  direction : Option Direction
  connections : Option ConnectionsRecord
  neighbours : Option (List Nat)
  items : Option (Fields Nat)
  tags : Option (Fields Document)
  rest : Fields Document

namespace EntityRecord

def read : Reader EntityRecord :=
  Reader.openRecord "EntityRecord" ["name", "entity_number", "position", "direction", "connections",
      "neighbours", "items", "tags"] fun entries =>
    EntityRecord.mk <$> entries.required "name" Reader.text <*>
      entries.optional "entity_number" (Reader.natural 64) <*>
      entries.required "position" Point.read <*>
      entries.optional "direction" Direction.read <*>
      entries.optional "connections" ConnectionsRecord.read <*>
      entries.optional "neighbours" (Reader.list (Reader.natural 64)) <*>
      entries.optional "items" (Reader.map (Reader.natural 32)) <*>
      entries.optional "tags" (Reader.map Reader.document) <*>
      Reading.ofValue entries.rest

/-- The keys that the kind of the named entity knows. -/
def knownFields (record : EntityRecord) (table : PrototypeTable) : List String :=
  ((table.entity? record.name).map (·.kind.knownFields)).getD []

/-- The entity without its wires. -/
def entity (record : EntityRecord) (table : PrototypeTable) : Entity :=
  let known := record.knownFields table
  { Entity.plain record.name record.position with
    direction := record.direction.getD .north
    items := record.items.getD []
    tags := record.tags.getD []
    fields := record.rest.filter fun (key, _) => known.contains key
    extra := record.rest.filter fun (key, _) => !known.contains key }

/-- The numbers of the neighbours, none if they are not told. -/
def neighbourNumbers (record : EntityRecord) : List Nat := record.neighbours.getD []

end EntityRecord

/-- The keys that an entity has of its own: the fields of its kind, and its other keys where these
leave room. -/
def Entity.own (entity : Entity) : Fields Document := Fields.overwrite entity.extra entity.fields

/-- The fields of an entity in a document: its own keys, and over them those of every entity. What
is as by default is left out. -/
def Entity.writeFields (entity : Entity) (number : Nat) (position : Point)
    (connections : ConnectionsRecord) (neighbours : List Nat) : Fields Document :=
  let direction := if entity.direction = .north then none else some entity.direction
  let items := if entity.items.isEmpty then none else some entity.items
  let tags := if entity.tags.isEmpty then none else some entity.tags
  let connections := if connections.isEmpty then none else some connections
  let neighbours := if neighbours.isEmpty then none else some neighbours
  Fields.overwrite entity.own ([("name", .text entity.name), ("position", position.write)] ++
    Document.optionalField "direction" Direction.write direction ++
    Document.optionalField "items"
      (fun items => .object (items.map fun (item, count) => (item, .ofNat count))) items ++
    Document.optionalField "tags" Document.object tags ++
    Document.optionalField "connections" ConnectionsRecord.write connections ++
    Document.optionalField "neighbours" (fun ns => .array (ns.map Document.ofNat)) neighbours ++
    [("entity_number", .ofNat number)])

/-- An entity in a document, under its number. -/
def Entity.write (entity : Entity) (number : Nat) (position : Point)
    (connections : ConnectionsRecord) (neighbours : List Nat) : Document :=
  .object (entity.writeFields number position connections neighbours)

end FactoryBlueprint
