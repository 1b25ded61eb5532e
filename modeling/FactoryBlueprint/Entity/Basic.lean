import FactoryBlueprint.Connections.Basic
import FactoryBlueprint.Direction
import FactoryBlueprint.Prototype.Table
import FactoryBlueprint.Warning

/-! # Entities

An entity is a value. Its position is relative to the group that it is in, if any; what the table
knows of its name gives its box, its mask and the keys of its kind.
-/

namespace FactoryBlueprint

structure Entity where
  /-- A name chosen to find the entity by. -/
  id : Option String
  name : String
  /-- The centre. -/
  position : Point
  direction : Direction
  connections : Connections
  /-- The poles that copper wires lead to. -/
  neighbours : List Association
  /-- Requested items with their counts. -/
  items : Fields Nat
  tags : Fields Document
  /-- The keys that its kind knows. -/
  fields : Fields Document
  /-- All other keys. -/
  extra : Fields Document
  deriving Inhabited

namespace Entity

/-- An entity that faces north and has nothing else. -/
def plain (name : String) (position : Point) : Entity where
  id := none
  name := name
  position := position
  direction := .north
  connections := .empty
  neighbours := []
  items := []
  tags := []
  fields := []
  extra := []

/-- The entity whose footprint has its top left corner on `tile`. -/
def onTile (table : PrototypeTable) (name : String) (tile : GridPosition) : Entity :=
  let (width, height) := match table.entity? name with
    | some prototype => (prototype.tileWidth, prototype.tileHeight)
    | none => (1, 1)
  .plain name (tile.toPoint + ⟨.ofInt width / 2, .ofInt height / 2⟩)

/-- Key of the one field of a kind that merging replaces. -/
def controlBehavior : String := "control_behavior"

/-- The box of entities that the table does not know. -/
def unknownBox : Box := .square 0.5

def kind (entity : Entity) (table : PrototypeTable) : Kind :=
  ((table.entity? entity.name).map (·.kind)).getD .generic

/-- The box around the centre, turned with the entity. Rolling stock does not turn its box. -/
def collisionBox (entity : Entity) (table : PrototypeTable) : Box :=
  match table.entity? entity.name with
  | none => unknownBox
  | some prototype =>
    if entity.direction.isSideways && !prototype.kind.isRollingStock then
      prototype.box.quarterTurn
    else prototype.box

/-- The box in the blueprint, for an entity whose group is at `offset`. -/
def worldBox (entity : Entity) (table : PrototypeTable) (offset : Point) : Box :=
  (entity.collisionBox table).translate (entity.position + offset)

def mask (entity : Entity) (table : PrototypeTable) : Mask :=
  ((table.entity? entity.name).map (·.mask)).getD .building

/-- The fields that merging requires to be equal. -/
def fixedFields (entity : Entity) : Fields Document :=
  Fields.without entity.fields [controlBehavior]

/-- True if the entities differ in nothing that merging cannot bring together. Positions are
compared where both offsets are known. -/
def mergeableWith (entity other : Entity) : Bool :=
  entity.name = other.name && entity.direction = other.direction &&
    Document.sameFields entity.extra other.extra &&
    Document.sameFields entity.fixedFields other.fixedFields

/-- The entity with what `other` adds: its wires and neighbours join, its items, tags and control
behaviour replace. -/
def merge (entity other : Entity) : Entity :=
  { entity with
    connections := entity.connections.merge other.connections
    neighbours := Distinct.addAll entity.neighbours other.neighbours
    items := Fields.overwrite entity.items other.items
    tags := Fields.overwrite entity.tags other.tags
    fields := match other.fields.lookup controlBehavior with
      | some behavior => Fields.insert controlBehavior behavior entity.fields
      | none => entity.fields }

/-- The entity with `f` applied to every association. -/
def mapAssociations (entity : Entity) (f : Association → Association) : Entity :=
  { entity with
    connections := entity.connections.mapTargets f
    neighbours := entity.neighbours.map f }

/-- Every association of the entity, wires first. -/
def associations (entity : Entity) : List Association :=
  entity.connections.targets ++ entity.neighbours

/-- Warns of what is amiss with an entity of the given prototype. -/
def prototypeWarnings (entity : Entity) (prototype : EntityPrototype) : List Warning :=
  let unknown := if entity.extra.isEmpty then []
    else [.unknownKeys entity.name (Fields.keys entity.extra)]
  let diagonal := if entity.direction.isCardinal || prototype.kind.allowsDiagonal then []
    else [.diagonal entity.name entity.direction.code]
  let bar := match (entity.fields.lookup "bar").bind Document.natural?, prototype.inventorySize with
    | some bar, some size => if size < bar then [.barBeyondInventory bar size] else []
    | _, _ => []
  unknown ++ diagonal ++ bar

/-- Warns of what the table does not know of the entity or does not allow. -/
def warnings (entity : Entity) (table : PrototypeTable) : List Warning :=
  match table.entity? entity.name with
  | none => [.unknownEntity entity.name]
  | some prototype =>
    entity.prototypeWarnings prototype ++
      (entity.items.filter fun (item, _) => (table.signalType? item).isNone).map
        fun (item, _) => .unknownSignal item

end Entity
end FactoryBlueprint
