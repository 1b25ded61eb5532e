import FactoryBlueprint.Blueprint.Basic
import FactoryBlueprint.Connections.Numbering
import FactoryBlueprint.Entity.Record

/-! # Writing blueprints

A blueprint is written as a document. Its entities get numbers in order, and associations are
written as those numbers; one that leads nowhere is an error.
-/

namespace FactoryBlueprint.Blueprint

/-- The numbers of the entities. -/
def numbering (blueprint : Blueprint) : Numbering :=
  ⟨blueprint.entities.id, blueprint.entities.leaves⟩

/-- An entity as it is written, with positions told from `origin`. -/
def exportEntity (numbering : Numbering) (origin : Point) (world : Point) (entity : Entity)
    (number : Nat) : Except Error Document :=
  let written := do
    let connections ← numbering.connectionsRecord? entity.connections
    let neighbours ← entity.neighbours.mapM numbering.number?
    pure (entity.write number (world - origin) connections neighbours)
  match written with
  | some document => .ok document
  | none => .error (.danglingReference entity.name world)

/-- The entities in order, with their positions in the blueprint. -/
def placedEntities (blueprint : Blueprint) : List (Point × Entity) :=
  blueprint.entities.leaves.filterMap fun key => do
    let placed ← blueprint.entities.get? key
    pure (placed.worldPosition, ← placed.entity?)

/-- The entities as they are written. -/
def exportEntities (blueprint : Blueprint) (origin : Point) : Except Error (List Document) :=
  blueprint.placedEntities.zipIdx.mapM fun ((world, entity), i) =>
    exportEntity blueprint.numbering origin world entity (i + 1)

/-- The number of the locomotive in place `slot` of schedule `i`. -/
def exportLocomotive (numbering : Numbering) (i slot : Nat) (locomotive : Association) :
    Except Error Nat :=
  match numbering.number? locomotive with
  | some number => .ok number
  | none => .error (.danglingLocomotive i slot)

/-- A schedule as it is written. -/
def exportSchedule (numbering : Numbering) (schedule : Schedule Association) (i : Nat) :
    Except Error Document := do
  let numbers ← schedule.locomotives.zipIdx.mapM fun (locomotive, slot) =>
    exportLocomotive numbering i slot locomotive
  pure (Schedule.write ⟨schedule.stops, numbers, schedule.extra⟩)

/-- The schedules as they are written. -/
def exportSchedules (blueprint : Blueprint) : Except Error (List Document) :=
  blueprint.schedules.zipIdx.mapM fun (schedule, i) =>
    exportSchedule blueprint.numbering schedule i

/-- An array that is left out when it is empty. -/
def arrayField (key : String) (items : List Document) : List (String × Document) :=
  if items.isEmpty then [] else [(key, .array items)]

/-- What is said about the whole, as it is written. What is as by default is left out. -/
def exportHeader (blueprint : Blueprint) : List (String × Document) :=
  let relative := blueprint.positionRelativeToGrid.filter (· ≠ .zero)
  [("item", .text kind)] ++
    Document.optionalField "label" Document.text blueprint.label ++
    Document.optionalField "label_color" Color.write blueprint.labelColor ++
    Document.optionalField "description" Document.text blueprint.description ++
    arrayField "icons" (blueprint.icons.map (·.write)) ++
    [("version", blueprint.version.write)] ++
    Document.optionalField "snap-to-grid" GridPosition.write blueprint.snappingGridSize ++
    (if blueprint.absoluteSnapping then [] else [("absolute-snapping", .bool false)]) ++
    Document.optionalField "position-relative-to-grid" GridPosition.write relative

/-- Subtracted from every position that is written. -/
def origin (blueprint : Blueprint) : GridPosition := blueprint.snappingGridPosition.getD .zero

/-- The fields of a blueprint whose entities and schedules are written as given. -/
def documentFields (blueprint : Blueprint) (entities schedules : List Document) : Fields Document :=
  Fields.overwrite blueprint.extra (blueprint.exportHeader ++
    arrayField "entities" entities ++
    arrayField "tiles" (blueprint.tiles.tiles.map (·.write blueprint.origin)) ++
    arrayField "schedules" schedules)

/-- The document of a blueprint whose entities and schedules are written as given. -/
def documentOf (blueprint : Blueprint) (entities schedules : List Document) : Document :=
  .ofFields ((kind, .object (blueprint.documentFields entities schedules)) ::
    Document.optionalField "index" Document.ofNat blueprint.index)

/-- The blueprint as a document. -/
def toDocument (blueprint : Blueprint) : Except Error Document := do
  let entities ← blueprint.exportEntities blueprint.origin.toPoint
  let schedules ← blueprint.exportSchedules
  pure (blueprint.documentOf entities schedules)

/-- The blueprint as a blueprint string. -/
def toText (blueprint : Blueprint) : Except Error String :=
  blueprint.toDocument.map BlueprintString.encode

/-- True if both are written as the same document. -/
def sameDocument (blueprint other : Blueprint) : Bool :=
  match blueprint.toDocument, other.toDocument with
  | .ok document, .ok others => document.same others
  | _, _ => false

end FactoryBlueprint.Blueprint
