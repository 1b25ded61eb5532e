import FactoryBlueprint.Blueprint.Basic
import FactoryBlueprint.Blueprint.Record
import FactoryBlueprint.Connections.Numbering
import FactoryBlueprint.Entity.Record

/-! # Reading blueprints

Entities are placed first, without merging. Then the numbers that their wires and the schedules name
are resolved to the keys of the entities placed.
-/

namespace FactoryBlueprint.Blueprint

/-- The references of an entity that was read, to be resolved when all entities are placed. -/
structure Pending where
  key : Key
  record : EntityRecord
  path : String

/-- Reads an entity, checks it and appends it. -/
def importEntity (mode : ValidationMode) (blueprint : Blueprint) (path : String)
    (document : Document) : Except Error (Blueprint × Pending × List Warning) := do
  let record ← EntityRecord.read.locate path document
  let entity := record.entity blueprint.table
  let own ← mode.accept (entity.warnings blueprint.table)
  let (entities, outcome) := blueprint.entities.insert blueprint.table mode blueprint.extent
    blueprint.entities.length (.entity entity) false
  let (placement, extent) ← outcome
  pure ({ blueprint with entities := entities, extent := extent }, ⟨placement.key, record, path⟩,
    own ++ placement.warnings)

/-- Reads entities one after the other. -/
def importEntities (mode : ValidationMode) (blueprint : Blueprint) :
    List (Document × Nat) → Except Error (Blueprint × List Pending × List Warning)
  | [] => .ok (blueprint, [], [])
  | (document, i) :: rest => do
    let (blueprint, pending, own) ← importEntity mode blueprint s!"{kind}.entities[{i}]" document
    let (blueprint, others, warnings) ← importEntities mode blueprint rest
    pure (blueprint, pending :: others, own ++ warnings)

/-- Gives an entity the wires and neighbours that its record names. -/
def connectEntity (numbering : Numbering) (blueprint : Blueprint) (pending : Pending) :
    Except Error Blueprint := do
  if pending.record.connections.isNone && pending.record.neighbourNumbers.isEmpty then
    pure blueprint
  else
    let connections ← numbering.resolveConnections (pending.path ++ ".connections")
      (pending.record.connections.getD .empty)
    let neighbours ← numbering.resolveAll (pending.path ++ ".neighbours")
      pending.record.neighbourNumbers
    match blueprint.entities.modify? blueprint.table pending.key fun entity =>
        { entity with connections := connections, neighbours := neighbours } with
    | some entities => pure { blueprint with entities := entities }
    | none => .error .entityNotFound

/-- Reads tiles one after the other. -/
def importTiles (mode : ValidationMode) (blueprint : Blueprint) :
    List (Document × Nat) → Except Error (Blueprint × List Warning)
  | [] => .ok (blueprint, [])
  | (document, i) :: rest => do
    let tile ← Tile.read.locate s!"{kind}.tiles[{i}]" document
    let own ← mode.accept (tile.warnings blueprint.table)
    let (tiles, placement, extent) ← blueprint.tiles.insert blueprint.table mode blueprint.extent
      blueprint.tiles.length tile false
    let (blueprint, warnings) ←
      importTiles mode { blueprint with tiles := tiles, extent := extent } rest
    pure (blueprint, own ++ placement.warnings ++ warnings)

/-- Reads a schedule and checks it. -/
def importSchedule (mode : ValidationMode) (table : PrototypeTable) (numbering : Numbering)
    (path : String) (document : Document) : Except Error (Schedule Association × List Warning) := do
  let record ← Schedule.read.locate path document
  let locomotives ← numbering.resolveAll (path ++ ".locomotives") record.locomotives
  let schedule : Schedule Association := ⟨record.stops, locomotives, record.extra⟩
  let warnings ← mode.accept (schedule.warnings table)
  pure (schedule, warnings)

/-- What a document says about the whole, with no objects yet. -/
def header (table : PrototypeTable) (list : ListId) (root : RootRecord) : Blueprint :=
  let record := root.blueprint
  { empty table list with
    label := record.label
    labelColor := record.labelColor
    description := record.description
    icons := record.icons.getD []
    version := record.version.getD .current
    snappingGridSize := record.snapToGrid
    absoluteSnapping := record.absoluteSnapping.getD true
    positionRelativeToGrid := record.positionRelativeToGrid
    index := root.index
    extra := record.extra }

/-- The blueprint in a document with what there is to warn of. It checks assignments strictly,
whatever the mode in which it was read. -/
def ofDocument (table : PrototypeTable) (mode : ValidationMode) (list : ListId)
    (document : Document) : Except Error (Blueprint × List Warning) := do
  let root ← RootRecord.read kind document
  let record := root.blueprint
  let header := header table list root
  let iconWarnings ← Icon.check header.icons mode table
  let keyWarnings ← mode.accept (unknownKeys header.extra)
  let (placed, pending, entityWarnings) ← importEntities mode header record.entities.zipIdx
  let numbering : Numbering := ⟨list, pending.map (·.key)⟩
  let connected ← pending.foldlM (connectEntity numbering) placed
  let (tiled, tileWarnings) ← importTiles mode connected record.tiles.zipIdx
  let schedules ← record.schedules.zipIdx.mapM fun (document, i) =>
    importSchedule mode table numbering s!"{kind}.schedules[{i}]" document
  pure ({ tiled with schedules := schedules.map (·.1) },
    iconWarnings ++ keyWarnings ++ entityWarnings ++ tileWarnings ++ schedules.flatMap (·.2))

/-- The blueprint in a blueprint string. -/
def ofText (table : PrototypeTable) (mode : ValidationMode) (list : ListId) (text : String) :
    Except Error (Blueprint × List Warning) := do
  let document ← (BlueprintString.decode text).mapError .malformedString
  ofDocument table mode list document

end FactoryBlueprint.Blueprint
