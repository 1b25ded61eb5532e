import FactoryBlueprint.Blueprint.Basic

/-! # Changing what a blueprint holds

Entities, tiles and schedules are inserted, replaced, edited and removed. Insertions report what
there is to warn of, first of the object itself and then of what it collides with.
-/

namespace FactoryBlueprint

/-- The placement with warnings that were found before it. -/
def Placement.after (own : List Warning) (placement : Placement) : Placement :=
  { placement with warnings := own ++ placement.warnings }

namespace Blueprint

/-! ### Entities -/

/-- The outcome of placing an entity, with the entity list and the extent that it leaves. -/
def placed (blueprint : Blueprint) (own : List Warning) :
    EntityList × Except Error (Placement × Extent) → Edited Placement
  | (entities, .error error) => ({ blueprint with entities := entities }, .error error)
  | (entities, .ok (placement, extent)) =>
    ({ blueprint with entities := entities, extent := extent }, .ok (placement.after own))

/-- Inserts an item at place `i`. If it fails, entities that absorbed members of a group keep what
they absorbed. -/
def insertEntity (blueprint : Blueprint) (i : Nat) (item : Item) (merge : Bool) :
    Edited Placement :=
  match blueprint.mode.accept (item.warnings blueprint.table) with
  | .error error => (blueprint, .error error)
  | .ok own =>
    blueprint.placed own
      (blueprint.entities.insert blueprint.table blueprint.mode blueprint.extent i item merge)

/-- Appends an item. -/
def addEntity (blueprint : Blueprint) (item : Item) (merge : Bool) : Edited Placement :=
  blueprint.insertEntity blueprint.entities.length item merge

/-- Puts an item in the place of member `i`. -/
def setEntity (blueprint : Blueprint) (i : Nat) (item : Item) : Edited Placement :=
  match blueprint.mode.accept (item.warnings blueprint.table) with
  | .error error => (blueprint, .error error)
  | .ok own =>
    blueprint.placed own
      (blueprint.entities.set blueprint.table blueprint.mode blueprint.tiles.boxes i item)

/-- Removes member `i`. What refers to it is left as it is, and found when writing. -/
def removeEntity (blueprint : Blueprint) (i : Nat) : Edited Item :=
  blueprint.edited do
    let (item, entities) ← blueprint.entities.remove i
    pure ({ blueprint with entities := entities }, item)

/-- Removes the entity or group under a key, at any depth. -/
def removeEntityKey (blueprint : Blueprint) (key : Key) : Edited Item :=
  match blueprint.entities.removeKey? key with
  | some (item, entities) => ({ blueprint with entities := entities }, .ok item)
  | none => (blueprint, .error .entityNotFound)

/-- Edits the entity under a key. If that would take the blueprint beyond the limit, the entity is
put back. -/
def modifyEntity (blueprint : Blueprint) (key : Key) (f : Entity → Entity) : Edited Unit :=
  let edit := do
    let before ← blueprint.entities.entity? key
    pure (before, ← blueprint.entities.modify? blueprint.table key f)
  match edit with
  | none => (blueprint, .error .entityNotFound)
  | some (before, entities) =>
    match (entities.index.box? key).elim (.ok blueprint.extent) blueprint.extent.extendOver with
    | .ok extent => ({ blueprint with entities := entities, extent := extent }, .ok ())
    | .error error =>
      let restored := entities.modify? blueprint.table key fun _ => before
      ({ blueprint with entities := restored.getD entities }, .error error)

/-- Places values one after the other until one fails. Those before it stay placed. -/
def placeEach {α : Type} (place : Blueprint → α → Edited Placement) (blueprint : Blueprint) :
    List α → Edited (List Warning)
  | [] => (blueprint, .ok [])
  | value :: values =>
    match place blueprint value with
    | (blueprint, .error error) => (blueprint, .error error)
    | (blueprint, .ok placement) =>
      let (blueprint, outcome) := placeEach place blueprint values
      (blueprint, outcome.map (placement.warnings ++ ·))

/-- Computes the extent of what is left and then places the values. -/
def refill {α : Type} (place : Blueprint → α → Edited Placement) (blueprint : Blueprint)
    (values : List α) : Edited (List Warning) :=
  match blueprint.recalculate with
  | (blueprint, .error error) => (blueprint, .error error)
  | (blueprint, .ok ()) => placeEach place blueprint values

/-- Puts the given items in place of all entities, in a list of its own id. If that fails, the old
entities and the old extent are put back. -/
def setEntities (blueprint : Blueprint) (list : ListId) (items : List Item) :
    Edited (List Warning) :=
  match refill (·.addEntity · false) { blueprint with entities := .empty list } items with
  | (after, .ok warnings) => (after, .ok warnings)
  | (after, .error error) =>
    ({ after with entities := blueprint.entities, extent := blueprint.extent }, .error error)

/-- Removes all entities. -/
def clearEntities (blueprint : Blueprint) : Blueprint :=
  { blueprint with
    entities := blueprint.entities.clear
    extent := .ofBoxes blueprint.tiles.boxes }

/-! ### Tiles -/

/-- Inserts a tile at place `i`. -/
def insertTile (blueprint : Blueprint) (i : Nat) (tile : Tile) (merge : Bool) :
    Edited Placement :=
  blueprint.edited do
    let own ← blueprint.mode.accept (tile.warnings blueprint.table)
    let (tiles, placement, extent) ← blueprint.tiles.insert blueprint.table blueprint.mode
      blueprint.extent i tile merge
    pure ({ blueprint with tiles := tiles, extent := extent }, placement.after own)

/-- Appends a tile. -/
def addTile (blueprint : Blueprint) (tile : Tile) (merge : Bool) : Edited Placement :=
  blueprint.insertTile blueprint.tiles.length tile merge

/-- Puts a tile in place `i`. -/
def setTile (blueprint : Blueprint) (i : Nat) (tile : Tile) : Edited Placement :=
  match blueprint.mode.accept (tile.warnings blueprint.table) with
  | .error error => (blueprint, .error error)
  | .ok own =>
    match blueprint.tiles.set blueprint.table blueprint.mode blueprint.entities.boxes i tile with
    | (tiles, .error error) => ({ blueprint with tiles := tiles }, .error error)
    | (tiles, .ok (placement, extent)) =>
      ({ blueprint with tiles := tiles, extent := extent }, .ok (placement.after own))

/-- Removes tile `i`. -/
def removeTile (blueprint : Blueprint) (i : Nat) : Edited Tile :=
  blueprint.edited do
    let (tile, tiles) ← blueprint.tiles.remove i
    pure ({ blueprint with tiles := tiles }, tile)

/-- Puts the given tiles in place of all tiles. If that fails, the old tiles and the old extent are
put back. -/
def setTiles (blueprint : Blueprint) (tiles : List Tile) : Edited (List Warning) :=
  match refill (·.addTile · false) { blueprint with tiles := .empty } tiles with
  | (after, .ok warnings) => (after, .ok warnings)
  | (after, .error error) =>
    ({ after with tiles := blueprint.tiles, extent := blueprint.extent }, .error error)

/-- Removes all tiles. -/
def clearTiles (blueprint : Blueprint) : Blueprint :=
  { blueprint with
    tiles := blueprint.tiles.clear
    extent := .ofBoxes blueprint.entities.boxes }

/-! ### Schedules -/

/-- Schedule `i`, or the error that there is none. -/
def schedule (blueprint : Blueprint) (i : Nat) : Except Error (Schedule Association) :=
  match blueprint.schedules[i]? with
  | some schedule => .ok schedule
  | none => .error (.indexOutOfRange i blueprint.schedules.length)

def addSchedule (blueprint : Blueprint) (schedule : Schedule Association) : Blueprint :=
  { blueprint with schedules := blueprint.schedules ++ [schedule] }

/-- Inserts a schedule at place `i`. -/
def insertSchedule (blueprint : Blueprint) (i : Nat) (schedule : Schedule Association) :
    Edited Unit :=
  if blueprint.schedules.length < i then
    (blueprint, .error (.indexOutOfRange i blueprint.schedules.length))
  else ({ blueprint with schedules := blueprint.schedules.insertIdx i schedule }, .ok ())

/-- Replaces schedule `i` and gives the old one. -/
def setSchedule (blueprint : Blueprint) (i : Nat) (schedule : Schedule Association) :
    Edited (Schedule Association) :=
  blueprint.edited do
    let old ← blueprint.schedule i
    pure ({ blueprint with schedules := blueprint.schedules.set i schedule }, old)

/-- Removes schedule `i`. -/
def removeSchedule (blueprint : Blueprint) (i : Nat) : Edited (Schedule Association) :=
  blueprint.edited do
    let old ← blueprint.schedule i
    pure ({ blueprint with schedules := blueprint.schedules.eraseIdx i }, old)

def clearSchedules (blueprint : Blueprint) : Blueprint := { blueprint with schedules := [] }

/-- Strikes a locomotive from every schedule. -/
def forgetLocomotive (blueprint : Blueprint) (key : Key) : Blueprint :=
  { blueprint with schedules := blueprint.schedules.map (·.removeLocomotive key) }

/-- Removes the first stop of schedule `i` at a station and gives it, if there is one. -/
def removeStop (blueprint : Blueprint) (i : Nat) (station : String) : Edited (Option Stop) :=
  blueprint.edited do
    match (← blueprint.schedule i).removeStop? station with
    | some (stop, schedule) =>
      pure ({ blueprint with schedules := blueprint.schedules.set i schedule }, some stop)
    | none => pure (blueprint, none)

/-- Lets the locomotive under `key` run schedule `i`. -/
def addLocomotive (blueprint : Blueprint) (i : Nat) (key : Key) : Edited Unit :=
  match blueprint.entities.entity? key with
  | none => (blueprint, .error .entityNotFound)
  | some entity =>
    if entity.kind blueprint.table ≠ .locomotive then
      (blueprint, .error (.notConnectable entity.name .notALocomotive))
    else
      blueprint.edited do
        let schedule := (← blueprint.schedule i).addLocomotive (blueprint.entities.associate key)
        pure ({ blueprint with schedules := blueprint.schedules.set i schedule }, ())

/-- Strikes a locomotive from schedule `i`. -/
def removeLocomotive (blueprint : Blueprint) (i : Nat) (key : Key) : Edited Unit :=
  blueprint.edited do
    let schedule := (← blueprint.schedule i).removeLocomotive key
    pure ({ blueprint with schedules := blueprint.schedules.set i schedule }, ())

end Blueprint
end FactoryBlueprint
