import FactoryBlueprint.EntityList.Search
import FactoryBlueprint.Schedule.Basic
import FactoryBlueprint.TileList

/-! # Blueprints

A blueprint holds entities, tiles and schedules with what is said about it as a whole, and the
extent of all that was placed.

An operation that can fail gives back the blueprint with its outcome (`Edited`). Where nothing else
is said, a failed operation leaves the blueprint as it was.
-/

namespace FactoryBlueprint

structure Blueprint where
  table : PrototypeTable
  label : Option String
  labelColor : Option Color
  description : Option String
  icons : List Icon
  version : Version
  snappingGridSize : Option GridPosition
  /-- Subtracted from every position that is written, and not written itself. -/
  snappingGridPosition : Option GridPosition
  absoluteSnapping : Bool
  positionRelativeToGrid : Option GridPosition
  /-- Place in a book. -/
  index : Option Nat
  /-- All other keys. -/
  extra : Fields Document
  entities : EntityList
  tiles : TileList
  schedules : List (Schedule Association)
  extent : Extent
  /-- How much is checked when something is assigned or inserted. -/
  mode : ValidationMode

/-- A blueprint after an operation, with the outcome of the operation. -/
abbrev Edited (α : Type) := Blueprint × Except Error α

namespace Blueprint

/-- Kind of a blueprint in documents. -/
def kind : String := "blueprint"

/-- A blueprint without anything in it. -/
def empty (table : PrototypeTable) (list : ListId) : Blueprint where
  table := table
  label := none
  labelColor := none
  description := none
  icons := []
  version := .current
  snappingGridSize := none
  snappingGridPosition := none
  absoluteSnapping := true
  positionRelativeToGrid := none
  index := none
  extra := []
  entities := .empty list
  tiles := .empty
  schedules := []
  extent := .empty
  mode := .strict

/-- The blueprint that an operation gives, or the one before it if it fails. -/
def edited {α : Type} (blueprint : Blueprint) : Except Error (Blueprint × α) → Edited α
  | .ok (result, a) => (result, .ok a)
  | .error error => (blueprint, .error error)

/-- A copy whose entity list has another id. Indexes are built anew. -/
def duplicate (blueprint : Blueprint) (list : ListId) : Blueprint :=
  { blueprint with
    entities := blueprint.entities.duplicate blueprint.table list
    tiles := blueprint.tiles.duplicate
    schedules := blueprint.schedules.map fun schedule =>
      { schedule with
        locomotives := schedule.locomotives.map (·.rescope blueprint.entities.id list) } }

/-- The boxes of all entities and tiles. -/
def boxes (blueprint : Blueprint) : List Box := blueprint.entities.boxes ++ blueprint.tiles.boxes

/-- Computes the extent anew, which removals leave as it was. The new extent stays even if it is
beyond the limit. -/
def recalculate (blueprint : Blueprint) : Edited Unit :=
  let extent := Extent.ofBoxes blueprint.boxes
  ({ blueprint with extent := extent }, extent.check)

/-- True if an entity must stand on the grid of rails. -/
def needsRailGrid (blueprint : Blueprint) : Bool :=
  blueprint.entities.entries.any fun (_, entity) =>
    (blueprint.table.entity? entity.name).any (·.onRailGrid)

/-! ### What is said about the whole -/

/-- The keys of the blueprint that are not known, as a warning. -/
def unknownKeys (extra : Fields Document) : List Warning :=
  if extra.isEmpty then [] else [.unknownKeys kind (Fields.keys extra)]

/-- Sets the colour of the label, checked unless nothing is. -/
def setLabelColor (blueprint : Blueprint) (color : Option Color) : Edited Unit :=
  blueprint.edited do
    match color with
    | some color => if blueprint.mode ≠ .none then color.check "label_color.color"
    | none => pure ()
    pure ({ blueprint with labelColor := color }, ())

/-- Sets the icons. -/
def setIcons (blueprint : Blueprint) (icons : List Icon) : Edited Unit :=
  blueprint.edited do
    let _ ← Icon.check icons blueprint.mode blueprint.table
    pure ({ blueprint with icons := icons }, ())

/-- Sets the icons of the given signals. -/
def setIconsByName (blueprint : Blueprint) (names : List String) : Edited Unit :=
  match Icon.ofNames blueprint.table names with
  | .ok icons => blueprint.setIcons icons
  | .error error => (blueprint, .error error)

/-- Sets the version of one to four components. -/
def setVersionComponents (blueprint : Blueprint) (components : List Nat) : Edited Unit :=
  match Version.ofComponents components with
  | .ok version => ({ blueprint with version := version }, .ok ())
  | .error fault => (blueprint, .error (.located "version" (.version fault)))

end Blueprint
end FactoryBlueprint
