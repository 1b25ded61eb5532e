import FactoryBlueprint.Prototype.Table
import FactoryBlueprint.Warning

/-! # Tiles

A floor tile covers one square of the grid.
-/

namespace FactoryBlueprint

structure Tile where
  name : String
  /-- The top left corner. -/
  position : GridPosition
  /-- All other keys. -/
  extra : Fields Document
  deriving Inhabited

namespace Tile

/-- The square that the tile covers. -/
def box (tile : Tile) : Box :=
  let corner := tile.position.toPoint
  ⟨corner, ⟨corner.x + 1, corner.y + 1⟩⟩

def mask (tile : Tile) (table : PrototypeTable) : Mask :=
  ((table.tile? tile.name).map (·.mask)).getD .ground

/-- The same tile on the same square. -/
def mergeableWith (tile other : Tile) : Bool :=
  tile.name = other.name && tile.position = other.position

/-- The tile with the keys of `other`, which replace its own. -/
def merge (tile other : Tile) : Tile :=
  { tile with extra := Fields.overwrite tile.extra other.extra }

/-- Warns of a tile that the table does not know and of keys that tiles do not have. -/
def warnings (tile : Tile) (table : PrototypeTable) : List Warning :=
  (if (table.tile? tile.name).isSome then [] else [.unknownTile tile.name]) ++
    if tile.extra.isEmpty then [] else [.unknownKeys tile.name (Fields.keys tile.extra)]

def read : Reader Tile :=
  Reader.openRecord "TileRecord" ["name", "position"] fun entries =>
    Tile.mk <$> entries.required "name" Reader.text <*>
      entries.required "position" GridPosition.read <*> Reading.ofValue entries.rest

/-- The tile in a document whose positions are told from `origin`. -/
def write (tile : Tile) (origin : GridPosition) : Document :=
  .object (Fields.overwrite tile.extra
    [("name", .text tile.name), ("position", (tile.position - origin).write)])

end Tile
end FactoryBlueprint
