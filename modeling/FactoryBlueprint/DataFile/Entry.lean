import FactoryBlueprint.DataFile.Shape
import FactoryBlueprint.Document.Reader
import FactoryBlueprint.Signal

/-! # Entries of data files

Data files list entries from which prototypes are made. `shape` says how an entry is written, `read`
takes it out of a document.
-/

namespace FactoryBlueprint

/-- A footprint in tiles. -/
structure Footprint where
  width : Nat
  height : Nat

namespace Footprint

def read : Reader Footprint := Reader.record "FootprintData" ["width", "height"] fun entries =>
  Footprint.mk <$> entries.required "width" (Reader.natural 32) <*>
    entries.required "height" (Reader.natural 32)

def shape : Shape := .record "FootprintData" [("width", .natural), ("height", .natural)]

end Footprint

/-- An entity prototype as it is listed. -/
structure EntityEntry where
  name : String
  kind : String
  /-- The bounds of the box: least `x` and `y`, greatest `x` and `y`. -/
  bounds : List Binary64
  mask : Option (List String)
  footprint : Option Footprint
  circuitReach : Option Binary64
  copperReach : Option Binary64
  inventorySize : Option Nat
  onRailGrid : Bool

namespace EntityEntry

def read : Reader EntityEntry :=
  Reader.record "EntityData" ["name", "kind", "collision_box", "collision_mask", "footprint",
      "circuit_wire_max_distance", "maximum_wire_distance", "inventory_size",
      "double_grid_aligned"] fun entries =>
    EntityEntry.mk <$> entries.required "name" Reader.text <*>
      entries.required "kind" Reader.text <*>
      entries.required "collision_box" (Reader.listOfLength 4 Reader.number) <*>
      entries.optional "collision_mask" (Reader.list Reader.text) <*>
      entries.optional "footprint" Footprint.read <*>
      entries.optional "circuit_wire_max_distance" Reader.number <*>
      entries.optional "maximum_wire_distance" Reader.number <*>
      entries.optional "inventory_size" (Reader.natural 16) <*>
      entries.withDefault "double_grid_aligned" false Reader.bool

def shape : Shape :=
  .record "EntityData" [("name", .text), ("kind", .text), ("collision_box", .tuple .number),
    ("collision_mask", .optional (.list .text)), ("footprint", .optional Footprint.shape),
    ("circuit_wire_max_distance", .optional .number),
    ("maximum_wire_distance", .optional .number), ("inventory_size", .optional .natural),
    ("double_grid_aligned", .bool)]

end EntityEntry

/-- A tile prototype as it is listed. -/
structure TileEntry where
  name : String
  mask : Option (List String)

namespace TileEntry

def read : Reader TileEntry := Reader.record "TileData" ["name", "collision_mask"] fun entries =>
  TileEntry.mk <$> entries.required "name" Reader.text <*>
    entries.optional "collision_mask" (Reader.list Reader.text)

def shape : Shape :=
  .record "TileData" [("name", .text), ("collision_mask", .optional (.list .text))]

end TileEntry

/-- A signal as it is listed. -/
structure SignalEntry where
  name : String
  type : SignalType

namespace SignalEntry

def read (nothing : Reader Unit := Reader.unit) : Reader SignalEntry :=
  Reader.record "SignalData" ["name", "type"] fun entries =>
    SignalEntry.mk <$> entries.required "name" Reader.text <*>
      entries.required "type" (SignalType.read nothing)

def shape : Shape := .record "SignalData" [("name", .text), ("type", .variant)]

end SignalEntry
end FactoryBlueprint
