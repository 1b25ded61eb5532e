import FactoryBlueprint.Entity.Basic

/-! # Samples

Small contents to try things out with.
-/

namespace FactoryBlueprint.Sample

/-- A wooden chest on a tile. -/
def chestOn (tile : GridPosition) : Entity := .plain "wooden-chest" (tile.toPoint + ⟨0.5, 0.5⟩)

/-- A row of wooden chests, eastward from the origin. -/
def chestRow (count : Nat) : List Entity :=
  (List.range count).map fun (x : Nat) => chestOn ⟨x, 0⟩

/-- The tiles of a square, row by row from its top left corner. -/
def square (side : Nat) (corner : GridPosition) : List GridPosition :=
  (List.range side).flatMap fun (y : Nat) => (List.range side).map fun (x : Nat) =>
    ⟨corner.x + x, corner.y + y⟩

def position (x y : Document) : Document := .ofFields [("x", x), ("y", y)]

/-- A wooden chest wired to another one. -/
def wiredChest (number other : Nat) (x : Binary64) : Document :=
  .ofFields [("entity_number", .ofNat number), ("name", .text "wooden-chest"),
    ("position", position (.number x) (.number 0.5)),
    ("connections", .ofFields [("1", .ofFields [("red",
      .array [.ofFields [("entity_id", .ofNat other)]])])])]

def locomotive : Document :=
  .ofFields [("entity_number", .ofNat 3), ("name", .text "locomotive"),
    ("position", position (.ofNat 10) (.ofNat 3)), ("orientation", .number 0.25)]

def schedule : Document :=
  .ofFields [("locomotives", .array [.ofNat 3]),
    ("schedule", .array [.ofFields [("station", .text "Iron"), ("wait_conditions",
      .array [.ofFields [("type", .text "full"), ("compare_type", .text "or")]])]])]

/-- A blueprint with two wired chests, a locomotive with a schedule, and a tile. -/
def document : Document :=
  .ofFields [("blueprint", .ofFields [("item", .text "blueprint"), ("label", .text "Sample"),
    ("label_color", .ofFields [("r", .number 0.5), ("g", .number 0.25), ("b", .number 1.0)]),
    ("icons", .array [.ofFields [("signal", .ofFields [("name", .text "wooden-chest"),
      ("type", .text "item")]), ("index", .ofNat 1)]]),
    ("version", .ofNat 281479278886912),
    ("entities", .array [wiredChest 1 2 0.5, wiredChest 2 1 5.5, locomotive]),
    ("tiles", .array [.ofFields [("name", .text "concrete"),
      ("position", position (.ofNat 0) (.ofNat 2))]]),
    ("schedules", .array [schedule])])]

end FactoryBlueprint.Sample
