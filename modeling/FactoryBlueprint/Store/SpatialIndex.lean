import FactoryBlueprint.Geometry.Extent
import FactoryBlueprint.Store.Arena
import FactoryBlueprint.Store.Distinct
import Std.Data.HashMap

/-! # Spatial index

The index finds the objects whose boxes overlap an area. The plane is divided into square cells, and
every cell lists the keys whose boxes reach into it, in the order in which they were added. A query
visits the cells of its area row by row and keeps the keys whose boxes overlap the area.

The index has one box for each slot, that of the tenant which was added. It does not know when a
tenant leaves its slot: a key that is added while an earlier tenant still has a box takes the box from
it, but not the places in cells.
-/

namespace FactoryBlueprint

/-- A cell of the plane: its column and its row. -/
abbrev Cell := Int × Int

namespace Cell

/-- Length of a cell's side in tiles. -/
def side : Binary64 := 8

/-- The least column and row. -/
def least : Int := -2147483648

/-- The greatest column and row. -/
def greatest : Int := 2147483647

/-- The column or row of a coordinate. Those out of range belong to the last one on their side. -/
def coordinate (x : Binary64) : Int := (x / side).floor least greatest

def ofPoint (p : Point) : Cell := (coordinate p.x, coordinate p.y)

/-- The integers from `low` to `high`, both included. -/
def span (low high : Int) : List Int :=
  (List.range (high - low + 1).toNat).map fun (n : Nat) => low + n

/-- The cells that a box reaches into, row by row. -/
def covering (box : Box) : List Cell :=
  let (left, top) := ofPoint box.min
  let (right, bottom) := ofPoint box.max
  (span top bottom).flatMap fun row => (span left right).map fun column => (column, row)

theorem mem_span {low high i : Int} : i ∈ span low high ↔ low ≤ i ∧ i ≤ high := by
  simp only [span, List.mem_map, List.mem_range]
  constructor
  · rintro ⟨n, inside, rfl⟩
    omega
  · rintro ⟨above, below⟩
    exact ⟨(i - low).toNat, by omega, by omega⟩

end Cell

/-- Keys with their boxes, found by area. -/
structure SpatialIndex where
  /-- The keys in each cell that has any. -/
  cells : Std.HashMap Cell (List Key)
  /-- By slot, the generation of the tenant that has a box, with the box. -/
  boxes : Std.HashMap Nat (Nat × Box)

namespace SpatialIndex

def empty : SpatialIndex := ⟨∅, ∅⟩

instance : Inhabited SpatialIndex := ⟨empty⟩

/-- The keys in a cell. -/
def cell (index : SpatialIndex) (cell : Cell) : List Key := index.cells.getD cell []

def box? (index : SpatialIndex) (key : Key) : Option Box :=
  match index.boxes[key.slot]? with
  | some (generation, box) => if generation = key.generation then some box else none
  | none => none

def contains (index : SpatialIndex) (key : Key) : Bool := (index.box? key).isSome

def size (index : SpatialIndex) : Nat := index.boxes.size

def isEmpty (index : SpatialIndex) : Bool := index.boxes.isEmpty

/-- Every box, in no order that counts. -/
def boxList (index : SpatialIndex) : List Box := index.boxes.toList.map (·.2.2)

/-- Lists `key` last in a cell. -/
def enter (key : Key) (cells : Std.HashMap Cell (List Key)) (cell : Cell) :
    Std.HashMap Cell (List Key) :=
  cells.insert cell (cells.getD cell [] ++ [key])

/-- Strikes `key` from a cell, and the cell if no key is left in it. -/
def leave (key : Key) (cells : Std.HashMap Cell (List Key)) (cell : Cell) :
    Std.HashMap Cell (List Key) :=
  match (cells.getD cell []).filter (· ≠ key) with
  | [] => cells.erase cell
  | keys => cells.insert cell keys

/-- The index without `key`. -/
def remove (index : SpatialIndex) (key : Key) : SpatialIndex :=
  match index.box? key with
  | none => index
  | some box => ⟨(Cell.covering box).foldl (leave key) index.cells, index.boxes.erase key.slot⟩

/-- The boxes with one for `key`, unless a later tenant of its slot has one. -/
def record (boxes : Std.HashMap Nat (Nat × Box)) (key : Key) (box : Box) :
    Std.HashMap Nat (Nat × Box) :=
  match boxes[key.slot]? with
  | some (generation, _) =>
    if key.generation < generation then boxes else boxes.insert key.slot (key.generation, box)
  | none => boxes.insert key.slot (key.generation, box)

/-- The index with `key` under the given box, in place of an earlier one. -/
def add (index : SpatialIndex) (key : Key) (box : Box) : SpatialIndex :=
  let index := index.remove key
  ⟨(Cell.covering box).foldl (enter key) index.cells, record index.boxes key box⟩

/-- The index without the given keys, removed one after the other. -/
def removeAll (index : SpatialIndex) (keys : List Key) : SpatialIndex := keys.foldl remove index

/-- The index with the given keys and boxes, added one after the other. -/
def addAll (index : SpatialIndex) (entries : List (Key × Box)) : SpatialIndex :=
  entries.foldl (fun index (key, box) => index.add key box) index

/-- The keys whose boxes overlap `area`, each once, as the cells of the area list them. -/
def query (index : SpatialIndex) (area : Box) : List Key :=
  Distinct.addAll [] (((Cell.covering area).flatMap index.cell).filter fun key =>
    (index.box? key).any (·.overlaps area))

end SpatialIndex
end FactoryBlueprint
