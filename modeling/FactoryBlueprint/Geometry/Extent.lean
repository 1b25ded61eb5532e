import FactoryBlueprint.Geometry.Box

/-! # The extent of a blueprint

The extent is the box around everything that was placed. It grows as objects are added and may not
span more than `Extent.maxTiles` tiles on either axis; removals leave it as it is until it is
computed anew from the boxes present.
-/

namespace FactoryBlueprint

/-- The tiles that a blueprint beyond the limit would span. -/
structure Oversize where
  width : Nat
  height : Nat
  deriving DecidableEq

/-- The box around everything placed, nothing at first, and the tiles that it spans. -/
structure Extent where
  area : Option Box
  tileWidth : Nat
  tileHeight : Nat
  width_eq : tileWidth = (area.map Box.tileWidth).getD 0
  height_eq : tileHeight = (area.map Box.tileHeight).getD 0
  deriving DecidableEq

namespace Extent

/-- The most tiles that a blueprint may span on one axis. -/
def maxTiles : Nat := 10000

/-- The extent of an area, with the tiles that it spans. -/
def ofArea (area : Option Box) : Extent where
  area := area
  tileWidth := (area.map Box.tileWidth).getD 0
  tileHeight := (area.map Box.tileHeight).getD 0
  width_eq := rfl
  height_eq := rfl

def empty : Extent := ofArea none

instance : Inhabited Extent := ⟨empty⟩

/-- The extent of the given boxes, whatever its size. -/
def ofBoxes (boxes : List Box) : Extent := ofArea (Box.union? boxes)

/-- The size of an extent beyond the limit. -/
def oversize? (extent : Extent) : Option Oversize :=
  if maxTiles < extent.tileWidth ∨ maxTiles < extent.tileHeight then
    some ⟨extent.tileWidth, extent.tileHeight⟩
  else none

/-- The extent that also covers `box`, whatever its size. -/
def cover (extent : Extent) (box : Box) : Extent :=
  ofArea (some (extent.area.elim box (·.union box)))

/-- Grows the extent to cover `box`. If that would take it beyond the limit, it stays as it is. -/
def extend (extent : Extent) (box : Box) : Extent × Except Oversize Unit :=
  match (extent.cover box).oversize? with
  | some size => (extent, .error size)
  | none => (extent.cover box, .ok ())

/-- An extent is told by its area. -/
theorem eq_ofArea (extent : Extent) : extent = ofArea extent.area := by
  obtain ⟨area, width, height, rfl, rfl⟩ := extent
  rfl

end Extent
end FactoryBlueprint
