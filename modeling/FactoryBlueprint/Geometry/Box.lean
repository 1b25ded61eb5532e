import FactoryBlueprint.Geometry.Point

/-! # Boxes

Boxes have sides along the axes. Two boxes overlap if they share more than an edge: each starts
before the other ends by more than the position tolerance.
-/

namespace FactoryBlueprint

/-- A box from its least corner to its greatest. -/
structure Box where
  min : Point
  max : Point
  deriving DecidableEq, Inhabited

namespace Box

def ofBounds (minX minY maxX maxY : Binary64) : Box := ⟨⟨minX, minY⟩, ⟨maxX, maxY⟩⟩

/-- The box around the origin that reaches `half` in every direction. -/
def square (half : Binary64) : Box := ofBounds (-half) (-half) half half

def translate (box : Box) (offset : Point) : Box := ⟨box.min + offset, box.max + offset⟩

/-- The box after a clockwise quarter turn about the origin. -/
def quarterTurn (box : Box) : Box := ofBounds (-box.max.y) box.min.x (-box.min.y) box.max.x

/-- The least box around two boxes. -/
def union (a b : Box) : Box :=
  ofBounds (Min.min a.min.x b.min.x) (Min.min a.min.y b.min.y)
    (Max.max a.max.x b.max.x) (Max.max a.max.y b.max.y)

/-- The least box around all boxes, if there are any. -/
def union? : List Box → Option Box
  | [] => none
  | box :: boxes => some (boxes.foldl union box)

/-- True if the boxes share more than an edge. -/
def overlaps (a b : Box) : Bool :=
  a.min.x < b.max.x - positionTolerance && b.min.x < a.max.x - positionTolerance &&
    a.min.y < b.max.y - positionTolerance && b.min.y < a.max.y - positionTolerance

/-- True if the point lies in the box or on its edge. -/
def contains (box : Box) (p : Point) : Bool :=
  box.min.x ≤ p.x && p.x ≤ box.max.x && box.min.y ≤ p.y && p.y ≤ box.max.y

def width (box : Box) : Binary64 := box.max.x - box.min.x

def height (box : Box) : Binary64 := box.max.y - box.min.y

def center (box : Box) : Point := ⟨(box.min.x + box.max.x) / 2, (box.min.y + box.max.y) / 2⟩

/-- The largest count of tiles. -/
def maxTiles : Nat := 4294967295

/-- The tiles that a span touches, as many as can be counted. -/
def tilesAcross (span : Binary64) : Nat := (span.ceil 0 maxTiles).toNat

/-- Tiles across the width. -/
def tileWidth (box : Box) : Nat := tilesAcross box.width

/-- Tiles across the height. -/
def tileHeight (box : Box) : Nat := tilesAcross box.height

end Box
end FactoryBlueprint
