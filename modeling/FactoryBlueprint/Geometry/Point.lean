import FactoryBlueprint.Number.Decimal
import FactoryBlueprint.Document.Reader

/-! # Points and grid positions

Coordinates are in tiles, `x` east and `y` south. A `Point` is a place or an offset with fractional
coordinates, such as the centre of an entity; a `GridPosition` is a whole one, such as the top left
corner of a tile.
-/

namespace FactoryBlueprint

-- Powers are those of the core library wherever this is imported.
attribute [local instance (high)] instPowNat

/-- A place or an offset. -/
structure Point where
  x : Binary64
  y : Binary64
  deriving DecidableEq, Inhabited

/-- A place or an offset in whole tiles. -/
structure GridPosition where
  x : Int
  y : Int
  deriving DecidableEq, Inhabited

/-- Coordinates that differ by less than this are taken as equal. -/
def positionTolerance : Binary64 := 1e-9

namespace Point

def zero : Point := ⟨0, 0⟩

instance : Add Point := ⟨fun p q => ⟨p.x + q.x, p.y + q.y⟩⟩
instance : Sub Point := ⟨fun p q => ⟨p.x - q.x, p.y - q.y⟩⟩
instance : Neg Point := ⟨fun p => ⟨-p.x, -p.y⟩⟩

def distance (p q : Point) : Binary64 :=
  let dx := p.x - q.x
  let dy := p.y - q.y
  (dx * dx + dy * dy).sqrt

/-- Equality within the tolerance on both axes. -/
def near (p q : Point) : Bool :=
  (p.x - q.x).abs < positionTolerance && (p.y - q.y).abs < positionTolerance

/-- The point in a message. -/
def text (p : Point) : String :=
  "(" ++ NumberLayout.message.render p.x ++ ", " ++ NumberLayout.message.render p.y ++ ")"

def read : Reader Point := Reader.record "Vector" ["x", "y"] fun entries =>
  Point.mk <$> entries.required "x" Reader.number <*> entries.required "y" Reader.number

end Point

/-- A coordinate in a document. Whole numbers below `2 ^ 53` are written as integers. -/
def writeCoordinate (x : Binary64) : Document :=
  match x.whole? with
  | some n => if n.natAbs < 2 ^ (53 : Nat) then .integer n else .ofNumber x
  | none => .ofNumber x

def Point.write (p : Point) : Document :=
  .ofFields [("x", writeCoordinate p.x), ("y", writeCoordinate p.y)]

/-- A whole number as 32 bits with a sign hold it: around the end it starts again. -/
def wrap32 (n : Int) : Int := n.bmod 4294967296

namespace GridPosition

def zero : GridPosition := ⟨0, 0⟩

instance : Sub GridPosition := ⟨fun p q => ⟨wrap32 (p.x - q.x), wrap32 (p.y - q.y)⟩⟩

def toPoint (p : GridPosition) : Point := ⟨.ofInt p.x, .ofInt p.y⟩

/-- The position in a message. -/
def text (p : GridPosition) : String := s!"({p.x}, {p.y})"

def read : Reader GridPosition := Reader.record "IntPosition" ["x", "y"] fun entries =>
  GridPosition.mk <$> entries.required "x" Reader.int32 <*> entries.required "y" Reader.int32

def write (p : GridPosition) : Document := .ofFields [("x", .integer p.x), ("y", .integer p.y)]

end GridPosition
end FactoryBlueprint
