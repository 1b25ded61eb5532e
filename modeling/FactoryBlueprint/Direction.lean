import FactoryBlueprint.Document.Reader

/-! # Directions

Entities face one of eight compass points, numbered clockwise from north.
-/

namespace FactoryBlueprint

inductive Direction where
  | north
  | northEast
  | east
  | southEast
  | south
  | southWest
  | west
  | northWest
  deriving DecidableEq, Inhabited

namespace Direction

/-- All directions, clockwise from north. -/
def all : List Direction :=
  [.north, .northEast, .east, .southEast, .south, .southWest, .west, .northWest]

/-- The number of the direction. -/
def code (direction : Direction) : Nat := all.idxOf direction

def ofCode? (code : Nat) : Option Direction := all[code]?

theorem ofCode?_code (direction : Direction) : ofCode? direction.code = some direction := by
  cases direction <;> rfl

/-- One of north, east, south and west. -/
def isCardinal (direction : Direction) : Bool := direction.code % 2 = 0

/-- East or west: the directions that turn a footprint on its side. -/
def isSideways (direction : Direction) : Bool := direction = .east || direction = .west

def read : Reader Direction := fun document => do
  let code ← Reader.natural 8 document
  match ofCode? code with
  | some direction => pure direction
  | none => .error (.broken s!"direction must be within 0..=7, found {code}")

def write (direction : Direction) : Document := .ofNat direction.code

end Direction
end FactoryBlueprint
