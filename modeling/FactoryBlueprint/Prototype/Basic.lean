import FactoryBlueprint.Geometry.Box
import FactoryBlueprint.Prototype.Kind
import FactoryBlueprint.Prototype.Mask

/-! # Prototypes

A prototype describes every entity, or every tile, of one name.
-/

namespace FactoryBlueprint

/-- What all entities of one name have in common. -/
structure EntityPrototype where
  name : String
  kind : Kind
  /-- The collision box around the centre, facing north. -/
  box : Box
  mask : Mask
  /-- Tiles that the footprint spans. -/
  tileWidth : Nat
  tileHeight : Nat
  /-- Reach of red and green wires, if it takes any. -/
  circuitReach : Option Binary64
  /-- Reach of copper wires between poles. -/
  copperReach : Option Binary64
  inventorySize : Option Nat
  /-- Must stand on the grid of two by two tiles that rails have. -/
  onRailGrid : Bool
  deriving Inhabited

/-- What all tiles of one name have in common. -/
structure TilePrototype where
  name : String
  mask : Mask
  deriving Inhabited

namespace EntityPrototype

/-- A plain building whose footprint is its box in whole tiles, one at the least. -/
def building (name : String) (kind : Kind) (box : Box) : EntityPrototype where
  name := name
  kind := kind
  box := box
  mask := .building
  tileWidth := max box.tileWidth 1
  tileHeight := max box.tileHeight 1
  circuitReach := none
  copperReach := none
  inventorySize := none
  onRailGrid := false

def isCircuitConnectable (prototype : EntityPrototype) : Bool := prototype.circuitReach.isSome

def isPowerConnectable (prototype : EntityPrototype) : Bool := prototype.kind = .electricPole

end EntityPrototype

/-- A floor tile with the usual layer. -/
def TilePrototype.floor (name : String) : TilePrototype := ⟨name, .ground⟩

end FactoryBlueprint
