import FactoryBlueprint.Document.Reader

/-! # Collision masks

A mask is the set of layers that an object occupies. Two objects collide only if their boxes overlap
and their masks share a layer.
-/

namespace FactoryBlueprint

/-- A set of layers, in increasing order. -/
structure Mask where
  layers : List String
  deriving DecidableEq, Inhabited

namespace Mask

def ofList (layers : List String) : Mask :=
  ⟨(Fields.ofList (layers.map fun layer => (layer, ()))).keys⟩

/-- Layers of ordinary buildings. -/
def building : Mask := ofList ["item-layer", "object-layer", "player-layer", "water-tile"]

/-- Layers of rails. -/
def rail : Mask := ofList ["item-layer", "object-layer", "floor-layer", "water-tile"]

/-- Layers of floor tiles. -/
def ground : Mask := ofList ["ground-tile"]

def contains (mask : Mask) (layer : String) : Bool := mask.layers.contains layer

/-- True if some layer belongs to both. -/
def intersects (a b : Mask) : Bool := a.layers.any b.contains

def isEmpty (mask : Mask) : Bool := mask.layers.isEmpty

def read : Reader Mask := fun document => (Reader.list Reader.text document).map ofList

end Mask
end FactoryBlueprint
