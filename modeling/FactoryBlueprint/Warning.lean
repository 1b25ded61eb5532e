import FactoryBlueprint.Geometry.Point
import FactoryBlueprint.Signal

/-! # Warnings

A warning says that a blueprint can be used but probably not in the way that was meant.
-/

namespace FactoryBlueprint

inductive Warning where
  /-- An object has keys that its type does not know. -/
  | unknownKeys (object : String) (keys : List String)
  | unknownEntity (name : String)
  | unknownTile (name : String)
  | unknownSignal (name : String)
  /-- A known signal with another type than its own. -/
  | mismatchedSignal (name : String) (expected found : SignalType)
  /-- The object `name` at `position` overlaps the object `other`. -/
  | overlap (name other : String) (position : Point)
  /-- An object that faces a diagonal and may not. -/
  | diagonal (name : String) (direction : Nat)
  /-- A bar beyond the last slot of an inventory. -/
  | barBeyondInventory (bar size : Nat)
  | wireTooLong (distance reach : Binary64)
  | tooManyNeighbours (name : String) (count : Nat)
  | unknownWaitKind (kind station : String)

namespace Warning

/-- The most copper wires that a pole may carry. -/
def maxNeighbours : Nat := 5

def message : Warning → String
  | unknownKeys object keys =>
    "'" ++ object ++ "' object has no attribute(s) " ++ Quoted.texts keys ++
      "; allowed fields are ignored in-game"
  | unknownEntity name => s!"unknown entity '{name}'"
  | unknownTile name => s!"unknown tile '{name}'"
  | unknownSignal name => s!"unknown signal '{name}'"
  | mismatchedSignal name expected found =>
    s!"known signal '{name}' was given a mismatching type " ++
      s!"(expected '{expected.name}', found '{found.name}')"
  | overlap name other position => s!"'{name}' at {position.text} intersects '{other}'"
  | diagonal name direction => s!"'{name}' only supports cardinal directions, found {direction}"
  | barBeyondInventory bar size => s!"bar index {bar} exceeds inventory size {size}"
  | wireTooLong distance reach =>
    "wire distance " ++ distance.toFixed 2 ++ " exceeds reach " ++
      NumberLayout.message.render reach
  | tooManyNeighbours name count =>
    s!"'{name}' has {count} power connections; only {maxNeighbours} are permitted in-game"
  | unknownWaitKind kind station =>
    s!"unknown wait condition type '{kind}' at station '{station}'"

end Warning
end FactoryBlueprint
