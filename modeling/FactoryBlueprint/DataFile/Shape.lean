/-! # Shapes of entries

A shape says how an entry is written in a notation that tells lists, tuples, optional values and
bare words apart.
-/

namespace FactoryBlueprint

inductive Shape where
  | bool
  | natural
  | number
  | text
  /-- One of several names. -/
  | variant
  | list (item : Shape)
  | tuple (item : Shape)
  | optional (value : Shape)
  /-- Named fields; a record may carry the name of its type. -/
  | record (type : String) (fields : List (String × Shape))
  deriving Inhabited

namespace Shape

/-- True of a value that may be left out. -/
def isOptional : Shape → Bool
  | .optional _ => true
  | _ => false

/-- The shape of a value that is there. -/
def present : Shape → Shape
  | .optional value => value
  | shape => shape

end Shape
end FactoryBlueprint
