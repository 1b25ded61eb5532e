import FactoryBlueprint.Store.Arena

/-! # Associations

An association refers to an object by the list that holds it and its key there. A key means nothing
in another list, so an association that is carried into another list refers to nothing there.
-/

namespace FactoryBlueprint

/-- Tells entity lists apart. No two lists have the same. -/
structure ListId where
  number : Nat
  deriving DecidableEq, Inhabited

/-- A reference to an object of a list, whether it is still there or not. -/
structure Association where
  list : ListId
  target : Key
  deriving DecidableEq, Inhabited

namespace Association

/-- True if the target has the given key, in whichever list. -/
def pointsTo (association : Association) (key : Key) : Bool := association.target = key

/-- The association moved to the list `new` if it belongs to `old`. -/
def rescope (association : Association) (old new : ListId) : Association :=
  if association.list = old then ⟨new, association.target⟩ else association

end Association
end FactoryBlueprint
