import FactoryBlueprint.Entity.Basic

/-! # Items

What is placed in a blueprint: an entity, or a group of items that share an origin.
-/

namespace FactoryBlueprint

inductive Item where
  | entity (entity : Entity)
  | group (id : Option String) (position : Point) (members : List Item)
  deriving Inhabited

namespace Item

mutual

/-- The warnings of all entities in the item, in order. -/
def warnings (table : PrototypeTable) : Item → List Warning
  | .entity e => e.warnings table
  | .group _ _ members => warningsOfAll table members

def warningsOfAll (table : PrototypeTable) : List Item → List Warning
  | [] => []
  | item :: items => warnings table item ++ warningsOfAll table items

end

end Item
end FactoryBlueprint
