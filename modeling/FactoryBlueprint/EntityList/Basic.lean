import FactoryBlueprint.Association
import FactoryBlueprint.Entity.Item
import FactoryBlueprint.EntityList.Member
import FactoryBlueprint.Store.SpatialIndex

/-! # Entity lists

An entity list holds the entities and groups of a blueprint in order. Objects stand under keys in an
arena, each with the group that lists it, their order and grouping is a forest of keys, and the
entities are found by area through an index of their boxes. Groups have no box of their own.
-/

namespace FactoryBlueprint

/-- What stands under a key: an entity, or a group without its members. -/
inductive Content where
  | entity (entity : Entity)
  | group (id : Option String) (position : Point)
  deriving Inhabited

/-- Where an object is listed. -/
structure Site where
  /-- The group that lists it, if it is not a top member. -/
  parent : Option Key
  /-- The sum of the positions of the groups around it. -/
  offset : Point
  deriving Inhabited

namespace Site

/-- Outside of all groups. -/
def top : Site := ⟨none, .zero⟩

/-- Within the group under a key, which is at `position` itself. -/
def within (site : Site) (group : Key) (position : Point) : Site :=
  ⟨some group, site.offset + position⟩

end Site

/-- An object in its place. -/
structure Placed extends Site where
  content : Content
  deriving Inhabited

namespace Placed

def entity? (placed : Placed) : Option Entity :=
  match placed.content with
  | .entity entity => some entity
  | .group .. => none

/-- The name that the object is found by. -/
def id (placed : Placed) : Option String :=
  match placed.content with
  | .entity entity => entity.id
  | .group id _ => id

/-- The position within the group around it. -/
def position (placed : Placed) : Point :=
  match placed.content with
  | .entity entity => entity.position
  | .group _ position => position

/-- The position in the blueprint. -/
def worldPosition (placed : Placed) : Point := placed.offset + placed.position

/-- The box in the blueprint, of an entity. -/
def worldBox? (placed : Placed) (table : PrototypeTable) : Option Box :=
  placed.entity?.map (·.worldBox table placed.offset)

/-- The object with `f` applied to it if it is an entity. -/
def mapEntity (placed : Placed) (f : Entity → Entity) : Placed :=
  match placed.content with
  | .entity entity => { placed with content := .entity (f entity) }
  | .group .. => placed

end Placed

structure EntityList where
  id : ListId
  arena : Arena Placed
  members : List Member
  index : SpatialIndex
  deriving Inhabited

namespace EntityList

/-- A list without members. -/
def empty (id : ListId) : EntityList := ⟨id, .empty, [], .empty⟩

/-- How many members the list has, a group counting as one. -/
def length (list : EntityList) : Nat := list.members.length

def get? (list : EntityList) (key : Key) : Option Placed := list.arena.get? key

def entity? (list : EntityList) (key : Key) : Option Entity := (list.get? key).bind Placed.entity?

/-- The id of the object under a key. -/
def idOf? (list : EntityList) (key : Key) : Option String := (list.get? key).bind Placed.id

/-- True if an entity or group stands under the key. -/
def contains (list : EntityList) (key : Key) : Bool := list.arena.contains key

/-- The association to an object of this list. -/
def associate (list : EntityList) (key : Key) : Association := ⟨list.id, key⟩

/-- True if the association was made in this list and its target is still there. -/
def holds (list : EntityList) (association : Association) : Bool :=
  association.list = list.id && list.contains association.target

/-- The keys of all entities in order. -/
def leaves (list : EntityList) : List Key := Member.leavesOfAll list.members

/-- The entities in order, under their keys. -/
def entries (list : EntityList) : List (Key × Entity) :=
  list.leaves.filterMap fun key => (list.entity? key).map (key, ·)

/-- The boxes of all entities. -/
def boxes (list : EntityList) : List Box := list.index.boxList

def worldPosition? (list : EntityList) (key : Key) : Option Point :=
  (list.get? key).map Placed.worldPosition

/-- Place of a key among the top members. -/
def indexOf? (list : EntityList) (key : Key) : Option Nat :=
  list.members.findIdx? (·.key = key)

/-- The member of the given key, at any depth. -/
def member? (list : EntityList) (key : Key) : Option Member :=
  Member.findAmong? key list.members

mutual

/-- The item that a member stands for. -/
def item? (list : EntityList) : Member → Option Item
  | .entity key => (list.entity? key).map .entity
  | .group key members =>
    match list.get? key with
    | some ⟨_, .group id position⟩ => some (.group id position (items list members))
    | _ => none

/-- The items that members stand for. -/
def items (list : EntityList) : List Member → List Item
  | [] => []
  | member :: rest => (item? list member).toList ++ items list rest

end

/-- A copy under another id. Keys stay, and associations within the list become those of the copy.
-/
def duplicate (list : EntityList) (table : PrototypeTable) (id : ListId) : EntityList :=
  let arena := list.arena.map fun placed =>
    placed.mapEntity (·.mapAssociations (·.rescope list.id id))
  let boxes := list.leaves.filterMap fun key =>
    ((arena.get? key).bind (·.worldBox? table)).map (key, ·)
  ⟨id, arena, list.members, SpatialIndex.empty.addAll boxes⟩

end EntityList
end FactoryBlueprint
