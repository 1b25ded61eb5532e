import FactoryBlueprint.EntityList.Basic
import FactoryBlueprint.Validation

/-! # Placing entities

An item is placed entity by entity. An entity may merge into one that stands at its place already;
otherwise it gets a key, and the entities that it collides with are reported. A group gets a key of
its own and keeps the members that did not merge away.

Operations that may fail give the list back with their outcome. What was placed is discarded on
failure; entities that absorbed another keep what they absorbed.
-/

namespace FactoryBlueprint

/-- What became of an object that was placed. -/
structure Placement where
  /-- The key of the object that stands for it now. -/
  key : Key
  /-- It was merged into an object that was there before. -/
  merged : Bool
  warnings : List Warning

namespace EntityList

/-- What placing an item gives: a new member, or the key of the entity that absorbed it. -/
inductive Outcome where
  | inserted (member : Member) (warnings : List Warning)
  | merged (into : Key)

/-- True if the entity can merge into the object that stands under `key`. -/
def absorbs (list : EntityList) (entity : Entity) (world : Point) (key : Key) : Bool :=
  match list.get? key with
  | some placed =>
    placed.worldPosition.near world && placed.entity?.any (·.mergeableWith entity)
  | none => false

/-- Warns that the entity collides with the one under `key`. -/
def collision? (list : EntityList) (table : PrototypeTable) (entity : Entity) (world : Point)
    (key : Key) : Option Warning := do
  let existing ← list.entity? key
  if (existing.mask table).intersects (entity.mask table) then
    some (.overlap entity.name existing.name world)
  else none

/-- Places one entity at a site. -/
def placeEntity (list : EntityList) (table : PrototypeTable) (merge : Bool) (site : Site)
    (entity : Entity) : EntityList × Outcome :=
  let area := entity.worldBox table site.offset
  let world := site.offset + entity.position
  let near := list.index.query area
  match if merge then near.find? (list.absorbs entity world) else none with
  | some key =>
    ({ list with arena := list.arena.modify key (·.mapEntity (·.merge entity)) }, .merged key)
  | none =>
    let key := list.arena.nextKey
    ({ list with
        arena := list.arena.insert ⟨site, .entity entity⟩
        index := list.index.add key area },
      .inserted (.entity key) (near.filterMap (list.collision? table entity world)))

mutual

/-- Places an item at a site. -/
def place (table : PrototypeTable) (merge : Bool) (site : Site) :
    Item → EntityList → EntityList × Outcome
  | .entity e, list => list.placeEntity table merge site e
  | .group id position members, list =>
    let key := list.arena.nextKey
    let list := { list with arena := list.arena.insert ⟨site, .group id position⟩ }
    let (list, members, warnings) := placeAll table merge (site.within key position) members list
    (list, .inserted (.group key members) warnings)

/-- Places items one after the other. Those that merge leave no member and no warning. -/
def placeAll (table : PrototypeTable) (merge : Bool) (site : Site) :
    List Item → EntityList → EntityList × List Member × List Warning
  | [], list => (list, [], [])
  | item :: items, list =>
    let (list, outcome) := place table merge site item list
    let (list, members, warnings) := placeAll table merge site items list
    match outcome with
    | .inserted member own => (list, member :: members, own ++ warnings)
    | .merged _ => (list, members, warnings)

end

/-- The list without a member that is not in its order. -/
def discard (list : EntityList) (member : Member) : EntityList :=
  { list with
    index := list.index.removeAll member.leaves
    arena := list.arena.removeAll member.keys }

/-- The box around the entities of a member, if it has any. -/
def bounds? (list : EntityList) (member : Member) : Option Box :=
  Box.union? (member.leaves.filterMap list.index.box?)

/-- The extent that also covers a member. -/
def extendOver (list : EntityList) (member : Member) (extent : Extent) : Except Error Extent :=
  match list.bounds? member with
  | none => .ok extent
  | some bounds => extent.extendOver bounds

/-- Inserts an item at place `i`. -/
def insert (list : EntityList) (table : PrototypeTable) (mode : ValidationMode) (extent : Extent)
    (i : Nat) (item : Item) (merge : Bool) : EntityList × Except Error (Placement × Extent) :=
  if list.length < i then (list, .error (.indexOutOfRange i list.length))
  else
    match place table merge .top item list with
    | (list, .merged key) => (list, .ok (⟨key, true, []⟩, extent))
    | (list, .inserted member warnings) =>
      let accepted := do
        let warnings ← mode.accept warnings
        pure (warnings, ← list.extendOver member extent)
      match accepted with
      | .error error => (list.discard member, .error error)
      | .ok (warnings, extent) =>
        ({ list with members := list.members.insertIdx i member },
          .ok (⟨member.key, false, warnings⟩, extent))

/-- Puts an item in the place of member `i`, without merging. The extent is computed anew from the
entities and from `others`, the boxes of everything else. -/
def set (list : EntityList) (table : PrototypeTable) (mode : ValidationMode) (others : List Box)
    (i : Nat) (item : Item) : EntityList × Except Error (Placement × Extent) :=
  match list.members[i]? with
  | none => (list, .error (.indexOutOfRange i list.length))
  | some old =>
    let oldBoxes := old.leaves.filterMap fun key => (list.index.box? key).map (key, ·)
    let cleared := { list with index := list.index.removeAll old.leaves }
    match place table false .top item cleared with
    | (_, .merged _) => (list, .error .entityNotFound)
    | (placed, .inserted member warnings) =>
      let extent := Extent.ofBoxes (placed.boxes ++ others)
      let accepted := do
        let warnings ← mode.accept warnings
        extent.check
        pure warnings
      match accepted with
      | .error error =>
        let restored := placed.discard member
        ({ restored with index := restored.index.addAll oldBoxes }, .error error)
      | .ok warnings =>
        ({ placed with
            members := placed.members.set i member
            arena := placed.arena.removeAll old.keys },
          .ok (⟨member.key, false, warnings⟩, extent))

/-- The list without the member of the given key, at any depth, and the item that it stood for. -/
def removeKey? (list : EntityList) (key : Key) : Option (Item × EntityList) := do
  let placed ← list.get? key
  let member ← list.member? key
  let item ← list.item? member
  let list := list.discard member
  pure (item, { list with members := Member.unlist placed.parent key list.members })

/-- The list without member `i`, and the item that it stood for. -/
def remove (list : EntityList) (i : Nat) : Except Error (Item × EntityList) :=
  match list.members[i]? with
  | none => .error (.indexOutOfRange i list.length)
  | some member =>
    match list.removeKey? member.key with
    | none => .error .entityNotFound
    | some removed => .ok removed

/-- The list with `f` applied to the entity under `key`, found by its new box from then on. -/
def modify? (list : EntityList) (table : PrototypeTable) (key : Key) (f : Entity → Entity) :
    Option EntityList := do
  let placed ← list.get? key
  let entity ← placed.entity?
  pure { list with
    arena := list.arena.modify key (·.mapEntity f)
    index := list.index.add key ((f entity).worldBox table placed.offset) }

/-- The list without members. -/
def clear (list : EntityList) : EntityList :=
  { list with arena := list.arena.clear, members := [], index := .empty }

end EntityList
end FactoryBlueprint
