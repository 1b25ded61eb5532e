import FactoryBlueprint.EntityList.Basic

/-! # Searching entity lists

Members are found by a dotted path of ids, entities by name and area. `overlapWarnings` reports
every pair of entities that collide.
-/

namespace FactoryBlueprint.EntityList

/-- The key at the end of a path of ids. At every step the first member of the id is taken. -/
def findPath (list : EntityList) : List String → List Member → Option Key
  | [], _ => none
  | segment :: path, members => do
    let member ← members.find? fun member => list.idOf? member.key == some segment
    if path.isEmpty then pure member.key else findPath list path member.members

/-- The key of the member at a dotted path such as `station.inserter`. -/
def findById (list : EntityList) (path : String) : Option Key :=
  list.findPath (path.splitOn ".") list.members

/-- The entities of the given name whose boxes overlap the given area. -/
def findFiltered (list : EntityList) (name : Option String) (area : Option Box) : List Key :=
  list.leaves.filter fun key =>
    (match name with
      | some name => (list.entity? key).any (·.name = name)
      | none => true) &&
    match area with
      | some area => (list.index.box? key).any (·.overlaps area)
      | none => true

/-- Warns that the entity `later` overlaps the entity `earlier`, if their masks share a layer. -/
def overlapWarning? (list : EntityList) (table : PrototypeTable) (earlier later : Key) :
    Option Warning := do
  let first ← list.entity? earlier
  let second ← list.entity? later
  let position ← list.worldPosition? later
  if (second.mask table).intersects (first.mask table) then
    some (.overlap second.name first.name position)
  else none

/-- Warns of every pair of the given entities that collide. -/
def overlapsAmong (list : EntityList) (table : PrototypeTable) : List Key → List Warning
  | [] => []
  | key :: later =>
    (match list.index.box? key with
      | none => []
      | some area =>
        (list.index.query area).filterMap fun other =>
          if later.contains other then list.overlapWarning? table key other else none) ++
      overlapsAmong list table later

/-- Warns of every pair of entities that collide. -/
def overlapWarnings (list : EntityList) (table : PrototypeTable) : List Warning :=
  list.overlapsAmong table list.leaves

end FactoryBlueprint.EntityList
