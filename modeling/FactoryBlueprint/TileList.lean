import FactoryBlueprint.EntityList.Placement
import FactoryBlueprint.Tile

/-! # Tile lists

A tile list holds the tiles of a blueprint in order, in an arena and an index like those of an
entity list.
-/

namespace FactoryBlueprint

structure TileList where
  arena : Arena Tile
  order : List Key
  index : SpatialIndex
  deriving Inhabited

namespace TileList

/-- A list without tiles. -/
def empty : TileList := ⟨.empty, [], .empty⟩

def length (list : TileList) : Nat := list.order.length

def tile? (list : TileList) (key : Key) : Option Tile := list.arena.get? key

/-- The tiles in order. -/
def tiles (list : TileList) : List Tile := list.order.filterMap list.tile?

/-- The boxes of all tiles. -/
def boxes (list : TileList) : List Box := list.index.boxList

/-- Warns that the tile collides with the one under `key`. -/
def collision? (list : TileList) (table : PrototypeTable) (tile : Tile) (key : Key) :
    Option Warning := do
  let existing ← list.tile? key
  if (existing.mask table).intersects (tile.mask table) then
    some (.overlap tile.name existing.name tile.position.toPoint)
  else none

/-- Warns of all tiles near its square that the tile collides with. -/
def collisions (list : TileList) (table : PrototypeTable) (tile : Tile) : List Warning :=
  (list.index.query tile.box).filterMap (list.collision? table tile)

/-- The first tile found near its square that the tile can merge into. -/
def mergeTarget? (list : TileList) (tile : Tile) : Option Key :=
  (list.index.query tile.box).find? fun key => (list.tile? key).any (·.mergeableWith tile)

/-- Inserts a tile at place `i`. -/
def insert (list : TileList) (table : PrototypeTable) (mode : ValidationMode) (extent : Extent)
    (i : Nat) (tile : Tile) (merge : Bool) : Except Error (TileList × Placement × Extent) := do
  if list.length < i then .error (.indexOutOfRange i list.length)
  else
    match if merge then list.mergeTarget? tile else none with
    | some key =>
      pure ({ list with arena := list.arena.modify key (·.merge tile) }, ⟨key, true, []⟩, extent)
    | none =>
      let warnings ← mode.accept (list.collisions table tile)
      let extent ← extent.extendOver tile.box
      let key := list.arena.nextKey
      pure ({ arena := list.arena.insert tile
              order := list.order.insertIdx i key
              index := list.index.add key tile.box }, ⟨key, false, warnings⟩, extent)

/-- Puts a tile in place `i`, without merging. The extent is computed anew from the tiles and from
`others`, the boxes of everything else. -/
def set (list : TileList) (table : PrototypeTable) (mode : ValidationMode) (others : List Box)
    (i : Nat) (tile : Tile) : TileList × Except Error (Placement × Extent) :=
  match list.order[i]? with
  | none => (list, .error (.indexOutOfRange i list.length))
  | some old =>
    let cleared := { list with index := list.index.remove old }
    let extent := Extent.ofBoxes (cleared.boxes ++ tile.box :: others)
    let accepted := do
      let warnings ← mode.accept (cleared.collisions table tile)
      extent.check
      pure warnings
    match accepted with
    | .error error =>
      match list.index.box? old with
      | some box => ({ cleared with index := cleared.index.add old box }, .error error)
      | none => (cleared, .error error)
    | .ok warnings =>
      let vacated := list.arena.remove old
      let key := vacated.nextKey
      ({ arena := vacated.insert tile
         order := list.order.set i key
         index := cleared.index.add key tile.box },
        .ok (⟨key, false, warnings⟩, extent))

/-- The list without tile `i`, and that tile. -/
def remove (list : TileList) (i : Nat) : Except Error (Tile × TileList) :=
  match list.order[i]?.bind fun key => (list.tile? key).map (key, ·) with
  | none => .error (.indexOutOfRange i list.length)
  | some (key, tile) =>
    .ok (tile, ⟨list.arena.remove key, list.order.eraseIdx i, list.index.remove key⟩)

/-- The list without tiles. -/
def clear (list : TileList) : TileList := ⟨list.arena.clear, [], .empty⟩

/-- Warns that the tile `later` overlaps the tile `earlier`, if their masks share a layer. -/
def overlapWarning? (list : TileList) (table : PrototypeTable) (earlier : Tile) (later : Key) :
    Option Warning := do
  let tile ← list.tile? later
  if (tile.mask table).intersects (earlier.mask table) then
    some (.overlap tile.name earlier.name tile.position.toPoint)
  else none

/-- Warns of every pair of the given tiles that collide. -/
def overlapsAmong (list : TileList) (table : PrototypeTable) : List Key → List Warning
  | [] => []
  | key :: later =>
    (match list.tile? key with
      | none => []
      | some tile =>
        (list.index.query tile.box).filterMap fun other =>
          if later.contains other then list.overlapWarning? table tile other else none) ++
      overlapsAmong list table later

/-- Warns of every pair of tiles that collide. -/
def overlapWarnings (list : TileList) (table : PrototypeTable) : List Warning :=
  list.overlapsAmong table list.order

/-- A copy with an index of its own. -/
def duplicate (list : TileList) : TileList :=
  let boxes := list.order.filterMap fun key => (list.tile? key).map fun tile => (key, tile.box)
  { list with index := SpatialIndex.empty.addAll boxes }

end TileList
end FactoryBlueprint
