import FactoryBlueprint.Proofs.Blueprint.Filing
import FactoryBlueprint.Proofs.Blueprint.Integrity
import FactoryBlueprint.Proofs.Blueprint.Overlaps
import FactoryBlueprint.Proofs.Blueprint.Refusal
import FactoryBlueprint.Proofs.Geometry.Width
import FactoryBlueprint.Proofs.Store.Reach

/-! # Who meets whom

An inspection looks for overlaps in the index, a search for entities by area reads the boxes kept
there. Both find what a look at the objects themselves finds (`Reachable.surveyed`): every entity
and every tile is taken as it stands (`Standing`), and each is compared with all that come after it.
-/

namespace FactoryBlueprint

/-- An object as it stands in a blueprint. -/
structure Standing where
  key : Key
  name : String
  /-- The position in the blueprint. -/
  position : Point
  /-- The box in the blueprint. -/
  box : Box
  mask : Mask
  deriving DecidableEq

namespace Standing

/-- Warns that the object `later` overlaps the object `earlier`, if the boxes overlap and the masks
share a layer. -/
def warning? (earlier later : Standing) : Option Warning :=
  if earlier.box.overlaps later.box && earlier.mask.intersects later.mask then
    some (.overlap later.name earlier.name later.position)
  else none

/-- True of an object of the given name whose box overlaps the given area. -/
def isWithin (name : Option String) (area : Option Box) (object : Standing) : Bool :=
  name.all (object.name = ·) && area.all object.box.overlaps

end Standing

/-- Of every two objects that meet there is one warning, about the later one. The warnings about
those that meet one object come together, in the order of these objects. -/
def TellsMeetings (warnings : List Warning) (objects : List Standing) : Prop :=
  ∃ groups, warnings = groups.flatten ∧
    List.Forall₂ List.Perm groups (meetings Standing.warning? objects)

/-- What an index of the boxes of objects finds is what the objects themselves tell. -/
theorem SpatialIndex.Filed.tellsMeetings {index : SpatialIndex} (filed : index.Filed)
    {report : Key → Key → Option Warning} {standing? : Key → Option Standing} {keys : List Key}
    (nodup : keys.Nodup) (all : ∀ key ∈ keys, (standing? key).isSome)
    (boxed : ∀ key, ∀ object ∈ standing? key, index.box? key = some object.box)
    (ordered : ∀ object ∈ keys.filterMap standing?, object.box.Ordered)
    (reports : ∀ key, ∀ object ∈ standing? key, ∀ other, ∀ later ∈ standing? other,
      report key other = if object.mask.intersects later.mask then
        some (.overlap later.name object.name later.position) else none) :
    TellsMeetings (index.clashes report keys) (keys.filterMap standing?) := by
  obtain ⟨groups, told, same⟩ := @exists_groups_clashes _ index report keys nodup
  refine ⟨groups, told, ?_⟩
  rw [meetings_filterMap all]
  · exact same
  · intro key mem object here other alsoMem later there
    have inOrder : object.box.Ordered := ordered object (List.mem_filterMap.mpr ⟨key, mem, here⟩)
    have laterInOrder : later.box.Ordered :=
      ordered later (List.mem_filterMap.mpr ⟨other, alsoMem, there⟩)
    have met : other ∈ index.query object.box ↔ object.box.overlaps later.box = true := by
      rw [filed.mem_query_iff_overlaps (boxed other later there) laterInOrder inOrder,
        Box.overlaps_comm]
    rw [clash?, boxed key object here, Standing.warning?]
    simp only [met, reports key object here other later there]
    cases object.box.overlaps later.box <;> rfl

/-! ### Entities -/

namespace EntityList

variable {table : PrototypeTable} {list : EntityList} {key : Key} {object : Standing}

/-- The entity under a key, where its groups have it. -/
def standing? (list : EntityList) (table : PrototypeTable) (key : Key) : Option Standing := do
  let placed ← list.get? key
  let entity ← placed.entity?
  pure ⟨key, entity.name, placed.worldPosition, entity.worldBox table placed.offset,
    entity.mask table⟩

/-- The entities in order, as they stand. -/
def standings (list : EntityList) (table : PrototypeTable) : List Standing :=
  list.leaves.filterMap (list.standing? table)

theorem standing?_eq_some_iff : list.standing? table key = some object ↔
    ∃ placed entity, list.get? key = some placed ∧ placed.entity? = some entity ∧
      ⟨key, entity.name, placed.worldPosition, entity.worldBox table placed.offset,
        entity.mask table⟩ = object := by
  simp only [standing?, Option.bind_eq_bind, Option.bind_eq_some_iff, Option.pure_def,
    Option.some.injEq]
  constructor
  · rintro ⟨placed, found, entity, isEntity, same⟩
    exact ⟨placed, entity, found, isEntity, same⟩
  · rintro ⟨placed, entity, found, isEntity, same⟩
    exact ⟨placed, found, entity, isEntity, same⟩

theorem standing?_isSome (list : EntityList) (table : PrototypeTable) (key : Key) :
    (list.standing? table key).isSome = (list.entity? key).isSome := by
  unfold standing? entity?
  cases list.get? key with
  | none => rfl
  | some placed => cases eq : placed.entity? <;> simp [eq]

theorem key_of_standing? (here : list.standing? table key = some object) : object.key = key := by
  obtain ⟨placed, entity, -, -, rfl⟩ := standing?_eq_some_iff.mp here
  rfl

theorem entity?_of_standing? (here : list.standing? table key = some object) :
    (list.entity? key).map (·.name) = some object.name := by
  obtain ⟨placed, entity, found, isEntity, rfl⟩ := standing?_eq_some_iff.mp here
  rw [entity?, found, Option.bind_some, isEntity, Option.map_some]

theorem Coherent.box?_of_standing? (coherent : list.Coherent table)
    (here : list.standing? table key = some object) : list.index.box? key = some object.box := by
  obtain ⟨placed, entity, found, isEntity, rfl⟩ := standing?_eq_some_iff.mp here
  rw [coherent.indexed, found, Option.bind_some, Placed.worldBox?, isEntity, Option.map_some]

theorem Coherent.standing?_isSome_of_mem (coherent : list.Coherent table)
    (mem : key ∈ list.leaves) : (list.standing? table key).isSome := by
  rw [standing?_isSome]
  exact (coherent.mem_leaves_iff key).mp mem

theorem overlapWarning?_of_standing? {other : Key} {later : Standing}
    (here : list.standing? table key = some object)
    (there : list.standing? table other = some later) :
    list.overlapWarning? table key other = if object.mask.intersects later.mask then
      some (.overlap later.name object.name later.position) else none := by
  obtain ⟨placed, entity, found, isEntity, rfl⟩ := standing?_eq_some_iff.mp here
  obtain ⟨laterPlaced, laterEntity, laterFound, laterIs, rfl⟩ := standing?_eq_some_iff.mp there
  have first : list.entity? key = some entity := by
    rw [entity?, found, Option.bind_some, isEntity]
  have second : list.entity? other = some laterEntity := by
    rw [entity?, laterFound, Option.bind_some, laterIs]
  have position : list.worldPosition? other = some laterPlaced.worldPosition := by
    rw [worldPosition?, laterFound, Option.map_some]
  rw [overlapWarning?, first, second, position, Mask.intersects_comm (entity.mask table)]
  rfl

theorem Coherent.key_standings (coherent : list.Coherent table) :
    (list.standings table).map (·.key) = list.leaves := by
  rw [standings, List.map_filterMap]
  refine (List.filterMap_congr fun key mem => ?_).trans List.filterMap_some
  obtain ⟨object, here⟩ := Option.isSome_iff_exists.mp (coherent.standing?_isSome_of_mem mem)
  rw [here, Option.map_some, key_of_standing? here]

theorem Coherent.findFiltered_eq (coherent : list.Coherent table) (name : Option String)
    (area : Option Box) : list.findFiltered name area =
      ((list.standings table).filter (·.isWithin name area)).map (·.key) := by
  rw [standings, List.filter_filterMap, List.map_filterMap, findFiltered,
    ← List.filterMap_eq_filter]
  refine List.filterMap_congr fun key mem => ?_
  obtain ⟨object, here⟩ := Option.isSome_iff_exists.mp (coherent.standing?_isSome_of_mem mem)
  have named := entity?_of_standing? here
  obtain ⟨entity, found, same⟩ := Option.map_eq_some_iff.mp named
  simp only [Option.guard, here, found, coherent.box?_of_standing? here, Standing.isWithin]
  cases name <;> cases area <;> simp [key_of_standing? here, same, Option.filter]

end EntityList

/-! ### Tiles -/

namespace TileList

variable {list : TileList} {key : Key} {object : Standing}

/-- The tile under a key. -/
def standing? (list : TileList) (table : PrototypeTable) (key : Key) : Option Standing :=
  (list.tile? key).map fun tile =>
    ⟨key, tile.name, tile.position.toPoint, tile.box, tile.mask table⟩

/-- The tiles in order, as they lie. -/
def standings (list : TileList) (table : PrototypeTable) : List Standing :=
  list.order.filterMap (list.standing? table)

theorem Coherent.box?_of_standing? (coherent : list.Coherent) {table : PrototypeTable}
    (here : list.standing? table key = some object) : list.index.box? key = some object.box := by
  obtain ⟨tile, found, rfl⟩ := Option.map_eq_some_iff.mp here
  rw [coherent.indexed, found, Option.map_some]

theorem Coherent.standing?_isSome_of_mem (coherent : list.Coherent) (table : PrototypeTable)
    (mem : key ∈ list.order) : (list.standing? table key).isSome := by
  rw [standing?, Option.isSome_map]
  exact (coherent.stored key).mp mem

theorem Coherent.key_standings (coherent : list.Coherent) (table : PrototypeTable) :
    (list.standings table).map (·.key) = list.order := by
  rw [standings, List.map_filterMap]
  refine (List.filterMap_congr fun key mem => ?_).trans List.filterMap_some
  obtain ⟨object, here⟩ :=
    Option.isSome_iff_exists.mp (coherent.standing?_isSome_of_mem table mem)
  obtain ⟨tile, found, rfl⟩ := Option.map_eq_some_iff.mp here
  rw [here, Option.map_some]

end TileList

/-! ### Blueprints -/

namespace Blueprint

/-- What inspections and searches find is what the entities and tiles themselves tell, where no
entity's box has a side beyond the one across. -/
structure Surveyed (blueprint : Blueprint) : Prop where
  /-- Every entity is taken as it stands, and no other object. -/
  entities : (blueprint.entities.standings blueprint.table).map (·.key) = blueprint.entities.leaves
  /-- An inspection warns of every two entities that meet. -/
  entityWarnings : TellsMeetings (blueprint.entities.overlapWarnings blueprint.table)
    (blueprint.entities.standings blueprint.table)
  tiles : (blueprint.tiles.standings blueprint.table).map (·.key) = blueprint.tiles.order
  /-- An inspection warns of every two tiles that meet. -/
  tileWarnings : TellsMeetings (blueprint.tiles.overlapWarnings blueprint.table)
    (blueprint.tiles.standings blueprint.table)
  /-- A search finds the entities of its name that overlap its area. -/
  found : ∀ name area, blueprint.entities.findFiltered name area =
    ((blueprint.entities.standings blueprint.table).filter (·.isWithin name area)).map (·.key)

theorem Reachable.surveyed {allowed : Blueprint → Operation → Prop} {blueprint : Blueprint}
    (reachable : Reachable allowed blueprint)
    (ordered : ∀ object ∈ blueprint.entities.standings blueprint.table, object.box.Ordered) :
    blueprint.Surveyed where
  entities := reachable.coherent.entities.key_standings
  entityWarnings := by
    have coherent := reachable.coherent.entities
    rw [EntityList.overlapWarnings, EntityList.overlapsAmong_eq]
    exact reachable.filed.tellsMeetings coherent.nodup_leaves
      (fun key mem => coherent.standing?_isSome_of_mem mem)
      (fun key object here => coherent.box?_of_standing? here) ordered
      fun key object here other later there => EntityList.overlapWarning?_of_standing? here there
  tiles := reachable.coherent.tiles.key_standings blueprint.table
  tileWarnings := by
    have coherent := reachable.coherent.tiles
    rw [TileList.overlapWarnings, TileList.overlapsAmong_eq coherent]
    refine reachable.tilesFiled.tellsMeetings coherent.nodup
      (fun key mem => coherent.standing?_isSome_of_mem blueprint.table mem)
      (fun key object here => coherent.box?_of_standing? here) (fun object mem => ?_)
      fun key object here other later there => ?_
    · obtain ⟨key, -, here⟩ := List.mem_filterMap.mp mem
      obtain ⟨tile, -, rfl⟩ := Option.map_eq_some_iff.mp here
      exact tile.ordered_box
    · obtain ⟨tile, found, rfl⟩ := Option.map_eq_some_iff.mp here
      obtain ⟨laterTile, laterFound, rfl⟩ := Option.map_eq_some_iff.mp there
      simp only [found, Option.bind_some, TileList.overlapWarning?, laterFound,
        Option.bind_eq_bind, Mask.intersects_comm (tile.mask blueprint.table)]
  found := reachable.coherent.entities.findFiltered_eq

/-- Two chests, the second half over the first. -/
def crowded : Blueprint := chestOnly.append (.plain "wooden-chest" ⟨1, 0.5⟩)

theorem reachable_crowded : Reachable (fun _ _ => True) crowded := by
  obtain ⟨start, initial, run⟩ := reachable_chestOnly
  exact ⟨start, initial, run.append initial trivial (by decide) (by decide +kernel)⟩

/-- A chest in the blueprint, as it stands there. -/
def standingChest (slot : Nat) (position : Point) : Standing :=
  ⟨⟨slot, 0⟩, "wooden-chest", position, Entity.unknownBox.translate position, .building⟩

theorem standings_crowded : crowded.entities.standings crowded.table =
    [standingChest 0 ⟨0.5, 0.5⟩, standingChest 1 ⟨1, 0.5⟩] := by decide +kernel

theorem overlapWarnings_crowded : Reachable (fun _ _ => True) crowded ∧
    (∀ object ∈ crowded.entities.standings crowded.table, object.box.Ordered) ∧
    crowded.Surveyed ∧ crowded.entities.overlapWarnings crowded.table =
      [.overlap "wooden-chest" "wooden-chest" ⟨1, 0.5⟩] := by
  have ordered : ∀ object ∈ crowded.entities.standings crowded.table, object.box.Ordered := by
    rw [standings_crowded, List.forall_mem_cons, List.forall_mem_singleton]
    constructor <;> exact fun axis => by cases axis <;> decide +kernel
  have surveyed := reachable_crowded.surveyed ordered
  refine ⟨reachable_crowded, ordered, surveyed, ?_⟩
  have clash : (standingChest 0 ⟨0.5, 0.5⟩).warning? (standingChest 1 ⟨1, 0.5⟩) =
      some (.overlap "wooden-chest" "wooden-chest" ⟨1, 0.5⟩) := if_pos (by decide +kernel)
  obtain ⟨groups, told, same⟩ := surveyed.entityWarnings
  rw [standings_crowded, meetings, meetings, meetings, List.filterMap_cons_some clash,
    List.filterMap_nil, List.filterMap_nil] at same
  cases same with
  | cons first rest =>
    cases rest with
    | cons second rest =>
      cases rest
      rw [told, List.perm_singleton.mp first, List.perm_nil.mp second]
      rfl

end Blueprint
end FactoryBlueprint
