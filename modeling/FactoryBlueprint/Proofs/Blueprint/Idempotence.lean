import FactoryBlueprint.DataFile.Loader
import FactoryBlueprint.Proofs.Blueprint.Insertion
import FactoryBlueprint.Proofs.Blueprint.Replacement
import FactoryBlueprint.Proofs.Entity.Merging
import FactoryBlueprint.Proofs.Geometry.Width
import FactoryBlueprint.Proofs.Store.Twins

/-! # Adding the same thing twice

An entity or a tile that is added again, merging, should merge into what stands for it and find all
that it has there already (`HasAlready`). Tiles do. An entity does exactly if it had merged the first
time or its box is wider than the position tolerance (`Reachable.merging_again`): a box without width
overlaps nothing, not even itself, so that the entity is not found again.
-/

namespace FactoryBlueprint

open Binary64

/-! ### Entities -/

namespace Part

variable {table : PrototypeTable} {part now other : Part} {entity : Entity}

theorem Keeps.worldPosition (keeps : part.Keeps now) : now.position = part.position := by
  simp only [Part.position, keeps.offset, keeps.position]

/-- Merging changes nothing of what decides whether another entity can merge. -/
theorem Keeps.mergeableWith (keeps : part.Keeps now) (entity : Entity) :
    now.entity.mergeableWith entity = part.entity.mergeableWith entity := by
  simp only [Entity.mergeableWith, keeps.name, keeps.direction, keeps.extra, keeps.fields]

/-- An entity can take itself if its box is wide enough to overlap itself. -/
theorem takes_self_iff (orderly : entity.Orderly) :
    (⟨.zero, entity⟩ : Part).Takes table ⟨.zero, entity⟩ ↔
      (entity.worldBox table .zero).Wide := by
  rw [← Box.overlaps_self_iff]
  refine ⟨fun takes => takes.overlaps, fun overlaps =>
    ⟨overlaps, Point.near_self fun axis => ?_, orderly.wellFormed.mergeableWith_self⟩⟩
  obtain ⟨n, counts⟩ := orderly.position axis
  refine ⟨n, ?_⟩
  cases axis <;> exact quanta?_zero_add counts

end Part

namespace EntityList

variable {table : PrototypeTable} {list after : EntityList} {part : Part} {host : Key}

/-- The order of a list does not count. -/
theorem host?_congr {other : EntityList} (arena : other.arena = list.arena)
    (index : other.index = list.index) : other.host? table part = list.host? table part := by
  have absorbs : other.absorbs = list.absorbs := by
    funext entity world key
    simp only [EntityList.absorbs, get?, arena]
  rw [host?, host?, absorbs, index]

/-- The list once the entity under a key has absorbed a part. -/
def absorb (list : EntityList) (host : Key) (part : Part) : EntityList :=
  { list with arena := list.arena.modify host (·.mapEntity (·.merge part.entity)) }

/-- The list with a part under the next key, listed by no group and in no order yet. -/
def store (list : EntityList) (table : PrototypeTable) (part : Part) : EntityList :=
  { list with
    arena := list.arena.insert ⟨⟨none, part.offset⟩, .entity part.entity⟩
    index := list.index.add list.arena.nextKey (part.box table) }

/-- What absorbs a part is what would absorb it again. -/
theorem host?_absorb {there : Part} (here : list.part? host = some there) (part : Part) :
    (list.absorb host part).host? table part = list.host? table part := by
  refine congrArg (List.find? · _) (funext fun key => ?_)
  rw [Bool.eq_iff_iff, absorbs_iff, absorbs_iff, absorb, part?_merge here, Function.update_apply]
  split
  · rename_i same
    subst same
    have keeps := there.keeps_merge part
    simp only [here, Option.some.injEq, exists_eq_left', keeps.worldPosition,
      keeps.mergeableWith]
  · rfl

/-- An entity that has absorbed another one is not changed by it again. -/
theorem absorb_absorb {entity : Entity} (orderly : entity.Orderly) (list : EntityList) (host : Key) :
    (list.absorb host ⟨.zero, entity⟩).absorb host ⟨.zero, entity⟩ =
      list.absorb host ⟨.zero, entity⟩ := by
  refine congrArg (fun arena => { list with arena := arena }) (Arena.modify_modify fun placed => ?_)
  rw [Placed.mapEntity_mapEntity]
  exact Placed.mapEntity_congr fun there _ => orderly.wellFormed.merge_merge there

/-- An entity that could be absorbed by none is found again if it can take itself, and nothing else
is. -/
theorem Sited.host?_store (sited : list.Sited table) (alone : list.host? table part = none) :
    (list.store table part).host? table part =
      if part.Takes table part then some list.arena.nextKey else none := by
  have stored : (list.store table part).Sited table := sited.store ⟨none, part.offset⟩ part.entity
  have parts : (list.store table part).part? =
      Function.update list.part? list.arena.nextKey (some part) := list.part?_insert _ _
  have only : ∀ key there, (list.store table part).part? key = some there →
      there.Takes table part → key = list.arena.nextKey ∧ there = part := by
    intro key there here takes
    rw [parts, Function.update_apply] at here
    split at here
    · rename_i new
      exact ⟨new, (Option.some.inj here).symm⟩
    · exact absurd takes (sited.host?_eq_none_iff.mp alone key there here)
  split
  · rename_i takes
    cases found : (list.store table part).host? table part with
    | none =>
      have here : (list.store table part).part? list.arena.nextKey = some part := by
        rw [parts, Function.update_self]
      exact absurd takes (stored.host?_eq_none_iff.mp found _ _ here)
    | some key =>
      obtain ⟨there, here, able⟩ := stored.exists_takes found
      rw [(only key there here able).1]
  · rename_i unable
    exact stored.host?_eq_none_iff.mpr fun key there here takes =>
      unable ((only key there here takes).2 ▸ takes)

/-- An entity that was stored has all that it could absorb of itself. -/
theorem absorb_store {entity : Entity} (orderly : entity.Orderly) (list : EntityList)
    (table : PrototypeTable) :
    (list.store table ⟨.zero, entity⟩).absorb list.arena.nextKey ⟨.zero, entity⟩ =
      list.store table ⟨.zero, entity⟩ := by
  refine congrArg (fun arena => { list.store table ⟨.zero, entity⟩ with arena := arena })
    (Arena.modify_insert_nextKey ?_)
  exact congrArg (fun kept => Placed.mk .top (.entity kept)) orderly.wellFormed.merge_self

/-! ### Insertions -/

variable {entity : Entity} {mode : ValidationMode} {extent grown : Extent} {i j : Nat}
  {placement : Placement}

theorem place_merging_eq : place table true .top (.entity entity) list =
    match list.host? table ⟨.zero, entity⟩ with
    | some host => (list.absorb host ⟨.zero, entity⟩, .merged host)
    | none => place table false .top (.entity entity) list := rfl

theorem insert_of_host? (found : list.host? table ⟨.zero, entity⟩ = some host)
    (bound : i ≤ list.length) : list.insert table mode extent i (.entity entity) true =
      (list.absorb host ⟨.zero, entity⟩, .ok (⟨host, true, []⟩, extent)) := by
  rw [insert, if_neg (Nat.not_lt.mpr bound), place_merging_eq, found]

/-- Merging makes no difference where nothing can absorb the entity. -/
theorem insert_of_host?_eq_none (alone : list.host? table ⟨.zero, entity⟩ = none) :
    list.insert table mode extent i (.entity entity) true =
      list.insert table mode extent i (.entity entity) false := by
  rw [insert, insert, place_merging_eq, alone]

/-- What was inserted without merging stands under a key of its own. -/
theorem eq_store_of_insert (inserted : list.insert table mode extent i (.entity entity) false =
    (after, .ok (placement, grown))) :
    after = { list.store table ⟨.zero, entity⟩ with
        members := list.members.insertIdx i (.entity list.arena.nextKey) } ∧
      placement.key = list.arena.nextKey ∧ placement.merged = false := by
  obtain ⟨-, ⟨host, placed, -, -⟩ | ⟨placed, member, warnings, own, done, -, -, rfl, rfl⟩⟩ :=
    insert_eq_ok_iff.mp inserted
  · cases placed
  · cases done
    exact ⟨rfl, rfl, rfl⟩

/-- An entity that was inserted merges into what stands for it the next time, if it did so before or
can take itself, and leaves everything as it is then. -/
theorem Sited.insert_again (sited : list.Sited table) (orderly : entity.Orderly)
    (inserted : list.insert table mode extent i (.entity entity) true =
      (after, .ok (placement, grown))) (bound : j ≤ after.length) :
    (∃ warnings, after.insert table mode grown j (.entity entity) true =
        (after, .ok (⟨placement.key, true, warnings⟩, grown))) ↔
      placement.merged = true ∨ (entity.worldBox table .zero).Wide := by
  cases found : list.host? table ⟨.zero, entity⟩ with
  | some host =>
    rw [insert_of_host? found (insert_eq_ok_iff.mp inserted).1] at inserted
    cases inserted
    -- It was absorbed: the same entity absorbs it again and has all of it.
    obtain ⟨there, here, -⟩ := sited.exists_takes found
    refine iff_of_true ⟨[], ?_⟩ (.inl rfl)
    rw [insert_of_host? ((host?_absorb here _).trans found) bound, absorb_absorb orderly]
  | none =>
    rw [insert_of_host?_eq_none found] at inserted
    obtain ⟨stored, key, apart⟩ := eq_store_of_insert inserted
    -- It was stored: nothing but itself can absorb it the next time.
    have again : after.host? table ⟨.zero, entity⟩ =
        if Part.Takes table ⟨.zero, entity⟩ ⟨.zero, entity⟩ then some list.arena.nextKey
        else none :=
      (host?_congr (congrArg arena stored) (congrArg index stored)).trans (sited.host?_store found)
    rw [← Part.takes_self_iff orderly, apart, key]
    by_cases takes : Part.Takes table ⟨.zero, entity⟩ ⟨.zero, entity⟩
    · have kept : after.absorb list.arena.nextKey ⟨.zero, entity⟩ = after := by
        rw [stored]
        exact congrArg (fun stored : EntityList => { stored with
          members := list.members.insertIdx i (.entity list.arena.nextKey) })
          (absorb_store orderly list table)
      rw [if_pos takes] at again
      refine iff_of_true ⟨[], ?_⟩ (.inr takes)
      rw [insert_of_host? again bound, kept]
    · rw [if_neg takes] at again
      refine iff_of_false ?_ (by simp [takes])
      rintro ⟨warnings, merged⟩
      rw [insert_of_host?_eq_none again] at merged
      exact nomatch (eq_store_of_insert merged).2.2

end EntityList

/-! ### Tiles -/

namespace TileList

variable {table : PrototypeTable} {list after : TileList} {tile : Tile} {key : Key}
  {mode : ValidationMode} {extent grown : Extent} {i j : Nat} {placement : Placement}

/-- The list once the tile under a key has absorbed another one. -/
def absorb (list : TileList) (key : Key) (tile : Tile) : TileList :=
  { list with arena := list.arena.modify key (·.merge tile) }

theorem le_length_of_insert {merge : Bool}
    (inserted : list.insert table mode extent i tile merge = .ok (after, placement, grown)) :
    i ≤ list.length := by
  refine Nat.not_lt.mp fun beyond => ?_
  rw [insert, if_pos beyond] at inserted
  cases inserted

theorem insert_of_mergeTarget? (found : list.mergeTarget? tile = some key)
    (bound : i ≤ list.length) : list.insert table mode extent i tile true =
      .ok (list.absorb key tile, ⟨key, true, []⟩, extent) := by
  rw [insert, if_neg (Nat.not_lt.mpr bound), if_pos rfl, found]
  rfl

/-- Merging makes no difference where nothing can absorb the tile. -/
theorem insert_of_mergeTarget?_eq_none (alone : list.mergeTarget? tile = none) :
    list.insert table mode extent i tile true = list.insert table mode extent i tile false := by
  rw [insert, insert, if_pos rfl, alone]
  rfl

/-- What was inserted without merging stands under a key of its own. -/
theorem eq_store_of_insert
    (inserted : list.insert table mode extent i tile false = .ok (after, placement, grown)) :
    after = ⟨list.arena.insert tile, list.order.insertIdx i list.arena.nextKey,
        list.index.add list.arena.nextKey tile.box⟩ ∧
      placement.key = list.arena.nextKey ∧ placement.merged = false := by
  rw [insert] at inserted
  split at inserted
  · cases inserted
  · simp only [Bool.false_eq_true, if_false, bind_eq_ok_iff] at inserted
    obtain ⟨own, -, wider, -, done⟩ := inserted
    cases done
    exact ⟨rfl, rfl, rfl⟩

/-- Absorbing a tile changes nothing of what decides which tile can absorb it. -/
theorem any_mergeableWith_absorb (list : TileList) (key : Key) (tile : Tile) (other : Key) :
    ((list.absorb key tile).tile? other).any (·.mergeableWith tile) =
      (list.tile? other).any (·.mergeableWith tile) := by
  rw [absorb, tile?, Arena.get?_modify]
  split
  · rename_i same
    rw [same, Option.any_map]
    rfl
  · rfl

theorem mergeTarget?_absorb (list : TileList) (key : Key) (tile : Tile) :
    (list.absorb key tile).mergeTarget? tile = list.mergeTarget? tile := by
  simp only [mergeTarget?, any_mergeableWith_absorb]
  rfl

theorem absorb_absorb (sorted : tile.extra.Sorted) (list : TileList) (key : Key) :
    (list.absorb key tile).absorb key tile = list.absorb key tile := by
  refine congrArg (fun arena => { list with arena := arena }) (Arena.modify_modify fun there => ?_)
  exact Tile.merge_merge sorted there

/-- A tile that could be absorbed by none is found again. -/
theorem mergeTarget?_store (coherent : list.Coherent) (filed : list.index.Filed)
    (alone : list.mergeTarget? tile = none) (wide : tile.box.Wide) (order : List Key) :
    mergeTarget? ⟨list.arena.insert tile, order, list.index.add list.arena.nextKey tile.box⟩ tile =
      some list.arena.nextKey := by
  let stored : TileList :=
    ⟨list.arena.insert tile, order, list.index.add list.arena.nextKey tile.box⟩
  have tiles (other : Key) : stored.tile? other =
      if other = list.arena.nextKey then some tile else list.tile? other :=
    list.arena.get?_insert tile other
  have storedFiled : stored.index.Filed := filed.add coherent.room_nextKey tile.box
  have boxed : stored.index.box? list.arena.nextKey = some tile.box :=
    SpatialIndex.box?_add_self coherent.room_nextKey tile.box
  have here : list.arena.nextKey ∈ stored.index.query tile.box :=
    (storedFiled.mem_query_iff_overlaps boxed tile.ordered_box tile.ordered_box).mpr
      (Box.overlaps_self_iff.mpr wide)
  have able : (stored.tile? list.arena.nextKey).any (·.mergeableWith tile) = true := by
    rw [tiles, if_pos rfl]
    exact tile.mergeableWith_self
  have first : stored.mergeTarget? tile ≠ none := fun unable =>
    List.find?_eq_none.mp unable _ here able
  obtain ⟨key, found⟩ := Option.ne_none_iff_exists'.mp first
  by_cases new : key = list.arena.nextKey
  · exact found.trans (congrArg some new)
  · -- Any other tile was there before, and would have been found then.
    exfalso
    have accepted := List.find?_some found
    have mem := List.mem_of_find?_eq_some found
    rw [tiles, if_neg new] at accepted
    rw [storedFiled.mem_query_iff, SpatialIndex.box?_add coherent.room_nextKey, if_neg new,
      ← filed.mem_query_iff] at mem
    exact List.find?_eq_none.mp alone key mem accepted

/-- A tile that was inserted merges into what stands for it the next time, and leaves everything as
it is then. -/
theorem insert_again (coherent : list.Coherent) (filed : list.index.Filed) (fits : tile.Fits)
    (inserted : list.insert table mode extent i tile true = .ok (after, placement, grown))
    (bound : j ≤ after.length) : after.insert table mode grown j tile true =
      .ok (after, ⟨placement.key, true, []⟩, grown) := by
  cases found : list.mergeTarget? tile with
  | some key =>
    rw [insert_of_mergeTarget? found (le_length_of_insert inserted)] at inserted
    cases inserted
    rw [insert_of_mergeTarget? ((mergeTarget?_absorb ..).trans found) bound,
      absorb_absorb fits.extra]
  | none =>
    rw [insert_of_mergeTarget?_eq_none found] at inserted
    obtain ⟨stored, key, -⟩ := eq_store_of_insert inserted
    have again : after.mergeTarget? tile = some list.arena.nextKey := by
      rw [stored]
      exact mergeTarget?_store coherent filed found fits.wide_box _
    have kept : after.absorb list.arena.nextKey tile = after := by
      rw [stored]
      exact congrArg (fun arena => TileList.mk arena _ _)
        (Arena.modify_insert_nextKey (Tile.merge_self fits.extra))
    rw [insert_of_mergeTarget? again bound, kept, key]

end TileList

/-! ### Blueprints -/

namespace Blueprint

variable {before blueprint after : Blueprint} {tile : Tile} {i : Nat} {merge : Bool}

/-- The call changes nothing: what it adds merges into the object under the key, which has all of it
already. -/
def HasAlready (blueprint : Blueprint) (key : Key) (add : Blueprint → Edited Placement) : Prop :=
  ∃ warnings, add blueprint = (blueprint, .ok ⟨key, true, warnings⟩)

/-- An insertion succeeds if the warnings of the tile are accepted and it can be inserted in the
list. -/
theorem insertTile_eq_ok_iff {placement : Placement} :
    before.insertTile i tile merge = (after, .ok placement) ↔
      ∃ own, before.mode.accept (tile.warnings before.table) = .ok own ∧
        ∃ tiles first grown,
          before.tiles.insert before.table before.mode before.extent i tile merge =
              .ok (tiles, first, grown) ∧
            after = { before with tiles := tiles, extent := grown } ∧ placement = first.after own := by
  rw [insertTile]
  cases before.mode.accept (tile.warnings before.table) with
  | error error => simp [edited, bind, Except.bind]
  | ok own =>
    cases before.tiles.insert before.table before.mode before.extent i tile merge with
    | error error => simp [edited, bind, Except.bind]
    | ok result =>
      obtain ⟨tiles, first, grown⟩ := result
      simp [edited, bind, Except.bind, pure, Except.pure, eq_comm, and_assoc]

theorem exists_addTile_merging (lenient : blueprint.mode ≠ .pedantic)
    (within : (blueprint.extent.cover tile.box).oversize? = none) :
    ∃ after placement, blueprint.addTile tile true = (after, .ok placement) := by
  cases found : blueprint.tiles.mergeTarget? tile with
  | none =>
    obtain ⟨placement, added⟩ := exists_addTile_eq lenient within
    rw [addTile, insertTile] at added ⊢
    rw [TileList.insert_of_mergeTarget?_eq_none found]
    exact ⟨_, _, added⟩
  | some key =>
    obtain ⟨own, accepted⟩ := ValidationMode.exists_accept lenient (tile.warnings blueprint.table)
    exact ⟨_, _, insertTile_eq_ok_iff.mpr ⟨own, accepted, _, _, _,
      TileList.insert_of_mergeTarget? found (Nat.le_refl _), rfl, rfl⟩⟩

theorem orderly_filledChest : filledChest.Orderly where
  position axis := Binary64.isFinite_iff.mp (by cases axis <;> decide +kernel)
  items := List.pairwise_singleton ..
  tags := .nil
  fields := .object .nil nofun
  extra := .object .nil nofun

/-- An entity that was added merges into what stands for it the next time exactly if it did so before
or its box is wider than the tolerance. A tile always does. -/
theorem Reachable.merging_again {allowed : Blueprint → Operation → Prop}
    (reachable : Reachable allowed before) :
    (∀ entity after first, entity.Orderly →
      before.addEntity (.entity entity) true = (after, .ok first) →
        (after.HasAlready first.key (·.addEntity (.entity entity) true) ↔
          first.merged = true ∨ (entity.worldBox before.table .zero).Wide)) ∧
      ∀ tile after first, tile.Fits → before.addTile tile true = (after, .ok first) →
        after.HasAlready first.key (·.addTile tile true) := by
  constructor
  · intro entity after first orderly added
    obtain ⟨own, accepted, entities, placement, grown, inserted, rfl, rfl⟩ :=
      insertEntity_eq_ok_iff.mp added
    have again := reachable.sited.insert_again orderly inserted (Nat.le_refl entities.length)
    refine Iff.trans ?_ again
    constructor
    · rintro ⟨warnings, merged⟩
      obtain ⟨others, -, list, second, wider, inserted, same, placed⟩ :=
        insertEntity_eq_ok_iff.mp merged
      obtain rfl : entities = list := congrArg Blueprint.entities same
      obtain rfl : grown = wider := congrArg Blueprint.extent same
      obtain ⟨key, merged, reported⟩ := second
      cases placed
      exact ⟨_, inserted⟩
    · rintro ⟨warnings, merged⟩
      exact ⟨_, insertEntity_eq_ok_iff.mpr ⟨own, accepted, _, _, _, merged, rfl, rfl⟩⟩
  · intro tile after first fits added
    obtain ⟨own, accepted, tiles, placement, grown, inserted, rfl, rfl⟩ :=
      insertTile_eq_ok_iff.mp added
    have merged := TileList.insert_again reachable.coherent.tiles reachable.tilesFiled fits inserted
      (Nat.le_refl tiles.length)
    exact ⟨_, insertTile_eq_ok_iff.mpr ⟨own, accepted, _, _, _, merged, rfl, rfl⟩⟩

/-- A chest that was filled into the one that is there, and a slab. -/
theorem merging_again_chestOnly : Reachable (fun _ _ => True) chestOnly ∧
    filledChest.Orderly ∧ slab.Fits ∧
      (∃ after first, chestOnly.addEntity (.entity filledChest) true = (after, .ok first) ∧
        after.HasAlready first.key (·.addEntity (.entity filledChest) true)) ∧
      ∃ after first, chestOnly.addTile slab true = (after, .ok first) ∧
        after.HasAlready first.key (·.addTile slab true) := by
  have fits : slab.Fits := ⟨⟨⟨by decide, by decide⟩, ⟨by decide, by decide⟩⟩, .nil⟩
  have wide : (filledChest.worldBox chestOnly.table .zero).Wide :=
    Box.overlaps_self_iff.mp (by decide +kernel)
  obtain ⟨after, first, added⟩ := reachable_chestOnly.exists_inserted (by decide)
    (Nat.le_refl chestOnly.entities.length) (by decide +kernel : (chestOnly.extent.coverAll
      (((Item.entity filledChest).parts .zero).map (·.box chestOnly.table))).oversize? = none) true
  obtain ⟨tiled, placed, laid⟩ :=
    @exists_addTile_merging chestOnly slab (by decide) (by decide +kernel)
  obtain ⟨entities, tiles⟩ := reachable_chestOnly.merging_again
  exact ⟨reachable_chestOnly, orderly_filledChest, fits,
    ⟨after, first, added, (entities _ _ _ orderly_filledChest added).mpr (.inr wide)⟩,
    tiled, placed, laid, tiles _ _ _ fits laid⟩

/-! ### A marker without width -/

/-- A directory that lists a container whose box is a point, which is not refused as inverted. -/
def markerData : Directory :=
  ⟨"data", [("entities.json",
    some "[\x7b\"name\": \"marker\", \"kind\": \"container\", \"collision_box\": [0, 0, 0, 0]\x7d]")]⟩

/-- The table that is loaded from it. -/
@[irreducible] def markerTable : PrototypeTable :=
  (PrototypeTable.load .empty markerData).toOption.getD .empty

theorem load_markerData : PrototypeTable.load .empty markerData = .ok markerTable := by
  have accepted : (PrototypeTable.load .empty markerData).isOk = true := by decide +kernel
  rw [markerTable]
  cases loaded : PrototypeTable.load .empty markerData with
  | error error =>
    rw [loaded] at accepted
    contradiction
  | ok table => rfl

def marker : Entity := .plain "marker" ⟨0.5, 0.5⟩

theorem host?_append {entity : Entity} (sited : blueprint.entities.Sited blueprint.table)
    (alone : blueprint.entities.host? blueprint.table ⟨.zero, entity⟩ = none) :
    (blueprint.append entity).entities.host? blueprint.table ⟨.zero, entity⟩ =
      if Part.Takes blueprint.table ⟨.zero, entity⟩ ⟨.zero, entity⟩ then
        some blueprint.entities.arena.nextKey
      else none := by
  rw [← sited.host?_store alone]
  exact EntityList.host?_congr rfl rfl

/-- Merging makes no difference where nothing can absorb the entity. -/
theorem addEntity_of_host?_eq_none {entity : Entity}
    (alone : blueprint.entities.host? blueprint.table ⟨.zero, entity⟩ = none) :
    blueprint.addEntity (.entity entity) true = blueprint.addEntity (.entity entity) false := by
  rw [addEntity, addEntity, insertEntity, insertEntity, EntityList.insert_of_host?_eq_none alone]

def oneMarker : Blueprint := (empty markerTable ⟨0⟩).append marker

def twoMarkers : Blueprint := oneMarker.append marker

theorem reachable_empty (table : PrototypeTable) :
    Reachable (fun _ _ => True) (empty table ⟨0⟩) := ⟨_, .empty table ⟨0⟩, .start⟩

theorem host?_empty (table : PrototypeTable) (part : Part) :
    (EntityList.empty ⟨0⟩).host? table part = none := by
  refine (reachable_empty table).sited.host?_eq_none_iff.mpr fun key there here => ?_
  simp [EntityList.part?, EntityList.get?, empty, EntityList.empty, Arena.get?, Arena.empty] at here

theorem marker_added_twice :
    PrototypeTable.load .empty markerData = .ok markerTable ∧
      Reachable (fun _ _ => True) (empty markerTable ⟨0⟩) ∧
      (∃ warnings, (empty markerTable ⟨0⟩).addEntity (.entity marker) true =
        (oneMarker, .ok ⟨⟨0, 0⟩, false, warnings⟩)) ∧
      (∃ warnings, oneMarker.addEntity (.entity marker) true =
        (twoMarkers, .ok ⟨⟨1, 0⟩, false, warnings⟩)) ∧
      oneMarker.entities.length = 1 ∧ twoMarkers.entities.length = 2 ∧
      oneMarker.sameDocument twoMarkers = false := by
  have first : (empty markerTable ⟨0⟩).entities.host? markerTable ⟨.zero, marker⟩ = none :=
    host?_empty markerTable _
  have vacant := (reachable_empty markerTable).coherent.entities.vacant
  have point : ¬ (⟨.zero, marker⟩ : Part).Takes markerTable ⟨.zero, marker⟩ := by decide +kernel
  have second : oneMarker.entities.host? markerTable ⟨.zero, marker⟩ = none :=
    (host?_append (reachable_empty markerTable).sited first).trans (if_neg point)
  refine ⟨load_markerData, reachable_empty markerTable, ?_, ?_, rfl, rfl, by decide +kernel⟩
  · rw [addEntity_of_host?_eq_none first]
    exact exists_addEntity_eq_append vacant (by decide) (by decide +kernel)
  · rw [@addEntity_of_host?_eq_none oneMarker marker second]
    exact @exists_addEntity_eq_append oneMarker marker (EntityList.vacant_append vacant _ _)
      (by decide) (by decide +kernel)

end Blueprint
end FactoryBlueprint
