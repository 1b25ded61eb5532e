import FactoryBlueprint.Proofs.Blueprint.Filing
import FactoryBlueprint.Proofs.Blueprint.Integrity
import FactoryBlueprint.Proofs.Blueprint.Meetings
import FactoryBlueprint.Proofs.Blueprint.Refusal
import FactoryBlueprint.Proofs.EntityList.Contents

/-! # Replacements and edits that fail

A replacement takes the old object out of the index before it tries the new one, and an edit changes
the entity before it looks at the limit. Where either fails it puts back what it took
(`Blueprint.Restored`): order, groups, objects, boxes, the keys in every cell, the extent and the
document are as before. A replacement that succeeds exchanges one member for another and leaves
everything else as it was (`Exchange`).
-/

namespace FactoryBlueprint

/-! ### What is as before -/

/-- The same boxes are under the same keys, and the same keys are in every cell. -/
structure SpatialIndex.Restored (before after : SpatialIndex) : Prop where
  boxes : ∀ key, after.box? key = before.box? key
  cells : ∀ cell key, key ∈ after.cell cell ↔ key ∈ before.cell cell

theorem SpatialIndex.Filed.restored {before after : SpatialIndex} (filed : before.Filed)
    (afterFiled : after.Filed) (boxes : ∀ key, after.box? key = before.box? key) :
    before.Restored after :=
  ⟨boxes, fun cell key => by rw [afterFiled, filed, boxes]⟩

/-- Members in their groups and in order, objects and index are as before. -/
structure EntityList.Restored (before after : EntityList) : Prop where
  id : after.id = before.id
  members : after.members = before.members
  objects : ∀ key, after.get? key = before.get? key
  index : before.index.Restored after.index

/-- Order, tiles and index are as before. -/
structure TileList.Restored (before after : TileList) : Prop where
  order : after.order = before.order
  tiles : ∀ key, after.tile? key = before.tile? key
  index : before.index.Restored after.index

theorem SpatialIndex.Restored.refl (index : SpatialIndex) : index.Restored index :=
  ⟨fun _ => rfl, fun _ _ => .rfl⟩

theorem EntityList.Restored.refl (list : EntityList) : list.Restored list :=
  ⟨rfl, rfl, fun _ => rfl, .refl _⟩

theorem TileList.Restored.refl (list : TileList) : list.Restored list :=
  ⟨rfl, fun _ => rfl, .refl _⟩

/-- Some objects have come in the place of others, under keys of their own. -/
structure Exchange {α : Type} (before after : Key → Option α) (old new : List Key) : Prop where
  /-- The old objects are gone, and no others. -/
  gone : ∀ key, key ∈ old ↔ before key ≠ none ∧ after key = none
  /-- The new objects have come, and no others. -/
  came : ∀ key, key ∈ new ↔ before key = none ∧ after key ≠ none
  /-- All others are as before. -/
  kept : ∀ key ∉ old, key ∉ new → after key = before key

theorem Exchange.of_kept {α : Type} {before after : Key → Option α} {old new : List Key}
    (there : ∀ key ∈ old, before key ≠ none) (gone : ∀ key ∈ old, after key = none)
    (fresh : ∀ key ∈ new, before key = none) (here : ∀ key ∈ new, after key ≠ none)
    (kept : ∀ key ∉ old, key ∉ new → after key = before key) : Exchange before after old new where
  gone key := by
    refine ⟨fun isOld => ⟨there key isOld, gone key isOld⟩, fun ⟨stood, left⟩ => ?_⟩
    by_contra other
    exact stood ((kept key other fun isNew => stood (fresh key isNew)).symm.trans left)
  came key := by
    refine ⟨fun isNew => ⟨fresh key isNew, here key isNew⟩, fun ⟨missing, stands⟩ => ?_⟩
    by_contra other
    exact stands ((kept key (fun isOld => there key isOld missing) other).trans missing)
  kept := kept

/-! ### Entities -/

namespace EntityList

variable {table : PrototypeTable} {list after : EntityList} {mode : ValidationMode}
  {others : List Box} {i : Nat} {item : Item}

/-- What a replacement that succeeds has done. -/
theorem exists_of_set_eq_ok {placement : Placement} {extent : Extent}
    (done : list.set table mode others i item = (after, .ok (placement, extent))) :
    ∃ old new placed warnings, list.members[i]? = some old ∧ placement.key = new.key ∧
      place table false .top item { list with index := list.index.removeAll old.leaves } =
        (placed, .inserted new warnings) ∧
      after = { placed with
        members := placed.members.set i new
        arena := placed.arena.removeAll old.keys } := by
  unfold EntityList.set at done
  split at done
  · exact nomatch congrArg Prod.snd done
  · rename_i old present
    extract_lets oldBoxes cleared at done
    split at done
    · exact nomatch congrArg Prod.snd done
    · rename_i placed new warnings eq
      extract_lets extent accepted at done
      clear_value accepted
      cases accepted with
      | error error => exact nomatch congrArg Prod.snd done
      | ok own =>
        obtain ⟨rfl, same⟩ := Prod.mk.inj done
        obtain ⟨rfl, -⟩ := Prod.mk.inj (Except.ok.inj same)
        exact ⟨old, new, placed, warnings, present, rfl, eq, rfl⟩

/-- The list has the item in the place of member `i`. -/
structure Replaces (before : EntityList) (i : Nat) (item : Item) (key : Key)
    (after : EntityList) (old new : Member) : Prop where
  id : after.id = before.id
  present : before.members[i]? = some old
  members : after.members = before.members.set i new
  key : new.key = key
  shows : after.item? new = some item
  objects : Exchange before.get? after.get? old.keys new.keys

/-- What the index holds follows from the objects. -/
theorem Coherent.restored (coherent : list.Coherent table) (filed : list.index.Filed)
    (afterCoherent : after.Coherent table) (afterFiled : after.index.Filed)
    (id : after.id = list.id) (members : after.members = list.members)
    (objects : ∀ key, after.get? key = list.get? key) : list.Restored after :=
  ⟨id, members, objects, filed.restored afterFiled fun key => by
    rw [afterCoherent.indexed, objects, coherent.indexed]⟩

theorem Coherent.restored_set (coherent : list.Coherent table) (filed : list.index.Filed)
    {error : Error} (failed : list.set table mode others i item = (after, .error error)) :
    list.Restored after := by
  have sound := coherent.set_sound mode others i item
  have altered := @exchanged_set (fun _ => True) _ coherent.vacant table mode others i item
    fun _ _ => trivial
  have afterCoherent := coherent.set mode others i item
  have afterFiled := filed_set filed coherent mode others i item
  rw [failed] at sound altered afterCoherent afterFiled
  replace sound : Placing table [] list after := sound
  refine coherent.restored filed afterCoherent afterFiled sound.id sound.members fun key => ?_
  cases found : list.get? key with
  | none => exact (sound.get?_eq_none_iff key).mpr ⟨List.not_mem_nil, found⟩
  | some placed => exact Altered.get? altered found

theorem Coherent.replaces_set (coherent : list.Coherent table) {placement : Placement}
    {extent : Extent}
    (done : list.set table mode others i item = (after, .ok (placement, extent))) :
    ∃ old new, list.Replaces i item placement.key after old new := by
  obtain ⟨old, new, placed, warnings, present, key, eq, rfl⟩ := exists_of_set_eq_ok done
  have stands := coherent.stands old (List.mem_of_getElem? present)
  have vacant := coherent.vacant.removeAll old.leaves
  obtain ⟨_, _, _, shown, shows⟩ := place_shows table .top item _ vacant
  have sound := place_sound table false .top item _ vacant
  have altered := @altered_place (fun _ => True) table false .top item
    { list with index := list.index.removeAll old.leaves } fun _ _ => trivial
  rw [eq] at shown sound altered
  obtain ⟨rfl, same⟩ := Prod.mk.inj shown
  obtain ⟨rfl, -⟩ := Outcome.inserted.inj same
  obtain ⟨placing, -, -⟩ := sound
  have there (key : Key) (isOld : key ∈ old.keys) : list.get? key ≠ none := by
    obtain ⟨object, found⟩ := stands.exists_of_mem_keys isOld
    simp [get?, found]
  have apart (key : Key) (isNew : key ∈ new.keys) : key ∉ old.keys := fun isOld =>
    there key isOld (placing.fresh key isNew)
  have left (key : Key) : get? { placed with
      members := placed.members.set i new
      arena := placed.arena.removeAll old.keys } key =
        if key ∈ old.keys then none else placed.get? key :=
    placed.arena.get?_removeAll old.keys key
  refine ⟨old, new, placing.id, present, congrArg (List.set · i new) placing.members, key.symm, ?_,
    .of_kept there (fun key isOld => by rw [left, if_pos isOld]) placing.fresh
      (fun key isNew => ?_) fun key isOther notNew => ?_⟩
  · rw [← shows]
    exact item?_congr new fun key isNew => by rw [left, if_neg (apart key isNew)]
  · rw [left, if_neg (apart key isNew)]
    exact placing.stored key isNew
  · rw [left, if_neg isOther]
    cases found : list.get? key with
    | none => exact (placing.get?_eq_none_iff key).mpr ⟨notNew, found⟩
    | some object => exact altered.get? found

/-- An edit that is taken back leaves the list as it was. -/
theorem Coherent.restored_modify? (coherent : list.Coherent table) (filed : list.index.Filed)
    {key : Key} {f : Entity → Entity} {entity : Entity} {edited : EntityList}
    (here : list.entity? key = some entity) (modified : list.modify? table key f = some edited) :
    list.Restored ((edited.modify? table key fun _ => entity).getD edited) := by
  obtain ⟨site, stored, found, -⟩ := modify?_eq_some_iff.mp modified
  obtain rfl : stored = entity := by
    rw [entity?, found] at here
    exact Option.some.inj here
  have changed : edited.get? key = some ⟨site, .entity (f stored)⟩ := by
    rw [get?_of_modify? modified, if_pos rfl, found]
    rfl
  obtain ⟨again, back⟩ : ∃ again, edited.modify? table key (fun _ => stored) = some again :=
    ⟨_, modify?_eq_some_iff.mpr ⟨site, f stored, changed, rfl⟩⟩
  rw [back, Option.getD_some]
  refine coherent.restored filed ((coherent.modify? modified).modify? back)
    (filed_modify? (filed_modify? filed coherent modified) (coherent.modify? modified) back)
    ((members_of_modify? back).1.trans (members_of_modify? modified).1)
    ((members_of_modify? back).2.trans (members_of_modify? modified).2) fun other => ?_
  rw [get?_of_modify? back]
  split
  · rename_i same
    rw [changed, same, found]
    rfl
  · rename_i differs
    rw [get?_of_modify? modified, if_neg differs]

end EntityList

/-! ### Tiles -/

namespace TileList

variable {table : PrototypeTable} {list after : TileList} {mode : ValidationMode}
  {others : List Box} {i : Nat} {tile : Tile}

/-- The list has the tile in place `i`. -/
structure Replaces (before : TileList) (i : Nat) (tile : Tile) (key : Key) (after : TileList)
    (old : Key) : Prop where
  present : before.order[i]? = some old
  order : after.order = before.order.set i key
  shows : after.tile? key = some tile
  tiles : Exchange before.tile? after.tile? [old] [key]

/-- A replacement that fails changes the index at most. -/
theorem order_of_set_eq_error {error : Error}
    (failed : list.set table mode others i tile = (after, .error error)) :
    after.order = list.order ∧ after.arena = list.arena := by
  unfold TileList.set at failed
  split at failed
  · obtain ⟨rfl, -⟩ := Prod.mk.inj failed
    exact ⟨rfl, rfl⟩
  · rename_i old present
    extract_lets cleared extent accepted at failed
    clear_value accepted
    cases accepted with
    | ok warnings => exact nomatch congrArg Prod.snd failed
    | error fault =>
      cases boxed : list.index.box? old <;> simp only [boxed] at failed <;>
        obtain ⟨rfl, -⟩ := Prod.mk.inj failed <;> exact ⟨rfl, rfl⟩

theorem Coherent.restored_set (coherent : list.Coherent) (filed : list.index.Filed) {error : Error}
    (failed : list.set table mode others i tile = (after, .error error)) : list.Restored after := by
  obtain ⟨order, arena⟩ := order_of_set_eq_error failed
  have tiles (key : Key) : after.tile? key = list.tile? key := by rw [tile?, arena, tile?]
  have afterCoherent := coherent.set table mode others i tile
  have afterFiled := filed_set filed coherent table mode others i tile
  rw [failed] at afterCoherent afterFiled
  exact ⟨order, tiles, filed.restored afterFiled fun key => by
    rw [afterCoherent.indexed, tiles, coherent.indexed]⟩

theorem Coherent.replaces_set (coherent : list.Coherent) {placement : Placement} {extent : Extent}
    (done : list.set table mode others i tile = (after, .ok (placement, extent))) :
    ∃ old, list.Replaces i tile placement.key after old := by
  unfold TileList.set at done
  split at done
  · cases congrArg Prod.snd done
  · rename_i old present
    extract_lets cleared extent accepted vacated key at done
    clear_value accepted
    cases accepted with
    | error error => cases boxed : list.index.box? old <;> simp [boxed] at done
    | ok warnings =>
      obtain ⟨rfl, same⟩ := Prod.mk.inj done
      obtain ⟨rfl, -⟩ := Prod.mk.inj (Except.ok.inj same)
      have there : (list.tile? old).isSome :=
        (coherent.stored old).mp (List.mem_of_getElem? present)
      have removed (other : Key) :
          vacated.get? other = if other = old then none else list.tile? other :=
        list.arena.get?_remove old other
      -- The key of the old tile is spent, so the new tile has another.
      have spent : vacated.Spent old := (list.arena.ages_remove old).spent_of_get?_eq_none there
        (by rw [removed, if_pos rfl])
      have apart : key ≠ old := by
        rintro same
        rw [← same] at spent
        exact vacated.not_spent_nextKey spent
      have fresh : list.tile? key = none := by
        have missing := vacated.get?_nextKey
        rwa [removed, if_neg apart] at missing
      have placed (other : Key) : (vacated.insert tile).get? other =
          if other = key then some tile else vacated.get? other := vacated.get?_insert tile other
      refine ⟨old, present, rfl, (placed key).trans (if_pos rfl),
        .of_kept ?_ ?_ ?_ ?_ fun other isOther notNew => ?_⟩
      · exact List.forall_mem_singleton.mpr (Option.isSome_iff_ne_none.mp there)
      · exact List.forall_mem_singleton.mpr
          (by rw [tile?, placed, if_neg (Ne.symm apart), removed, if_pos rfl])
      · exact List.forall_mem_singleton.mpr fresh
      · refine List.forall_mem_singleton.mpr ?_
        rw [tile?, placed, if_pos rfl]
        exact Option.some_ne_none tile
      · rw [tile?, placed, if_neg fun same => notNew (List.mem_singleton.mpr same), removed,
          if_neg fun same => isOther (List.mem_singleton.mpr same)]

end TileList

/-! ### Blueprints -/

namespace Blueprint

variable {blueprint after : Blueprint}

/-- The document tells no more of the tile list than the tiles in order. -/
theorem toDocument_congr_tiles {tiles : TileList} (same : tiles.tiles = blueprint.tiles.tiles) :
    toDocument { blueprint with tiles := tiles } = blueprint.toDocument := by
  unfold toDocument documentOf documentFields
  simp only [same]
  rfl

/-- Nothing that can be seen of the blueprint has changed. -/
structure Restored (before after : Blueprint) : Prop where
  /-- All but the lists is the same, so is the extent. -/
  rest : after = { before with entities := after.entities, tiles := after.tiles }
  entities : before.entities.Restored after.entities
  tiles : before.tiles.Restored after.tiles
  document : after.toDocument = before.toDocument

theorem Restored.refl (blueprint : Blueprint) : blueprint.Restored blueprint :=
  ⟨rfl, .refl _, .refl _, rfl⟩

theorem restored_of_entities {entities : EntityList}
    (restored : blueprint.entities.Restored entities) :
    blueprint.Restored { blueprint with entities := entities } :=
  ⟨rfl, restored, .refl _, toDocument_congr restored.id restored.members restored.objects⟩

theorem restored_of_tiles {tiles : TileList} (restored : blueprint.tiles.Restored tiles) :
    blueprint.Restored { blueprint with tiles := tiles } := by
  refine ⟨rfl, .refl _, restored, toDocument_congr_tiles ?_⟩
  rw [TileList.tiles, TileList.tiles, restored.order]
  exact List.filterMap_congr fun key _ => restored.tiles key

/-- What setting member `i` to an item leaves: the item in the place of the old member, or
everything as before. -/
def SetsEntity (before : Blueprint) (i : Nat) (item : Item) : Edited Placement → Prop
  | (after, .error _) => before.Restored after
  | (after, .ok placement) =>
    after = { before with entities := after.entities, extent := after.extent } ∧
      ∃ old new, before.entities.Replaces i item placement.key after.entities old new

/-- What setting tile `i` leaves: the tile in the place of the old one, or everything as before. -/
def SetsTile (before : Blueprint) (i : Nat) (tile : Tile) : Edited Placement → Prop
  | (after, .error _) => before.Restored after
  | (after, .ok placement) =>
    after = { before with tiles := after.tiles, extent := after.extent } ∧
      ∃ old, before.tiles.Replaces i tile placement.key after.tiles old

/-- Everything is as before if the call fails. -/
def RestoresOnError {α : Type} (before : Blueprint) : Edited α → Prop
  | (after, .error _) => before.Restored after
  | (_, .ok _) => True

theorem restoresOnError_edited {α : Type} (blueprint : Blueprint)
    (outcome : Except Error (Blueprint × α)) :
    blueprint.RestoresOnError (blueprint.edited outcome) := by
  cases outcome with
  | error error => exact .refl blueprint
  | ok done => trivial

theorem setsEntity (coherent : blueprint.Coherent) (filed : blueprint.entities.index.Filed)
    (i : Nat) (item : Item) : blueprint.SetsEntity i item (blueprint.setEntity i item) := by
  unfold setEntity
  cases blueprint.mode.accept (item.warnings blueprint.table) with
  | error error => exact .refl blueprint
  | ok own =>
    dsimp only
    cases eq : blueprint.entities.set blueprint.table blueprint.mode blueprint.tiles.boxes i item with
    | mk entities outcome =>
      cases outcome with
      | error error => exact restored_of_entities (coherent.entities.restored_set filed eq)
      | ok done =>
        obtain ⟨placement, extent⟩ := done
        obtain ⟨old, new, replaces⟩ := coherent.entities.replaces_set eq
        exact ⟨rfl, old, new, replaces⟩

theorem setsTile (coherent : blueprint.Coherent) (filed : blueprint.tiles.index.Filed)
    (i : Nat) (tile : Tile) : blueprint.SetsTile i tile (blueprint.setTile i tile) := by
  unfold setTile
  cases blueprint.mode.accept (tile.warnings blueprint.table) with
  | error error => exact .refl blueprint
  | ok own =>
    dsimp only
    cases eq : blueprint.tiles.set blueprint.table blueprint.mode blueprint.entities.boxes i tile with
    | mk tiles outcome =>
      cases outcome with
      | error error => exact restored_of_tiles (coherent.tiles.restored_set filed eq)
      | ok done =>
        obtain ⟨placement, extent⟩ := done
        obtain ⟨old, replaces⟩ := coherent.tiles.replaces_set eq
        exact ⟨rfl, old, replaces⟩

theorem restoresOnError_modifyEntity (coherent : blueprint.Coherent)
    (filed : blueprint.entities.index.Filed) (key : Key) (f : Entity → Entity) :
    blueprint.RestoresOnError (blueprint.modifyEntity key f) := by
  unfold modifyEntity
  cases here : blueprint.entities.entity? key with
  | none => exact .refl blueprint
  | some entity =>
    cases modified : blueprint.entities.modify? blueprint.table key f with
    | none => exact .refl blueprint
    | some entities =>
      simp only [Option.bind_eq_bind, Option.bind_some, Option.pure_def]
      cases (entities.index.box? key).elim (.ok blueprint.extent) blueprint.extent.extendOver with
      | ok extent => trivial
      | error error =>
        exact restored_of_entities (coherent.entities.restored_modify? filed here modified)

/-- A member or a tile is replaced and nothing else is touched, or everything is as before. Inserting
a tile and editing an entity leave everything as before if they fail. -/
theorem Reachable.replaced_or_restored {allowed : Blueprint → Operation → Prop}
    (reachable : Reachable allowed blueprint) :
    (∀ i item, blueprint.SetsEntity i item (blueprint.setEntity i item)) ∧
      (∀ i tile, blueprint.SetsTile i tile (blueprint.setTile i tile)) ∧
      (∀ i tile merge, blueprint.RestoresOnError (blueprint.insertTile i tile merge)) ∧
      ∀ key f, blueprint.RestoresOnError (blueprint.modifyEntity key f) :=
  ⟨setsEntity reachable.coherent reachable.filed, setsTile reachable.coherent reachable.tilesFiled,
    fun _ _ _ => restoresOnError_edited _ _,
    restoresOnError_modifyEntity reachable.coherent reachable.filed⟩

/-- The first of two chests cannot be moved too far away from the other one. -/
theorem modifyEntity_farChest :
    ∃ error, (crowded.modifyEntity ⟨0, 0⟩ fun _ => farChest).2 = .error error := by
  obtain ⟨entities, modified⟩ :
      ∃ entities, crowded.entities.modify? crowded.table ⟨0, 0⟩ (fun _ => farChest) = some entities :=
    ⟨_, EntityList.modify?_eq_some_iff.mpr ⟨.top, chest, rfl, rfl⟩⟩
  have box : entities.index.box? ⟨0, 0⟩ = some (farChest.worldBox .empty .zero) := by
    have coherent := reachable_crowded.coherent.entities.modify? modified
    rw [coherent.indexed, EntityList.get?_of_modify? modified, if_pos rfl]
    rfl
  have beyond : (crowded.extent.extendOver (farChest.worldBox .empty .zero)).isOk = false := by
    decide +kernel
  have here : crowded.entities.entity? ⟨0, 0⟩ = some chest := rfl
  cases extended : crowded.extent.extendOver (farChest.worldBox .empty .zero) with
  | ok extent =>
    rw [extended] at beyond
    contradiction
  | error error =>
    refine ⟨error, ?_⟩
    simp only [modifyEntity, here, modified, Option.bind_eq_bind, Option.bind_some,
      Option.pure_def, box, Option.elim_some, extended]

theorem restored_farChest : Reachable (fun _ _ => True) crowded ∧
    (∃ error, (crowded.modifyEntity ⟨0, 0⟩ fun _ => farChest).2 = .error error) ∧
    crowded.Restored (crowded.modifyEntity ⟨0, 0⟩ fun _ => farChest).1 := by
  obtain ⟨error, refused⟩ := modifyEntity_farChest
  have restores := reachable_crowded.replaced_or_restored.2.2.2 ⟨0, 0⟩ fun _ => farChest
  refine ⟨reachable_crowded, ⟨error, refused⟩, ?_⟩
  generalize crowded.modifyEntity ⟨0, 0⟩ (fun _ => farChest) = result at refused restores ⊢
  obtain ⟨after, outcome⟩ := result
  obtain rfl : outcome = .error error := refused
  exact restores

end Blueprint
end FactoryBlueprint
