import FactoryBlueprint.Proofs.Blueprint.Integrity
import FactoryBlueprint.Proofs.Store.Cells

/-! # Entities and tiles are filed where they stand

The index of an entity list only ever adds and removes keys, so in every reachable blueprint each
cell lists the entities whose boxes reach into it, and no others (`Reachable.filed`). The same goes
for the index of a tile list (`Reachable.tilesFiled`).
-/

namespace FactoryBlueprint

namespace EntityList

variable {table : PrototypeTable} {list after : EntityList}

theorem filed_placeEntity (filed : list.index.Filed) (vacant : list.Vacant)
    (table : PrototypeTable) (merge : Bool) (site : Site) (entity : Entity) :
    (list.placeEntity table merge site entity).1.index.Filed := by
  simp only [placeEntity]
  split
  · exact filed
  · exact filed.add (SpatialIndex.room_nextKey vacant) _

mutual

theorem filed_place (table : PrototypeTable) (merge : Bool) (site : Site) :
    (item : Item) → (list : EntityList) → list.index.Filed → list.Vacant →
      (place table merge site item list).1.index.Filed
  | .entity entity, _, filed, vacant => filed_placeEntity filed vacant table merge site entity
  | .group id position items, list, filed, vacant =>
    filed_placeAll table merge (site.within list.arena.nextKey position) items _ filed
      (vacant.insertGroup site id position)

theorem filed_placeAll (table : PrototypeTable) (merge : Bool) (site : Site) :
    (items : List Item) → (list : EntityList) → list.index.Filed → list.Vacant →
      (placeAll table merge site items list).1.index.Filed
  | [], _, filed, _ => filed
  | item :: items, list, filed, vacant => by
    have rest := filed_placeAll table merge site items _
      (filed_place table merge site item list filed vacant)
      ((place_sound table merge site item list vacant).vacant vacant)
    rw [placeAll]
    generalize place table merge site item list = placed at rest ⊢
    obtain ⟨middle, outcome⟩ := placed
    cases outcome <;> exact rest

end

theorem filed_insert (filed : list.index.Filed) (vacant : list.Vacant) (table : PrototypeTable)
    (mode : ValidationMode) (extent : Extent) (i : Nat) (item : Item) (merge : Bool) :
    (list.insert table mode extent i item merge).1.index.Filed := by
  have placed := filed_place table merge .top item list filed vacant
  unfold EntityList.insert
  split
  · exact filed
  · split
    · rename_i eq
      rw [eq] at placed
      exact placed
    · rename_i member _ eq
      rw [eq] at placed
      extract_lets accepted
      clear_value accepted
      cases accepted with
      | error error => exact placed.removeAll member.leaves
      | ok outcome => exact placed

theorem filed_set (filed : list.index.Filed) (coherent : list.Coherent table)
    (mode : ValidationMode) (others : List Box) (i : Nat) (item : Item) :
    (list.set table mode others i item).1.index.Filed := by
  unfold EntityList.set
  split
  · exact filed
  · rename_i old present
    extract_lets oldBoxes cleared
    have vacant : cleared.Vacant := coherent.vacant.removeAll old.leaves
    have placed := filed_place table false .top item cleared (filed.removeAll old.leaves) vacant
    have sound := place_sound table false .top item cleared vacant
    split
    · exact filed
    · rename_i member _ eq
      rw [eq] at placed sound
      extract_lets extent accepted
      clear_value accepted
      cases accepted with
      | error error =>
        have discarded := placing_discard sound.1 vacant sound.2.1
        have rooms := discarded.rooms vacant
          (coherent.get?_ne_none_of_leaf (List.mem_of_getElem? present))
        exact (placed.removeAll member.leaves).addAll (rooms.entries _)
      | ok warnings => exact placed

theorem filed_removeKey? (filed : list.index.Filed) {key : Key} {item : Item}
    (removed : list.removeKey? key = some (item, after)) : after.index.Filed := by
  obtain ⟨_, member, -, -, -, rfl⟩ := removeKey?_eq_some_iff.mp removed
  exact filed.removeAll member.leaves

theorem filed_modify? (filed : list.index.Filed) (coherent : list.Coherent table) {key : Key}
    {f : Entity → Entity} (modified : list.modify? table key f = some after) :
    after.index.Filed := by
  obtain ⟨_, _, found, rfl⟩ := modify?_eq_some_iff.mp modified
  exact filed.add (coherent.room found) _

end EntityList

namespace TileList

variable {table : PrototypeTable} {list after : TileList}

theorem filed_insert (filed : list.index.Filed) (coherent : list.Coherent) {mode : ValidationMode}
    {extent grown : Extent} {i : Nat} {tile : Tile} {merge : Bool} {placement : Placement}
    (inserted : list.insert table mode extent i tile merge = .ok (after, placement, grown)) :
    after.index.Filed := by
  unfold TileList.insert at inserted
  split at inserted
  · contradiction
  · split at inserted
    · obtain ⟨rfl, -⟩ := Prod.mk.inj (Except.ok.inj inserted)
      exact filed
    · simp only [bind_eq_ok_iff] at inserted
      obtain ⟨_, -, _, -, result⟩ := inserted
      obtain ⟨rfl, -⟩ := Prod.mk.inj (Except.ok.inj result)
      exact filed.add coherent.room_nextKey _

theorem filed_set (filed : list.index.Filed) (coherent : list.Coherent) (table : PrototypeTable)
    (mode : ValidationMode) (others : List Box) (i : Nat) (tile : Tile) :
    (list.set table mode others i tile).1.index.Filed := by
  unfold TileList.set
  split
  · exact filed
  · rename_i old present
    extract_lets cleared extent accepted
    clear_value accepted
    cases accepted with
    | error error =>
      cases list.index.box? old with
      | none => exact filed.remove old
      | some box =>
        exact (filed.remove old).add (coherent.room_again (List.mem_of_getElem? present)) box
    | ok warnings => exact (filed.remove old).add (coherent.room_instead present) _

theorem filed_remove (filed : list.index.Filed) {i : Nat} {tile : Tile}
    (removed : list.remove i = .ok (tile, after)) : after.index.Filed := by
  unfold TileList.remove at removed
  split at removed
  · contradiction
  · rename_i key _ _
    obtain ⟨-, rfl⟩ := Prod.mk.inj (Except.ok.inj removed)
    exact filed.remove key

end TileList

namespace Blueprint

theorem filed_placed {blueprint : Blueprint} (own : List Warning)
    {result : EntityList × Except Error (Placement × Extent)} (filed : result.1.index.Filed) :
    (blueprint.placed own result).1.entities.index.Filed := by
  obtain ⟨list, _ | outcome⟩ := result <;> exact filed

theorem filed_modifyEntity {blueprint : Blueprint} (filed : blueprint.entities.index.Filed)
    (coherent : blueprint.Coherent) (key : Key) (f : Entity → Entity) :
    (blueprint.modifyEntity key f).1.entities.index.Filed := by
  rcases blueprint.modifyEntity_cases key f with
    same | ⟨before, entities, -, modified, ⟨extent, -, after⟩ | restored⟩
  · rw [same]
    exact filed
  · rw [after]
    exact EntityList.filed_modify? filed coherent.entities modified
  · rw [restored]
    have edited := EntityList.filed_modify? filed coherent.entities modified
    cases back : entities.modify? blueprint.table key fun _ => before with
    | none => exact edited
    | some again => exact EntityList.filed_modify? edited (coherent.entities.modify? modified) back

/-- What one change keeps. -/
theorem Change.filed {fitting : Prop} {before after : Blueprint}
    (change : Change fitting before after) (coherent : before.Coherent)
    (filed : before.entities.index.Filed) : after.entities.index.Filed := by
  cases change with
  | describe _ _ entities => exact entities ▸ filed
  | insertEntity mode i merge own =>
    exact filed_placed own
      (EntityList.filed_insert filed coherent.entities.vacant _ mode _ i _ merge)
  | setEntity i own => exact filed_placed own (EntityList.filed_set filed coherent.entities _ _ i _)
  | removeEntity removed => exact EntityList.filed_removeKey? filed removed
  | modifyEntity key => exact filed_modifyEntity filed coherent key _
  | rewire modified => exact EntityList.filed_modify? filed coherent.entities modified
  | resetEntities | clearEntities => exact SpatialIndex.filed_empty
  | @setTile i tile =>
    unfold Blueprint.setTile
    split
    · exact filed
    · split <;> exact filed
  | duplicate => exact coherent.entities.filed_duplicate _
  | _ => exact filed

/-- Whatever was done to a blueprint, each cell lists the entities whose boxes reach into it. -/
theorem Reachable.filed {allowed : Blueprint → Operation → Prop} {blueprint : Blueprint}
    (reachable : Reachable allowed blueprint) : blueprint.entities.index.Filed := by
  obtain ⟨start, blank, changes⟩ := reachable.changes False False.elim
  clear reachable
  induction changes with
  | refl =>
    rw [blank.entities]
    exact SpatialIndex.filed_empty
  | tail earlier change ih => exact change.filed (Changes.coherent earlier blank.coherent) ih

theorem tilesFiled_placed {blueprint : Blueprint} (own : List Warning)
    (result : EntityList × Except Error (Placement × Extent))
    (filed : blueprint.tiles.index.Filed) :
    (blueprint.placed own result).1.tiles.index.Filed := by
  obtain ⟨list, _ | outcome⟩ := result <;> exact filed

theorem tilesFiled_setTile {blueprint : Blueprint} (filed : blueprint.tiles.index.Filed)
    (coherent : blueprint.Coherent) (i : Nat) (tile : Tile) :
    (blueprint.setTile i tile).1.tiles.index.Filed := by
  have after := TileList.filed_set filed coherent.tiles blueprint.table blueprint.mode
    blueprint.entities.boxes i tile
  unfold setTile
  split
  · exact filed
  · split
    all_goals
      rename_i eq
      rw [eq] at after
      exact after

theorem Change.tilesFiled {fitting : Prop} {before after : Blueprint}
    (change : Change fitting before after) (coherent : before.Coherent)
    (filed : before.tiles.index.Filed) : after.tiles.index.Filed := by
  cases change with
  | describe _ _ _ tiles => exact tiles ▸ filed
  | insertEntity | setEntity => exact tilesFiled_placed _ _ filed
  | modifyEntity key =>
    rcases before.modifyEntity_cases key _ with same | ⟨_, _, -, -, ⟨_, -, same⟩ | same⟩
    all_goals
      rw [same]
      exact filed
  | insertTile _ inserted => exact TileList.filed_insert filed coherent.tiles inserted
  | setTile i => exact tilesFiled_setTile filed coherent i _
  | removeTile removed => exact TileList.filed_remove filed removed
  | resetTiles | clearTiles => exact SpatialIndex.filed_empty
  | duplicate => exact coherent.tiles.filed_duplicate
  | _ => exact filed

/-- Whatever was done to a blueprint, each cell lists the tiles whose squares reach into it. -/
theorem Reachable.tilesFiled {allowed : Blueprint → Operation → Prop} {blueprint : Blueprint}
    (reachable : Reachable allowed blueprint) : blueprint.tiles.index.Filed := by
  obtain ⟨start, blank, changes⟩ := reachable.changes False False.elim
  clear reachable
  induction changes with
  | refl =>
    rw [blank.tiles]
    exact SpatialIndex.filed_empty
  | tail earlier change ih => exact change.tilesFiled (Changes.coherent earlier blank.coherent) ih

end Blueprint
end FactoryBlueprint
