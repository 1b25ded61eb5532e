import FactoryBlueprint.Proofs.Blueprint.Appending
import FactoryBlueprint.Proofs.Blueprint.Limit

/-! # Computing the extent anew

The extent of a reachable blueprint is around everything in it and within the limit, so that it can be
computed anew at any time, which leaves the union of the boxes that are there
(`Reachable.extent_sound`). An extent that is that union already is `Snug`: insertions keep it so, and
replacements make it so.
-/

namespace FactoryBlueprint

namespace EntityList

variable {table : PrototypeTable} {list after : EntityList}

/-- The boxes after placing a member are those before and those of its leaves. -/
theorem Placing.mem_boxes_iff {member : Member} {site : Site} (vacant : list.Vacant)
    (placing : Placing table member.keys list after) (stands : member.Stands after.arena site)
    (box : Box) : box ∈ after.boxes ↔
      box ∈ list.boxes ++ member.leaves.filterMap after.index.box? := by
  rw [List.mem_append, boxes, boxes, SpatialIndex.mem_boxList, SpatialIndex.mem_boxList]
  constructor
  · rintro ⟨key, found⟩
    by_cases inside : key ∈ member.keys
    · exact .inr (placing.mem_leafBoxes stands inside found)
    · exact .inl ⟨key, placing.elsewhere key inside ▸ found⟩
  · rintro (⟨key, found⟩ | leaf)
    · refine ⟨key, (placing.elsewhere key fun inside => ?_).trans found⟩
      rw [vacant key (placing.fresh key inside)] at found
      contradiction
    · obtain ⟨key, -, found⟩ := List.mem_filterMap.mp leaf
      exact ⟨key, found⟩

theorem Placing.mem_boxes_iff_of_merge (placing : Placing table [] list after) (box : Box) :
    box ∈ after.boxes ↔ box ∈ list.boxes := by
  simp only [boxes, SpatialIndex.mem_boxList, placing.elsewhere _ List.not_mem_nil]

end EntityList

namespace TileList.Coherent

variable {list after : TileList} {table : PrototypeTable} {mode : ValidationMode}

/-- What an insertion adds to the boxes, the extent has grown by. -/
theorem grown_insert (coherent : list.Coherent) {extent grown : Extent} {i : Nat} {tile : Tile}
    {merge : Bool} {placement : Placement}
    (inserted : list.insert table mode extent i tile merge = .ok (after, placement, grown)) :
    ∃ boxes, grown = extent.coverAll boxes ∧
      ∀ box, box ∈ after.boxes ↔ box ∈ list.boxes ++ boxes := by
  unfold TileList.insert at inserted
  split at inserted
  · exact nomatch inserted
  · split at inserted
    · obtain ⟨rfl, same⟩ := Prod.mk.inj (Except.ok.inj inserted)
      obtain ⟨-, rfl⟩ := Prod.mk.inj same
      exact ⟨[], rfl, fun box => by rw [List.append_nil]; rfl⟩
    · simp only [bind_eq_ok_iff] at inserted
      obtain ⟨_, -, wider, extended, result⟩ := inserted
      obtain ⟨rfl, same⟩ := Prod.mk.inj (Except.ok.inj result)
      obtain ⟨-, rfl⟩ := Prod.mk.inj same
      obtain ⟨-, rfl⟩ := Extent.extendOver_eq_ok_iff.mp extended
      have new : list.index.box? list.arena.nextKey = none := by
        rw [coherent.indexed, tile?, list.arena.get?_nextKey, Option.map_none]
      refine ⟨[tile.box], rfl, fun box => ?_⟩
      rw [boxes, SpatialIndex.mem_boxList_add coherent.room_nextKey new, List.mem_append,
        List.mem_singleton, boxes]

/-- The extent after a replacement is computed from the boxes that are there then. -/
theorem snug_set (coherent : list.Coherent) {others : List Box} {i : Nat} {tile : Tile}
    {placement : Placement} {extent : Extent}
    (done : list.set table mode others i tile = (after, .ok (placement, extent))) :
    ∃ kept, extent = .ofBoxes (kept ++ tile.box :: others) ∧
      ∀ box, box ∈ after.boxes ↔ box ∈ kept ∨ box = tile.box := by
  unfold TileList.set at done
  split at done
  · exact nomatch congrArg Prod.snd done
  · rename_i old present
    dsimp only at done
    split at done
    · split at done <;> exact nomatch congrArg Prod.snd done
    · obtain ⟨rfl, same⟩ := Prod.mk.inj done
      obtain ⟨-, rfl⟩ := Prod.mk.inj (Except.ok.inj same)
      refine ⟨_, rfl, fun box => SpatialIndex.mem_boxList_add (coherent.room_instead present) ?_⟩
      -- The next key is not in the arena that the old tile was taken from.
      have new := (list.arena.remove old).get?_nextKey
      rw [Arena.get?_remove] at new
      rw [SpatialIndex.box?_remove]
      split at new
      · rename_i same
        rw [if_pos same]
      · rename_i other
        rw [if_neg other, coherent.indexed, tile?, new, Option.map_none]

end TileList.Coherent

namespace Blueprint

variable {blueprint before after : Blueprint}

/-! ### Snug extents -/

/-- The extent is that of the boxes. -/
def Snug (blueprint : Blueprint) : Prop := blueprint.extent = .ofBoxes blueprint.boxes

theorem Snug.recalculate_eq (snug : blueprint.Snug) : blueprint.recalculate.1 = blueprint := by
  rw [recalculate, ← snug]

/-- The extent stays snug if it grows by the boxes that come in. -/
theorem Snug.grow (snug : before.Snug) {boxes : List Box}
    (extent : after.extent = before.extent.coverAll boxes)
    (present : ∀ box, box ∈ after.boxes ↔ box ∈ before.boxes ++ boxes) : after.Snug := by
  rw [Snug, extent, snug, Extent.ofBoxes_eq_coverAll, Extent.ofBoxes_eq_coverAll,
    ← Extent.coverAll_append]
  exact (Extent.coverAll_congr .empty present).symm

/-- The boxes of the blueprint where only the entities have changed. -/
theorem mem_boxes_of_entities {entities : EntityList} {boxes : List Box}
    (present : ∀ box, box ∈ entities.boxes ↔ box ∈ blueprint.entities.boxes ++ boxes) (box : Box) :
    box ∈ entities.boxes ++ blueprint.tiles.boxes ↔ box ∈ blueprint.boxes ++ boxes := by
  simp only [Blueprint.boxes, List.mem_append, present]
  tauto

/-- Insertions keep the extent snug, whether they succeed or not. -/
theorem Snug.insertEntity (snug : blueprint.Snug) (coherent : blueprint.Coherent) (i : Nat)
    (item : Item) (merge : Bool) : (blueprint.insertEntity i item merge).1.Snug := by
  unfold Blueprint.insertEntity
  split
  · exact snug
  · have sound := EntityList.insert_sound coherent.entities.vacant blueprint.table blueprint.mode
      blueprint.extent i item merge
    generalize blueprint.entities.insert blueprint.table blueprint.mode blueprint.extent i item
      merge = result at sound ⊢
    have merged {entities : EntityList}
        (placing : EntityList.Placing blueprint.table [] blueprint.entities entities) (box : Box) :
        box ∈ entities.boxes ++ blueprint.tiles.boxes ↔ box ∈ blueprint.boxes ++ [] :=
      mem_boxes_of_entities (fun box => by rw [placing.mem_boxes_iff_of_merge, List.append_nil]) box
    obtain ⟨after, _ | ⟨placement, grown⟩⟩ := result
    · exact snug.grow rfl (merged sound)
    · rcases sound with ⟨placing, rfl⟩ | ⟨member, placed, -, placing, stands, -, extended, rfl⟩
      · exact snug.grow rfl (merged placing)
      · exact snug.grow (EntityList.eq_coverAll_of_extendOver extended).1
          (mem_boxes_of_entities (placing.mem_boxes_iff coherent.entities.vacant stands))

theorem Snug.insertTile (snug : blueprint.Snug) (coherent : blueprint.Coherent) (i : Nat)
    (tile : Tile) (merge : Bool) : (blueprint.insertTile i tile merge).1.Snug := by
  unfold Blueprint.insertTile
  cases blueprint.mode.accept (tile.warnings blueprint.table) with
  | error error => exact snug
  | ok own =>
    cases inserted : blueprint.tiles.insert blueprint.table blueprint.mode blueprint.extent i tile
        merge with
    | error error => exact snug
    | ok outcome =>
      obtain ⟨boxes, grown, present⟩ := coherent.tiles.grown_insert inserted
      refine snug.grow grown fun box => ?_
      change box ∈ blueprint.entities.boxes ++ outcome.1.boxes ↔ _
      simp only [Blueprint.boxes, List.mem_append, present]
      tauto

/-! ### Replacements -/

theorem snug_setEntity (coherent : blueprint.Coherent) {i : Nat} {item : Item}
    (done : (blueprint.setEntity i item).2.isOk = true) : (blueprint.setEntity i item).1.Snug := by
  unfold Blueprint.setEntity at done ⊢
  split at done
  · contradiction
  · have sound := coherent.entities.set_sound blueprint.mode blueprint.tiles.boxes i item
    generalize blueprint.entities.set blueprint.table blueprint.mode blueprint.tiles.boxes i item =
      result at sound done ⊢
    obtain ⟨after, _ | ⟨placement, extent⟩⟩ := result
    · contradiction
    · exact sound.2

theorem snug_setTile (coherent : blueprint.Coherent) {i : Nat} {tile : Tile}
    (done : (blueprint.setTile i tile).2.isOk = true) : (blueprint.setTile i tile).1.Snug := by
  unfold Blueprint.setTile at done ⊢
  split at done
  · contradiction
  · generalize replaced : blueprint.tiles.set blueprint.table blueprint.mode
      blueprint.entities.boxes i tile = result at done ⊢
    obtain ⟨after, _ | ⟨placement, extent⟩⟩ := result
    · contradiction
    · obtain ⟨cleared, rfl, present⟩ := coherent.tiles.snug_set replaced
      refine Extent.ofBoxes_congr fun box => ?_
      simp only [Blueprint.boxes, List.mem_append, List.mem_cons, present]
      tauto

theorem snug_setEntities (coherent : blueprint.Coherent) {list : ListId} {items : List Item}
    (done : (blueprint.setEntities list items).2.isOk = true) :
    (blueprint.setEntities list items).1.Snug := by
  generalize replaced : blueprint.setEntities list items = result at done ⊢
  obtain ⟨after, _ | warnings⟩ := result
  · contradiction
  · have start : (blueprint.resetEntities list).Coherent ∧ (blueprint.resetEntities list).Snug :=
      ⟨⟨.empty blueprint.table list, coherent.tiles⟩,
        congrArg Extent.ofBoxes (boxes_empty_entities blueprint.tiles list).symm⟩
    have filled : (placeEach (·.addEntity · false) (blueprint.resetEntities list) items).1.Coherent ∧
        (placeEach (·.addEntity · false) (blueprint.resetEntities list) items).1.Snug := by
      refine placeEach_keeps (fun other => other.Coherent ∧ other.Snug) ?_ start
      exact fun item _ other sound => ⟨Changes.coherent (changes_insertEntity _ _ False.elim) sound.1,
        sound.2.insertEntity sound.1 _ item false⟩
    rw [(setEntities_eq_ok_iff.mp replaced).2] at filled
    exact filled.2

theorem snug_setTiles (coherent : blueprint.Coherent) {tiles : List Tile}
    (done : (blueprint.setTiles tiles).2.isOk = true) : (blueprint.setTiles tiles).1.Snug := by
  generalize replaced : blueprint.setTiles tiles = result at done ⊢
  obtain ⟨after, _ | warnings⟩ := result
  · contradiction
  · have start : blueprint.resetTiles.Coherent ∧ blueprint.resetTiles.Snug :=
      ⟨⟨coherent.entities, .empty⟩,
        congrArg Extent.ofBoxes (boxes_empty_tiles blueprint.entities).symm⟩
    have filled : (placeEach (·.addTile · false) blueprint.resetTiles tiles).1.Coherent ∧
        (placeEach (·.addTile · false) blueprint.resetTiles tiles).1.Snug := by
      refine placeEach_keeps (fun other => other.Coherent ∧ other.Snug) ?_ start
      exact fun tile _ other sound => ⟨Changes.coherent (changes_insertTile _ _ False.elim) sound.1,
        sound.2.insertTile sound.1 _ tile false⟩
    rw [(setTiles_eq_ok_iff.mp replaced).2] at filled
    exact filled.2

theorem snug_clearEntities (blueprint : Blueprint) : blueprint.clearEntities.Snug :=
  congrArg Extent.ofBoxes (boxes_empty_entities blueprint.tiles blueprint.entities.id).symm

theorem snug_clearTiles (blueprint : Blueprint) : blueprint.clearTiles.Snug :=
  congrArg Extent.ofBoxes (boxes_empty_tiles blueprint.entities).symm

/-- The calls that replace or clear, where they succeed. -/
inductive Replaces (blueprint : Blueprint) : Operation → Prop
  | setEntity {i : Nat} {item : Item} (done : (blueprint.setEntity i item).2.isOk = true) :
      Replaces blueprint (.setEntity i item)
  | setTile {i : Nat} {tile : Tile} (done : (blueprint.setTile i tile).2.isOk = true) :
      Replaces blueprint (.setTile i tile)
  | setEntities {list : ListId} {items : List Item}
      (done : (blueprint.setEntities list items).2.isOk = true) :
      Replaces blueprint (.setEntities list items)
  | setTiles {tiles : List Tile} (done : (blueprint.setTiles tiles).2.isOk = true) :
      Replaces blueprint (.setTiles tiles)
  | clearEntities : Replaces blueprint .clearEntities
  | clearTiles : Replaces blueprint .clearTiles

theorem snug_apply (coherent : blueprint.Coherent) {operation : Operation}
    (replaces : Replaces blueprint operation) : (operation.apply blueprint).Snug := by
  cases replaces with
  | setEntity done => exact snug_setEntity coherent done
  | setTile done => exact snug_setTile coherent done
  | setEntities done => exact snug_setEntities coherent done
  | setTiles done => exact snug_setTiles coherent done
  | clearEntities => exact blueprint.snug_clearEntities
  | clearTiles => exact blueprint.snug_clearTiles

/-! ### Soundness -/

/-- The box is that of an entity or of a tile. -/
inductive Has (blueprint : Blueprint) : Box → Prop
  | entity {key : Key} {site : Site} {entity : Entity}
      (stored : blueprint.entities.get? key = some ⟨site, .entity entity⟩) :
      Has blueprint (entity.worldBox blueprint.table site.offset)
  | tile {key : Key} {tile : Tile} (stored : blueprint.tiles.tile? key = some tile) :
      Has blueprint tile.box

/-- The boxes that are listed are those of the entities and tiles. -/
theorem mem_boxes_iff_has (coherent : blueprint.Coherent) {box : Box} :
    box ∈ blueprint.boxes ↔ blueprint.Has box := by
  rw [Blueprint.boxes, List.mem_append, EntityList.boxes, TileList.boxes, SpatialIndex.mem_boxList,
    SpatialIndex.mem_boxList]
  constructor
  · rintro (⟨key, found⟩ | ⟨key, found⟩)
    · rw [coherent.entities.indexed] at found
      obtain ⟨⟨site, content⟩, stored, boxed⟩ := Option.bind_eq_some_iff.mp found
      cases content with
      | entity entity => exact Option.some.inj boxed ▸ .entity stored
      | group id position => contradiction
    · rw [coherent.tiles.indexed] at found
      obtain ⟨tile, stored, rfl⟩ := Option.map_eq_some_iff.mp found
      exact .tile stored
  · rintro (@⟨key, site, entity, stored⟩ | @⟨key, tile, stored⟩)
    · refine .inl ⟨key, ?_⟩
      rw [coherent.entities.indexed, stored]
      rfl
    · refine .inr ⟨key, ?_⟩
      rw [coherent.tiles.indexed, stored]
      rfl

/-- A count of tiles is a length rounded up. -/
def RoundsUp (length : Binary64) (tiles : Nat) : Prop :=
  ∀ count : Nat, count < Box.maxTiles → (tiles ≤ count ↔ length ≤ .ofInt count)

/-- An area is the union of the boxes: there is none if there are no boxes, and it encloses all boxes
while each of its sides is a side of one. -/
structure Unites (has : Box → Prop) (area : Option Box) : Prop where
  none : area = none ↔ ∀ box, ¬ has box
  encloses : ∀ joint ∈ area, ∀ box, has box → joint.Encloses box
  attained : ∀ joint ∈ area, Box.Attained has joint

/-- What is true of the extent at any time. -/
structure ExtentSound (blueprint : Blueprint) : Prop where
  /-- It encloses the boxes of all entities and tiles. -/
  encloses : ∀ box, blueprint.Has box →
    ∃ area, blueprint.extent.area = some area ∧ area.Encloses box
  /-- It spans as many tiles as its sides are long, rounded up. -/
  width : ∀ area, blueprint.extent.area = some area → area.width.isNaN = false →
    RoundsUp area.width blueprint.extent.tileWidth
  height : ∀ area, blueprint.extent.area = some area → area.height.isNaN = false →
    RoundsUp area.height blueprint.extent.tileHeight
  /-- It is within the limit. -/
  within : blueprint.extent.tileWidth ≤ Extent.maxTiles ∧
    blueprint.extent.tileHeight ≤ Extent.maxTiles
  /-- It can be computed anew, and is the union of the boxes then. -/
  recalculates : blueprint.recalculate.2 = .ok ()
  unites : Unites blueprint.Has blueprint.recalculate.1.extent.area
  /-- After a replacement, that changes nothing. -/
  settled : ∀ operation, Replaces blueprint operation →
    (operation.apply blueprint).recalculate.1 = operation.apply blueprint

theorem unites_union? {has : Box → Prop} {boxes : List Box} (listed : ∀ box, box ∈ boxes ↔ has box) :
    Unites has (Box.union? boxes) where
  none := by
    rw [Box.union?_eq_none_iff, List.eq_nil_iff_forall_not_mem]
    exact forall_congr' fun box => not_congr (listed box)
  encloses joint found box here := by
    obtain ⟨area, same, around⟩ := Extent.covers_ofBoxes ((listed box).mpr here)
    obtain rfl := Option.some.inj ((Option.mem_def.mp found).symm.trans same)
    exact around.encloses
  attained joint found := (funext fun box => propext (listed box)) ▸ Box.attained_union? found

/-- The extent is sound along every run. -/
theorem Reachable.extent_sound {allowed : Blueprint → Operation → Prop}
    (reachable : Reachable allowed blueprint) : blueprint.ExtentSound := by
  have coherent := reachable.coherent
  have covered := reachable.covered
  have within := reachable.within
  constructor
  · intro box here
    obtain ⟨area, found, around⟩ := covered.covers ((mem_boxes_iff_has coherent).mpr here)
    exact ⟨area, found, around.encloses⟩
  · intro area found number count small
    rw [Extent.width_eq, found]
    exact Box.tilesAcross_le_iff number small
  · intro area found number count small
    rw [Extent.height_eq, found]
    exact Box.tilesAcross_le_iff number small
  · exact tiles_le_of_within within
  · exact Extent.check_eq_ok_iff.mpr (Extent.oversize?_ofBoxes within fun box => covered.covers)
  · exact unites_union? fun box => mem_boxes_iff_has coherent
  · exact fun operation replaces => (snug_apply coherent replaces).recalculate_eq

/-- A blueprint from which the farther of two chests was removed. -/
def outgrown : Blueprint :=
  let both := ((empty .empty ⟨0⟩).append (.plain "wooden-chest" ⟨0.5, 0.5⟩)).append
    (.plain "wooden-chest" ⟨20.5, 0.5⟩)
  (both.removeEntity 1).1

theorem reachable_outgrown : Reachable (fun _ _ => True) outgrown := by
  have initial : Initial (empty .empty ⟨0⟩) := .empty .empty ⟨0⟩
  refine ⟨_, initial, Run.step (.removeEntity 1) ?_ trivial⟩
  exact (Run.start.append initial trivial (by decide) (by decide +kernel)).append initial trivial
    (by decide) (by decide +kernel)

/-- The extent spans what was removed, too. -/
theorem extent_sound_outgrown : Reachable (fun _ _ => True) outgrown ∧ outgrown.ExtentSound ∧
    outgrown.entities.length = 1 ∧ outgrown.extent.tileWidth = 21 :=
  ⟨reachable_outgrown, reachable_outgrown.extent_sound, by decide +kernel, by decide +kernel⟩

end Blueprint
end FactoryBlueprint
