import FactoryBlueprint.Proofs.Blueprint.Reachable
import FactoryBlueprint.Proofs.EntityList.Intact
import FactoryBlueprint.Proofs.TileList.Coherence

/-! # Integrity of reachable blueprints

A change keeps the entity list and the tile list of a blueprint coherent, whether the operation it
is part of succeeds or not. So in every reachable blueprint, arena, forest and index agree.
-/

namespace FactoryBlueprint.Blueprint

/-- Both lists are coherent. -/
structure Coherent (blueprint : Blueprint) : Prop where
  entities : blueprint.entities.Coherent blueprint.table
  tiles : blueprint.tiles.Coherent

theorem Blank.coherent {blueprint : Blueprint} (blank : blueprint.Blank) : blueprint.Coherent where
  entities := blank.entities ▸ .empty blueprint.table _
  tiles := blank.tiles ▸ .empty

theorem placed_coherent {blueprint : Blueprint} (own : List Warning)
    {result : EntityList × Except Error (Placement × Extent)}
    (entities : result.1.Coherent blueprint.table) (tiles : blueprint.tiles.Coherent) :
    (blueprint.placed own result).1.Coherent := by
  obtain ⟨list, _ | outcome⟩ := result
  · exact ⟨entities, tiles⟩
  · exact ⟨entities, tiles⟩

theorem modifyEntity_coherent {blueprint : Blueprint} (coherent : blueprint.Coherent) (key : Key)
    (f : Entity → Entity) : (blueprint.modifyEntity key f).1.Coherent := by
  rcases blueprint.modifyEntity_cases key f with
    same | ⟨before, entities, -, modified, ⟨extent, -, after⟩ | restored⟩
  · rw [same]
    exact coherent
  · rw [after]
    exact ⟨coherent.entities.modify? modified, coherent.tiles⟩
  · rw [restored]
    have edited := coherent.entities.modify? modified
    refine ⟨?_, coherent.tiles⟩
    cases back : entities.modify? blueprint.table key fun _ => before with
    | none => exact edited
    | some again => exact edited.modify? back

theorem setTile_coherent {blueprint : Blueprint} (coherent : blueprint.Coherent) (i : Nat)
    (tile : Tile) : (blueprint.setTile i tile).1.Coherent := by
  unfold setTile
  split
  · exact coherent
  · have after := coherent.tiles.set blueprint.table blueprint.mode blueprint.entities.boxes i tile
    split
    · rename_i eq
      rw [eq] at after
      exact ⟨coherent.entities, after⟩
    · rename_i eq
      rw [eq] at after
      exact ⟨coherent.entities, after⟩

/-- What one change keeps. -/
theorem Change.coherent {fitting : Prop} {before after : Blueprint}
    (change : Change fitting before after) (coherent : before.Coherent) : after.Coherent := by
  cases change with
  | describe table _ entities tiles =>
    exact ⟨entities ▸ table ▸ coherent.entities, tiles ▸ coherent.tiles⟩
  | insertEntity mode i merge own =>
    exact placed_coherent own (coherent.entities.insert mode before.extent i _ merge) coherent.tiles
  | setEntity i own =>
    exact placed_coherent own (coherent.entities.set before.mode _ i _) coherent.tiles
  | removeEntity removed => exact ⟨coherent.entities.removeKey? removed, coherent.tiles⟩
  | modifyEntity key => exact modifyEntity_coherent coherent key _
  | rewire modified => exact ⟨coherent.entities.modify? modified, coherent.tiles⟩
  | resetEntities list => exact ⟨.empty before.table list, coherent.tiles⟩
  | clearEntities => exact ⟨.clear before.table before.entities, coherent.tiles⟩
  | insertTile _ inserted => exact ⟨coherent.entities, coherent.tiles.insert inserted⟩
  | setTile i => exact setTile_coherent coherent i _
  | removeTile removed => exact ⟨coherent.entities, coherent.tiles.remove removed⟩
  | resetTiles => exact ⟨coherent.entities, .empty⟩
  | clearTiles => exact ⟨coherent.entities, .clear before.tiles⟩
  | recalculate => exact ⟨coherent.entities, coherent.tiles⟩
  | duplicate => exact ⟨coherent.entities.duplicate _, coherent.tiles.duplicate⟩

theorem Changes.coherent {fitting : Prop} {before after : Blueprint}
    (changes : Changes fitting before after) (coherent : before.Coherent) : after.Coherent := by
  induction changes with
  | refl => exact coherent
  | tail _ change ih => exact change.coherent ih

theorem Reachable.coherent {allowed : Blueprint → Operation → Prop} {blueprint : Blueprint}
    (reachable : Reachable allowed blueprint) : blueprint.Coherent := by
  obtain ⟨start, blank, changes⟩ := reachable.changes False False.elim
  exact Changes.coherent changes blank.coherent

/-- Whatever was done to a blueprint, its entity list is intact, and order, arena and index of its
tile list hold the same keys. -/
theorem Reachable.lists_intact {allowed : Blueprint → Operation → Prop} {blueprint : Blueprint}
    (reachable : Reachable allowed blueprint) :
    blueprint.entities.Intact blueprint.table ∧ blueprint.tiles.Coherent ∧
      ∀ area, ∀ key ∈ blueprint.tiles.index.query area, (blueprint.tiles.tile? key).isSome := by
  have coherent := reachable.coherent
  refine ⟨coherent.entities.intact, coherent.tiles, fun area key found => ?_⟩
  obtain ⟨box, boxed, -⟩ := SpatialIndex.box?_of_mem_query found
  rw [coherent.tiles.indexed] at boxed
  obtain ⟨tile, stored, -⟩ := Option.map_eq_some_iff.mp boxed
  exact Option.isSome_of_eq_some stored

/-- A lamp and, in an inner group, a pole. -/
def nestedGroup : Item :=
  .group (some "station") ⟨2, 3⟩
    [.entity (.plain "lamp" ⟨1, 1⟩), .group none ⟨10, 0⟩ [.entity (.plain "pole" ⟨0, 0⟩)]]

/-- The group placed, placed again over itself, its lamp taken out from within, and a copy made. -/
def regrouped : Blueprint :=
  [Operation.addEntity nestedGroup false, .addEntity nestedGroup true, .removeEntityKey ⟨1, 0⟩,
    .duplicate ⟨1⟩].foldl Operation.apply (empty .empty ⟨0⟩)

theorem reachable_regrouped : Reachable (fun _ _ => True) regrouped :=
  ⟨_, .empty .empty ⟨0⟩, .calls _ .start⟩

theorem intact_regrouped :
    Reachable (fun _ _ => True) regrouped ∧ regrouped.entities.Intact regrouped.table ∧
      regrouped.tiles.Coherent ∧ ∀ area, ∀ key ∈ regrouped.tiles.index.query area,
        (regrouped.tiles.tile? key).isSome :=
  ⟨reachable_regrouped, reachable_regrouped.lists_intact⟩

end FactoryBlueprint.Blueprint
