import FactoryBlueprint.Proofs.Blueprint.Reachable
import FactoryBlueprint.Proofs.EntityList.Every
import FactoryBlueprint.Proofs.TileList.Every

/-! # Reachable blueprints fit

What comes in within its ranges stays within them: merges, edits and copies lead to no value that
could not be written and read again (`Reachable.fits`).
-/

namespace FactoryBlueprint

theorem Entity.keptByMerging_fits : EntityList.KeptByMerging Entity.Fits :=
  fun _ _ fits more => fits.merge more

/-- An entity fits wherever its associations lead. -/
theorem Entity.Fits.mapAssociations {entity : Entity} (fits : entity.Fits)
    (rename : Association → Association) : (entity.mapAssociations rename).Fits where
  connections := by
    constructor
    · intro side color
      simp only [Entity.mapAssociations, Connections.circuit_mapTargets]
      exact (fits.connections.circuit side color).map rename
    · intro side
      simp only [Entity.mapAssociations, Connections.copper_mapTargets]
      exact (fits.connections.copper side).map rename
  items := fits.items
  fields := fits.fields
  extra := fits.extra

namespace Blueprint

theorem Blank.fits {blueprint : Blueprint} (blank : blueprint.Blank) : blueprint.Fits where
  toHeaderFits := blank.header
  entities := by
    rw [blank.entities]
    exact EntityList.every_empty _ _
  tiles := by
    rw [blank.tiles]
    exact TileList.every_empty _

theorem placed_fits {blueprint : Blueprint} (fits : blueprint.Fits) (own : List Warning)
    {result : EntityList × Except Error (Placement × Extent)}
    (entities : result.1.Every Entity.Fits) : (blueprint.placed own result).1.Fits := by
  obtain ⟨list, _ | outcome⟩ := result
  · exact ⟨⟨fits.gridSize, fits.gridPosition, fits.relative, fits.index, fits.schedules⟩, entities,
      fits.tiles⟩
  · exact ⟨⟨fits.gridSize, fits.gridPosition, fits.relative, fits.index, fits.schedules⟩, entities,
      fits.tiles⟩

/-- Only the lists and the extent differ. -/
theorem Fits.with {blueprint : Blueprint} (fits : blueprint.Fits) {entities : EntityList}
    {tiles : TileList} {extent : Extent} (every : entities.Every Entity.Fits)
    (all : tiles.Every Tile.Fits) :
    ({ blueprint with entities := entities, tiles := tiles, extent := extent } : Blueprint).Fits :=
  ⟨⟨fits.gridSize, fits.gridPosition, fits.relative, fits.index, fits.schedules⟩, every, all⟩

theorem modifyEntity_fits {blueprint : Blueprint} (fits : blueprint.Fits) (key : Key)
    {f : Entity → Entity} (kept : ∀ entity : Entity, entity.Fits → (f entity).Fits) :
    (blueprint.modifyEntity key f).1.Fits := by
  have every : blueprint.entities.Every Entity.Fits := fits.entities
  rcases blueprint.modifyEntity_cases key f with
    same | ⟨before, entities, found, modified, ⟨extent, -, after⟩ | restored⟩
  · rw [same]
    exact fits
  · rw [after]
    exact fits.with (every.modify? kept modified) fits.tiles
  · rw [restored]
    have edited := every.modify? kept modified
    refine fits.with ?_ fits.tiles
    cases back : entities.modify? blueprint.table key fun _ => before with
    | none => exact edited
    | some again => exact edited.modify? (fun _ _ => fits.entities key before found) back

theorem setTile_fits {blueprint : Blueprint} (fits : blueprint.Fits) (i : Nat) {tile : Tile}
    (here : tile.Fits) : (blueprint.setTile i tile).1.Fits := by
  have every : blueprint.tiles.Every Tile.Fits := fits.tiles
  unfold setTile
  split
  · exact fits
  · have after := every.set blueprint.table blueprint.mode blueprint.entities.boxes i here
    split
    · rename_i eq
      rw [eq] at after
      exact fits.with fits.entities after
    · rename_i eq
      rw [eq] at after
      exact fits.with fits.entities after

theorem Change.fits {before after : Blueprint} (change : Change True before after)
    (fits : before.Fits) : after.Fits := by
  have every : before.entities.Every Entity.Fits := fits.entities
  have all : before.tiles.Every Tile.Fits := fits.tiles
  cases change with
  | describe _ _ entities tiles _ header =>
    exact ⟨header trivial fits.toHeaderFits, entities ▸ fits.entities, tiles ▸ fits.tiles⟩
  | insertEntity mode i merge own given =>
    exact placed_fits fits own
      (every.insert Entity.keptByMerging_fits _ mode _ i merge (given trivial))
  | setEntity i own given =>
    exact placed_fits fits own (every.set Entity.keptByMerging_fits _ _ _ i (given trivial))
  | removeEntity removed => exact fits.with (every.removeKey? removed) all
  | modifyEntity key kept => exact modifyEntity_fits fits key (kept trivial)
  | rewire modified wires kept =>
    refine fits.with (every.modify? (fun entity before => ?_) modified) all
    rw [wires]
    exact ⟨kept trivial entity before, before.items, before.fields, before.extra⟩
  | resetEntities list => exact fits.with (EntityList.every_empty _ list) all
  | clearEntities => exact fits.with (EntityList.every_clear _ before.entities) all
  | insertTile given inserted =>
    exact fits.with every (all.insert (fun _ other fits => fits.merge other) (given trivial) inserted)
  | setTile i given => exact setTile_fits fits i (given trivial)
  | removeTile removed => exact fits.with every (all.remove removed)
  | resetTiles => exact fits.with every (TileList.every_empty _)
  | clearTiles => exact fits.with every (TileList.every_clear _ before.tiles)
  | recalculate => exact fits.with every all
  | duplicate =>
    refine ⟨⟨fits.gridSize, fits.gridPosition, fits.relative, fits.index, ?_⟩, ?_, all.duplicate⟩
    · intro schedule mem
      obtain ⟨old, here, rfl⟩ := List.mem_map.mp mem
      exact ⟨(fits.schedules old here).stops, (fits.schedules old here).extra⟩
    · exact every.duplicate before.table _ fun _ _ _ fine => fine.mapAssociations _

theorem Changes.fits {before after : Blueprint} (changes : Changes True before after)
    (fits : before.Fits) : after.Fits := by
  induction changes with
  | refl => exact fits
  | tail _ change ih => exact change.fits ih

/-- Where values come in within their ranges, they stay there. -/
theorem Reachable.fits {blueprint : Blueprint}
    (reachable : Reachable (fun _ operation => operation.Fits) blueprint) :
    blueprint.Fits := by
  obtain ⟨start, blank, changes⟩ := reachable.changes True fun _ _ _ fits => fits
  exact Changes.fits changes blank.fits

end Blueprint
end FactoryBlueprint
