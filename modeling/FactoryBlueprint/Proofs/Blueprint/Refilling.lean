import FactoryBlueprint.Blueprint.Contents
import FactoryBlueprint.Proofs.Outcome
import FactoryBlueprint.Proofs.Store.SpatialIndex

/-! # Refilling a list

A bulk replacement takes the old list out, computes the extent of what is left, and places the new
values one after the other. What every placement keeps, the whole loop keeps, wherever it ends
(`placeEach_keeps`). Placements touch nothing but their own list and the extent, so putting these
two back undoes all that was done before a value was refused (`setEntities_of_error`,
`setTiles_of_error`).
-/

namespace FactoryBlueprint.Blueprint

variable {α : Type} {place : Blueprint → α → Edited Placement} {blueprint after : Blueprint}
  {value : α} {values : List α} {warnings : List Warning} {error : Error}

/-! ### The loop -/

theorem placeEach_keeps (property : Blueprint → Prop)
    (keeps : ∀ value ∈ values, ∀ blueprint, property blueprint → property (place blueprint value).1)
    (here : property blueprint) : property (placeEach place blueprint values).1 := by
  induction values generalizing blueprint with
  | nil => exact here
  | cons value values ih =>
    obtain ⟨first, later⟩ := List.forall_mem_cons.mp keeps
    have next := first blueprint here
    rw [placeEach]
    generalize place blueprint value = step at next ⊢
    obtain ⟨middle, _ | placement⟩ := step
    · exact next
    · exact ih later next

/-- The loop gets past a value that is placed and then through the others. -/
theorem placeEach_cons_eq_ok_iff :
    placeEach place blueprint (value :: values) = (after, .ok warnings) ↔
      ∃ middle placement more, place blueprint value = (middle, .ok placement) ∧
        placeEach place middle values = (after, .ok more) ∧
        warnings = placement.warnings ++ more := by
  rw [placeEach]
  generalize place blueprint value = step
  obtain ⟨middle, _ | placement⟩ := step
  · simp
  · generalize rest : placeEach place middle values = result
    obtain ⟨last, _ | more⟩ := result
    · simp [rest, Except.map]
    · simp [rest, Except.map, eq_comm]

theorem refill_keeps (property : Blueprint → Prop)
    (keeps : ∀ value ∈ values, ∀ blueprint, property blueprint → property (place blueprint value).1)
    (here : property blueprint.recalculate.1) : property (refill place blueprint values).1 := by
  rw [refill]
  generalize blueprint.recalculate = begun at here ⊢
  obtain ⟨start, _ | _⟩ := begun
  · exact here
  · exact placeEach_keeps property keeps here

/-- What is left must be within the limit for a start. -/
theorem refill_eq_ok_iff : refill place blueprint values = (after, .ok warnings) ↔
    blueprint.recalculate.2 = .ok () ∧
      placeEach place blueprint.recalculate.1 values = (after, .ok warnings) := by
  rw [refill]
  generalize blueprint.recalculate = begun
  obtain ⟨start, _ | _⟩ := begun <;> simp

/-! ### What placements touch -/

theorem insertEntity_touches (blueprint : Blueprint) (i : Nat) (item : Item) (merge : Bool) :
    ∃ entities extent, (blueprint.insertEntity i item merge).1 =
      { blueprint with entities := entities, extent := extent } := by
  unfold insertEntity
  split
  · exact ⟨_, _, rfl⟩
  · rename_i own _
    generalize blueprint.entities.insert blueprint.table blueprint.mode blueprint.extent i item
      merge = result
    obtain ⟨entities, _ | ⟨placement, extent⟩⟩ := result
    · exact ⟨entities, blueprint.extent, rfl⟩
    · exact ⟨entities, extent, rfl⟩

theorem insertTile_touches (blueprint : Blueprint) (i : Nat) (tile : Tile) (merge : Bool) :
    ∃ tiles extent, (blueprint.insertTile i tile merge).1 =
      { blueprint with tiles := tiles, extent := extent } := by
  unfold insertTile edited
  split
  · rename_i placed done
    simp only [bind_eq_ok_iff] at done
    obtain ⟨_, -, ⟨tiles, placement, extent⟩, -, result⟩ := done
    obtain rfl := (Prod.mk.inj (Except.ok.inj result)).1
    exact ⟨tiles, extent, rfl⟩
  · exact ⟨_, _, rfl⟩

theorem mode_insertEntity (blueprint : Blueprint) (i : Nat) (item : Item) (merge : Bool) :
    (blueprint.insertEntity i item merge).1.mode = blueprint.mode := by
  obtain ⟨entities, extent, same⟩ := blueprint.insertEntity_touches i item merge
  rw [same]

theorem mode_insertTile (blueprint : Blueprint) (i : Nat) (tile : Tile) (merge : Bool) :
    (blueprint.insertTile i tile merge).1.mode = blueprint.mode := by
  obtain ⟨tiles, extent, same⟩ := blueprint.insertTile_touches i tile merge
  rw [same]

/-! ### The start -/

theorem boxes_empty_entities (tiles : TileList) (id : ListId) :
    (EntityList.empty id).boxes ++ tiles.boxes = tiles.boxes := by
  have none : (EntityList.empty id).boxes = [] := SpatialIndex.boxList_empty
  rw [none, List.nil_append]

theorem boxes_empty_tiles (entities : EntityList) :
    entities.boxes ++ TileList.empty.boxes = entities.boxes := by
  have none : TileList.empty.boxes = [] := SpatialIndex.boxList_empty
  rw [none, List.append_nil]

/-- The blueprint with its tiles and with an empty list for its entities. -/
def resetEntities (blueprint : Blueprint) (list : ListId) : Blueprint :=
  { blueprint with entities := .empty list, extent := .ofBoxes blueprint.tiles.boxes }

/-- The blueprint with its entities and with an empty list for its tiles. -/
def resetTiles (blueprint : Blueprint) : Blueprint :=
  { blueprint with tiles := .empty, extent := .ofBoxes blueprint.entities.boxes }

theorem recalculate_without_entities (blueprint : Blueprint) (list : ListId) :
    recalculate { blueprint with entities := .empty list } =
      (blueprint.resetEntities list, (Extent.ofBoxes blueprint.tiles.boxes).check) := by
  rw [recalculate, boxes, boxes_empty_entities]
  rfl

theorem recalculate_without_tiles (blueprint : Blueprint) :
    recalculate { blueprint with tiles := .empty } =
      (blueprint.resetTiles, (Extent.ofBoxes blueprint.entities.boxes).check) := by
  rw [recalculate, boxes, boxes_empty_tiles]
  rfl

/-! ### Replacements -/

theorem setEntities_eq_ok_iff {list : ListId} {items : List Item} :
    blueprint.setEntities list items = (after, .ok warnings) ↔
      (Extent.ofBoxes blueprint.tiles.boxes).check = .ok () ∧
        placeEach (·.addEntity · false) (blueprint.resetEntities list) items =
          (after, .ok warnings) := by
  have start := blueprint.recalculate_without_entities list
  have filled := @refill_eq_ok_iff _ (·.addEntity · false) { blueprint with entities := .empty list }
    after items warnings
  rw [start] at filled
  rw [← filled, setEntities]
  generalize refill (·.addEntity · false) { blueprint with entities := .empty list } items = result
  obtain ⟨last, _ | reported⟩ := result <;> simp

theorem setTiles_eq_ok_iff {tiles : List Tile} :
    blueprint.setTiles tiles = (after, .ok warnings) ↔
      (Extent.ofBoxes blueprint.entities.boxes).check = .ok () ∧
        placeEach (·.addTile · false) blueprint.resetTiles tiles = (after, .ok warnings) := by
  have filled := @refill_eq_ok_iff _ (·.addTile · false) { blueprint with tiles := .empty } after
    tiles warnings
  rw [recalculate_without_tiles] at filled
  rw [← filled, setTiles]
  generalize refill (·.addTile · false) { blueprint with tiles := .empty } tiles = result
  obtain ⟨last, _ | reported⟩ := result <;> simp

/-- Whatever was placed before an item is refused, the blueprint is as it was once the old entities
and the old extent are back. -/
theorem setEntities_of_error {list : ListId} {items : List Item}
    (failed : blueprint.setEntities list items = (after, .error error)) : after = blueprint := by
  have touched : ∃ entities extent,
      (refill (·.addEntity · false) { blueprint with entities := .empty list } items).1 =
        { blueprint with entities := entities, extent := extent } := by
    refine refill_keeps (fun other => ∃ entities extent,
      other = { blueprint with entities := entities, extent := extent }) ?_ ⟨_, _, rfl⟩
    rintro item - other ⟨entities, extent, rfl⟩
    obtain ⟨filled, grown, same⟩ := insertEntity_touches
      { blueprint with entities := entities, extent := extent } entities.length item false
    exact ⟨filled, grown, same⟩
  rw [setEntities] at failed
  generalize refill (·.addEntity · false) { blueprint with entities := .empty list } items = result
    at touched failed
  obtain ⟨last, _ | reported⟩ := result
  · obtain ⟨entities, extent, rfl⟩ := touched
    exact (Prod.mk.inj failed).1.symm
  · exact nomatch (Prod.mk.inj failed).2

theorem setTiles_of_error {tiles : List Tile}
    (failed : blueprint.setTiles tiles = (after, .error error)) : after = blueprint := by
  have touched : ∃ list extent,
      (refill (·.addTile · false) { blueprint with tiles := .empty } tiles).1 =
        { blueprint with tiles := list, extent := extent } := by
    refine refill_keeps (fun other => ∃ list extent,
      other = { blueprint with tiles := list, extent := extent }) ?_ ⟨_, _, rfl⟩
    rintro tile - other ⟨list, extent, rfl⟩
    obtain ⟨filled, grown, same⟩ := insertTile_touches
      { blueprint with tiles := list, extent := extent } list.length tile false
    exact ⟨filled, grown, same⟩
  rw [setTiles] at failed
  generalize refill (·.addTile · false) { blueprint with tiles := .empty } tiles = result
    at touched failed
  obtain ⟨last, _ | reported⟩ := result
  · obtain ⟨list, extent, rfl⟩ := touched
    exact (Prod.mk.inj failed).1.symm
  · exact nomatch (Prod.mk.inj failed).2

end FactoryBlueprint.Blueprint
