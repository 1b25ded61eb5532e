import FactoryBlueprint.Proofs.Blueprint.Appending
import FactoryBlueprint.Proofs.Blueprint.Limit
import FactoryBlueprint.Proofs.Blueprint.Ranges
import FactoryBlueprint.Proofs.RoundTrip.Headers
import FactoryBlueprint.Proofs.RoundTrip.Objects

/-! # Writing a blueprint and reading it back

A blueprint that an inspection finds no error in is written as a document that can be read. The
blueprint that is read has the same entities, told from the grid, and is written as the same
document (`Reachable.returns`).
-/

namespace FactoryBlueprint.Blueprint

variable {blueprint : Blueprint}

/-! ### Boxes and the extent -/

/-- The boxes of a blueprint are those of its entities and tiles in order. -/
theorem mem_boxes_iff (coherent : blueprint.Coherent) {boxes : List Box}
    (listed : List.Forall₂ (fun key box => blueprint.entities.index.box? key = some box)
      blueprint.entities.leaves boxes) (box : Box) :
    box ∈ blueprint.boxes ↔ box ∈ boxes ++ blueprint.tiles.tiles.map Tile.box := by
  rw [Blueprint.boxes, List.mem_append, List.mem_append, EntityList.boxes, TileList.boxes,
    SpatialIndex.mem_boxList, SpatialIndex.mem_boxList]
  refine or_congr ⟨?_, fun mem => ?_⟩ ?_
  · rintro ⟨key, found⟩
    have stored := coherent.entities.indexed key
    rw [found] at stored
    obtain ⟨placed, here, boxed⟩ := Option.bind_eq_some_iff.mp stored.symm
    obtain ⟨entity, isEntity, -⟩ := Option.map_eq_some_iff.mp boxed
    have leaf : key ∈ blueprint.entities.leaves := (coherent.entities.mem_leaves_iff key).mpr (by
      rw [EntityList.entity?, here]
      exact Option.isSome_of_eq_some isEntity)
    obtain ⟨other, mem, also⟩ := exists_of_mem_left listed leaf
    exact Option.some.inj (found.symm.trans also) ▸ mem
  · obtain ⟨key, -, found⟩ := exists_of_mem_right listed mem
    exact ⟨key, found⟩
  · simp only [coherent.tiles.indexed, TileList.tiles, List.mem_map, List.mem_filterMap,
      Option.map_eq_some_iff]
    constructor
    · rintro ⟨key, tile, stored, rfl⟩
      exact ⟨tile, ⟨key, (coherent.tiles.stored key).mpr (Option.isSome_of_eq_some stored), stored⟩,
        rfl⟩
    · rintro ⟨tile, ⟨key, -, stored⟩, rfl⟩
      exact ⟨key, tile, stored, rfl⟩

/-- Boxes that are told from another origin are within the limit if the extent around them is. -/
theorem exists_extent (covered : blueprint.Covered) (small : blueprint.extent.oversize? = none)
    {origin : GridPosition} {boxes others : List Box} (inside : ∀ box ∈ boxes, box ∈ blueprint.boxes)
    (moved : List.Forall₂ (Box.Moved origin) boxes others) :
    ∃ grown, others.foldlM Extent.extendOver .empty = .ok grown := by
  have covers : ∀ box ∈ boxes, blueprint.extent.Covers box := fun box mem =>
    covered.covers (inside box mem)
  cases moved with
  | nil => exact ⟨.empty, rfl⟩
  | @cons first image boxes others here later =>
    have all := List.Forall₂.cons here later
    obtain ⟨area, isExtent, around⟩ := covers first List.mem_cons_self
    have limit : ∀ axis, area.tilesAlong axis ≤ Extent.maxTiles :=
      (Extent.oversize?_eq_none_iff isExtent).mp small
    obtain ⟨_, _, finite, -⟩ := here.exists_at
    obtain ⟨least, greatest, whole, -⟩ := around.exists_at finite fun axis =>
      Nat.lt_of_le_of_lt (limit axis) (by decide)
    have within : ∀ other ∈ image :: others,
        other.Within (fun axis => least axis - origin.along axis * unitQuanta)
          fun axis => greatest axis - origin.along axis * unitQuanta := by
      intro other mem
      obtain ⟨box, inBoxes, shift⟩ := exists_of_mem_right all mem
      obtain ⟨lows, highs, at_, told⟩ := shift.exists_at
      obtain ⟨_, same, beyond⟩ := covers box inBoxes
      obtain rfl := Option.some.inj (isExtent.symm.trans same)
      refine ⟨fun axis => ⟨_, told.low axis, ?_⟩, fun axis => ⟨_, told.high axis, ?_⟩⟩
      · exact Int.sub_le_sub_right (beyond.le whole at_ axis).1 _
      · exact Int.sub_le_sub_right (beyond.le whole at_ axis).2 _
    refine Extent.exists_foldlM within (fun other inside axis => ?_)
      fun _ none => absurd none (Option.not_mem_none _)
    exact Nat.le_trans (inside.tilesAlong_le whole (fun axis => by omega) axis) (limit axis)

/-- The extents of boxes and of the same boxes told from another origin are told so themselves. -/
theorem area_moved {origin : GridPosition} {listed boxes others : List Box}
    (same : ∀ box, box ∈ listed ↔ box ∈ boxes)
    (moved : List.Forall₂ (Box.Moved origin) boxes others) :
    Option.Rel (Box.Moved origin) (Extent.ofBoxes listed).area (Extent.ofBoxes others).area := by
  have finite : ∀ box ∈ listed, ∃ lows highs, box.At lows highs := by
    intro box mem
    obtain ⟨_, -, shift⟩ := exists_of_mem_left moved ((same box).mp mem)
    obtain ⟨lows, highs, here, -⟩ := shift.exists_at
    exact ⟨lows, highs, here⟩
  have finiteMoved : ∀ box ∈ others, ∃ lows highs, box.At lows highs := by
    intro box mem
    obtain ⟨_, -, shift⟩ := exists_of_mem_right moved mem
    obtain ⟨_, _, -, there⟩ := shift.exists_at
    exact ⟨_, _, there⟩
  change Option.Rel _ (Box.union? listed) (Box.union? others)
  rcases Box.tight_union? finite with ⟨none, union⟩ | ⟨area, union, tight⟩
  · have empty : boxes = [] := List.eq_nil_iff_forall_not_mem.mpr fun box mem => by
      have := (same box).mpr mem
      rw [none] at this
      exact List.not_mem_nil this
    subst empty
    rw [union, List.forall₂_nil_left_iff.mp moved]
    exact .none
  · rcases Box.tight_union? finiteMoved with ⟨none, -⟩ | ⟨other, unionMoved, tightMoved⟩
    · obtain ⟨_, -, ⟨box, mem, -⟩, -⟩ := tight.low .x
      obtain ⟨_, inOthers, -⟩ := exists_of_mem_left moved ((same box).mp mem)
      rw [none] at inOthers
      exact absurd inOthers List.not_mem_nil
    · rw [union, unionMoved]
      exact .some ((tight.congr fun box => (same box).symm).moved tightMoved moved)

/-- The boxes of a blueprint in some order, and the boxes of its records in the same order. -/
theorem exists_boxes (coherent : blueprint.Coherent) (fits : blueprint.Fits)
    (returnable : blueprint.Returnable) (exact : blueprint.Exact) {documents : List Document}
    {records : List EntityRecord} (all : blueprint.AllReturn documents records) :
    ∃ boxes, (∀ box, box ∈ blueprint.boxes ↔ box ∈ boxes) ∧
      List.Forall₂ (Box.Moved blueprint.origin) boxes (records.map (·.box blueprint.table) ++
        (blueprint.tiles.tiles.map (·.relativeTo blueprint.origin)).map Tile.box) := by
  obtain ⟨boxes, listed, shifted⟩ := exists_middle (all.moved coherent exact)
  refine ⟨boxes ++ blueprint.tiles.tiles.map Tile.box, mem_boxes_iff coherent listed, ?_⟩
  refine List.rel_append (List.forall₂_map_right_iff.mpr shifted.flip) ?_
  rw [List.map_map, List.forall₂_map_left_iff, List.forall₂_map_right_iff, List.forall₂_same]
  intro tile mem
  obtain ⟨key, -, stored⟩ := List.mem_filterMap.mp mem
  exact Tile.moved (fits.tiles key tile stored).position (returnable.tiles key tile stored).2

/-! ### The whole -/

/-- A document has one reading. -/
theorem Records.unique {document : Document} {root root' : RootRecord}
    {entities entities' : List EntityRecord} {tiles tiles' : List Tile}
    {schedules schedules' : List (Schedule Nat)}
    (first : Records document root entities tiles schedules)
    (second : Records document root' entities' tiles' schedules') :
    root = root' ∧ entities = entities' ∧ tiles = tiles' ∧ schedules = schedules' := by
  obtain rfl := Except.ok.inj (first.rootRead.symm.trans second.rootRead)
  have sameEntities := mapM_eq_ok_iff.mpr first.entitiesRead
  have sameTiles := mapM_eq_ok_iff.mpr first.tilesRead
  have sameSchedules := mapM_eq_ok_iff.mpr first.schedulesRead
  rw [mapM_eq_ok_iff.mpr second.entitiesRead] at sameEntities
  rw [mapM_eq_ok_iff.mpr second.tilesRead] at sameTiles
  rw [mapM_eq_ok_iff.mpr second.schedulesRead] at sameSchedules
  exact ⟨rfl, (Except.ok.inj sameEntities).symm, (Except.ok.inj sameTiles).symm,
    (Except.ok.inj sameSchedules).symm⟩

/-- What was built from a record has the box of the record. -/
theorem Built.boxed {table : PrototypeTable} {list : ListId} {root : RootRecord}
    {entities : List EntityRecord} {tiles : List Tile} {schedules : List (Schedule Nat)}
    (built : Built table list root entities tiles schedules blueprint) :
    List.Forall₂ (fun key record => blueprint.entities.index.box? key = some (record.box table))
      blueprint.entities.leaves entities := by
  have same : blueprint.table = table := by rw [built.rest]; rfl
  refine built.stands.imp fun key record => ?_
  rintro ⟨connections, neighbours, stored, -, -⟩
  rw [built.coherent.entities.indexed, stored, same]
  rfl

/-- What is read from the document of a blueprint: entities without groups, written as the same
document. -/
structure Rewritten (document : Document) (again : Blueprint) : Prop where
  rewritten : again.toDocument = .ok document
  flat : again.entities.members = again.entities.leaves.map .entity

/-- What a blueprint that was written to a document is read as: the same entities and the same
extent, told from the grid, written as the same document. -/
structure Returned (blueprint : Blueprint) (document : Document) (again : Blueprint) : Prop
    extends Rewritten document again where
  entities : List.Forall₂ (fun key other => ∃ box moved,
    blueprint.entities.index.box? key = some box ∧ again.entities.index.box? other = some moved ∧
      box.Moved blueprint.origin moved) blueprint.entities.leaves again.entities.leaves
  extent : Option.Rel (Box.Moved blueprint.origin) (Extent.ofBoxes blueprint.boxes).area
    again.extent.area

/-- The records that a sound blueprint is written as are read back. -/
theorem exists_records (coherent : blueprint.Coherent) (fits : blueprint.Fits)
    (apart : blueprint.KeysApart) (sound : blueprint.Sound) (returnable : blueprint.Returnable)
    (regular : blueprint.Regular) {documents lines : List Document}
    (entities : blueprint.exportEntities blueprint.origin.toPoint = .ok documents)
    (schedules : blueprint.exportSchedules = .ok lines) :
    ∃ (records : List EntityRecord) (timetables : List (Schedule Nat)),
      Records (blueprint.documentOf documents lines) (blueprint.rootOf documents lines) records
        (blueprint.tiles.tiles.map (·.relativeTo blueprint.origin)) timetables ∧
      blueprint.AllReturn documents records ∧ timetables.map Schedule.write = lines ∧
      ∀ timetable ∈ timetables, ∀ number ∈ timetable.locomotives,
        IsNumber blueprint.entities.leaves.length number := by
  obtain ⟨records, all⟩ := exists_allReturn coherent fits returnable regular entities
  obtain ⟨timetables, written, reads, numbered⟩ := exists_schedules coherent fits returnable schedules
  refine ⟨records, timetables, ⟨?_, all.reads, ?_, reads⟩, all, written, numbered⟩
  · exact read_documentOf apart fits.toHeaderFits sound documents lines
  · change List.Forall₂ _ (blueprint.tiles.tiles.map (·.write blueprint.origin)) _
    rw [List.forall₂_map_left_iff, List.forall₂_map_right_iff, List.forall₂_same]
    intro tile mem
    obtain ⟨key, -, stored⟩ := List.mem_filterMap.mp mem
    exact Tile.read_write (fits.tiles key tile stored).extra (returnable.tiles key tile stored).1 _

/-- What is built from the records of a blueprint is written as the blueprint was. -/
theorem rewritten_of_built {documents lines : List Document} {records : List EntityRecord}
    {timetables : List (Schedule Nat)} {list : ListId} {again : Blueprint}
    (all : blueprint.AllReturn documents records)
    (written : timetables.map Schedule.write = lines)
    (built : Built blueprint.table list (blueprint.rootOf documents lines) records
      (blueprint.tiles.tiles.map (·.relativeTo blueprint.origin)) timetables again) :
    Rewritten (blueprint.documentOf documents lines) again := by
  refine ⟨?_, built.flat⟩
  rw [built.toDocument_eq, all.rewritten, written]
  exact congrArg Except.ok (documentOf_header documents lines built.rest built.laid)

/-- A blueprint without errors is written as a document. Whatever is read from it is written as the
same document, and where coordinates are exact, something is: a blueprint with the same objects. -/
theorem Reachable.returns (reachable : Reachable (fun _ operation => operation.Fits) blueprint)
    (returnable : blueprint.Returnable) (regular : blueprint.Regular)
    (valid : (blueprint.inspect .minimum).errors = []) (list : ListId) :
    ∃ document, blueprint.toDocument = .ok document ∧
      (∀ again warnings,
        ofDocument blueprint.table .minimum list document = .ok (again, warnings) →
          Rewritten document again) ∧
      (blueprint.Exact → ∃ again warnings,
        ofDocument blueprint.table .minimum list document = .ok (again, warnings) ∧
          blueprint.Returned document again) := by
  have coherent := reachable.coherent
  have fits := reachable.fits
  have sound := sound_of_inspect valid
  obtain ⟨_, written⟩ := sound.exists_toDocument coherent
  obtain ⟨documents, lines, entities, schedules, rfl⟩ := toDocument_eq_ok_iff.mp written
  obtain ⟨records, timetables, told, all, rewritten, locomotives⟩ :=
    exists_records coherent fits reachable.keysApart sound returnable regular entities schedules
  -- Whatever is read is built from these records.
  have built {again : Blueprint} {warnings : List Warning} (read : ofDocument blueprint.table
      .minimum list (blueprint.documentOf documents lines) = .ok (again, warnings)) :
      Built blueprint.table list (blueprint.rootOf documents lines) records
        (blueprint.tiles.tiles.map (·.relativeTo blueprint.origin)) timetables again := by
    obtain ⟨_, _, _, _, alsoTold, built⟩ := built_of_ofDocument read
    obtain ⟨rfl, rfl, rfl, rfl⟩ := told.unique alsoTold
    exact built
  refine ⟨_, written, fun again warnings read => rewritten_of_built all rewritten (built read),
    fun exact => ?_⟩
  obtain ⟨boxes, same, shifted⟩ := exists_boxes coherent fits returnable exact all
  have consistent : Consistent blueprint.table (blueprint.rootOf documents lines) records
      (blueprint.tiles.tiles.map (·.relativeTo blueprint.origin)) timetables := by
    refine ⟨?_, ?_, ?_, ?_⟩
    · rw [rootOf, Numbering.unlessEmpty_getD]
      exact sound.icons
    · rw [all.read]
      exact all.numbered
    · rw [all.read]
      exact locomotives
    · exact exists_extent reachable.covered sound.extent (fun box mem => (same box).mpr mem) shifted
  obtain ⟨again, warnings, read⟩ := @exists_ofDocument _ list _ _ _ _ _ told consistent
  refine ⟨again, warnings, read, rewritten_of_built all rewritten (built read), ?_, ?_⟩
  · refine (forall₂_through (all.moved coherent exact) (built read).boxed).imp fun key other => ?_
    rintro ⟨record, ⟨box, here, moved⟩, there⟩
    exact ⟨box, _, here, there, moved⟩
  · rw [Extent.eq_of_foldlM (built read).covered, ← Extent.ofBoxes_eq]
    exact area_moved same shifted

/-! ### A blueprint that returns -/

/-- Nothing is stored but these entities, none of them in a group. -/
def Stores (blueprint : Blueprint) (entities : List Entity) : Prop :=
  ∀ key placed, blueprint.entities.get? key = some placed →
    ∃ entity ∈ entities, placed = ⟨.top, .entity entity⟩

namespace Stores

variable {entities : List Entity} {entity : Entity}

theorem empty (table : PrototypeTable) (list : ListId) : (empty table list).Stores [] := by
  simp [Stores, Blueprint.empty, EntityList.empty, EntityList.get?]

theorem append (stores : blueprint.Stores entities) :
    (blueprint.append entity).Stores (entities ++ [entity]) :=
  forall_get?_append
    (fun key placed found => by
      obtain ⟨other, mem, same⟩ := stores key placed found
      exact ⟨other, List.mem_append_left _ mem, same⟩)
    ⟨entity, List.mem_append_right _ (List.mem_singleton_self entity), rfl⟩

theorem mem (stores : blueprint.Stores entities) {key : Key} {site : Site}
    (found : blueprint.entities.get? key = some ⟨site, .entity entity⟩) :
    entity ∈ entities ∧ site = .top := by
  obtain ⟨other, mem, same⟩ := stores key _ found
  obtain ⟨rfl, content⟩ := Placed.mk.inj same
  exact ⟨Content.entity.inj content ▸ mem, rfl⟩

theorem mem_of_entity? (stores : blueprint.Stores entities) {key : Key}
    (found : blueprint.entities.entity? key = some entity) : entity ∈ entities := by
  obtain ⟨⟨site, content⟩, here, isEntity⟩ := Option.bind_eq_some_iff.mp found
  cases content with
  | group id position => exact nomatch isEntity
  | entity other => exact Option.some.inj isEntity ▸ (stores.mem here).1

/-- A blueprint without tiles returns if all that is asked holds of these entities. -/
theorem returnable (stores : blueprint.Stores entities)
    (finite : ∀ entity ∈ entities, ∀ axis,
      ((.zero + entity.position - blueprint.origin.toPoint : Point).along axis).quanta?.isSome)
    (apart : ∀ entity ∈ entities, entity.KeysApart) (tiles : blueprint.tiles = .empty)
    (schedules : ∀ schedule ∈ blueprint.schedules, schedule.KeysApart)
    (count : blueprint.entities.leaves.length < 2 ^ 64) : blueprint.Returnable where
  finite key site entity found axis := by
    obtain ⟨mem, rfl⟩ := stores.mem found
    exact Option.isSome_iff_exists.mp (finite entity mem axis)
  entities key entity found := apart entity (stores.mem_of_entity? found)
  tiles key tile found := by
    simp [tiles, TileList.tile?, TileList.empty] at found
  schedules := schedules
  count := count

theorem exact (stores : blueprint.Stores entities) (each : ∀ entity ∈ entities,
    (entity.collisionBox blueprint.table).ExactAt (.zero + entity.position) blueprint.origin) :
    blueprint.Exact := by
  intro key site entity found
  obtain ⟨mem, rfl⟩ := stores.mem found
  exact each entity mem

end Stores

/-- A table that knows train stops. -/
def stopTable : PrototypeTable :=
  PrototypeTable.empty.putEntity
    { EntityPrototype.building "train-stop" .trainStop (.square 0.5) with circuitReach := some 9 }

/-- A train stop that is wired to the given ones. -/
def wiredStop (x : Binary64) (ends : List Association) : Entity :=
  { Entity.plain "train-stop" ⟨x, 3⟩ with
    connections := ends.foldl (fun wires far => wires.addCircuit .input .red ⟨far, none⟩) .empty }

/-- Two train stops, the second wired to the first, a grid that begins at a place of its own, and a
schedule that names the first. -/
def gridStops : Blueprint :=
  { ((empty stopTable ⟨0⟩).append (wiredStop 5 [])).append (wiredStop 9 [⟨⟨0⟩, ⟨0, 0⟩⟩]) with
    snappingGridPosition := some ⟨2, 1⟩
    schedules := [⟨[], [⟨⟨0⟩, ⟨0, 0⟩⟩], []⟩] }

theorem fits_wiredStop (x : Binary64) (ends : List Association) : (wiredStop x ends).Fits where
  connections := by
    have fits : ∀ wires : Connections, wires.Fits →
        (ends.foldl (fun wires far => wires.addCircuit .input .red ⟨far, none⟩) wires).Fits := by
      induction ends with
      | nil => exact fun _ fits => fits
      | cons far rest ih =>
        exact fun _ fits => ih _ (fits.addCircuit .input .red (by simp [WireEnd.Small]))
    exact fits .empty .empty
  items := by simp [wiredStop, Entity.plain]
  fields := .nil
  extra := .nil

theorem reachable_gridStops : Reachable (fun _ operation => operation.Fits) gridStops := by
  have initial : Initial (empty stopTable ⟨0⟩) := .empty stopTable ⟨0⟩
  have run : Run (fun _ operation => operation.Fits) (empty stopTable ⟨0⟩)
      (((empty stopTable ⟨0⟩).append (wiredStop 5 [])).append (wiredStop 9 [⟨⟨0⟩, ⟨0, 0⟩⟩])) :=
    (Run.start.append initial (List.forall_mem_singleton.mpr (fits_wiredStop 5 [])) (by decide)
      (by decide +kernel)).append initial (List.forall_mem_singleton.mpr (fits_wiredStop 9 _))
        (by decide) (by decide +kernel)
  replace run := run.step (.setGridPosition (some ⟨2, 1⟩)) fun position same => by
    obtain rfl := Option.some.inj same
    exact ⟨⟨by decide, by decide⟩, by decide, by decide⟩
  replace run := run.step (.addSchedule ⟨[], [⟨⟨0⟩, ⟨0, 0⟩⟩], []⟩) ⟨by simp, .nil⟩
  exact ⟨_, .empty stopTable ⟨0⟩, run⟩

theorem errors_inspect_of_checks
    (succeed : (blueprint.checks .minimum).all (·.isOk) = true) :
    (blueprint.inspect .minimum).errors = [] := by
  rw [inspect, if_neg (by decide), Report.errors_foldl_absorb_eq_nil_iff]
  exact ⟨rfl, fun outcome mem => exists_ok_of_isOk (List.all_eq_true.mp succeed outcome mem)⟩

theorem stores_gridStops :
    gridStops.Stores [wiredStop 5 [], wiredStop 9 [⟨⟨0⟩, ⟨0, 0⟩⟩]] :=
  (Stores.empty stopTable ⟨0⟩).append.append

theorem returnable_gridStops : gridStops.Returnable := by
  refine stores_gridStops.returnable (fun entity mem axis => ?_) ?_ rfl ?_ (by decide)
  · rcases List.mem_pair.mp mem with rfl | rfl <;> cases axis <;> decide +kernel
  · intro entity mem name _
    rcases List.mem_pair.mp mem with rfl | rfl <;> rfl
  · exact List.forall_mem_singleton.mpr ⟨by simp, fun _ _ => rfl⟩

theorem regular_gridStops : gridStops.Regular := by
  refine ⟨fun key entity found => ⟨?_, ?_⟩, fun key entity found name _ => ?_⟩ <;>
    rcases List.mem_pair.mp (stores_gridStops.mem_of_entity? found) with rfl | rfl
  · intro side color
    cases side <;> cases color <;> decide
  · intro side color
    cases side <;> cases color <;> decide
  · intro side
    cases side <;> decide
  · intro side
    cases side <;> decide
  · rfl
  · rfl

theorem exact_gridStops : gridStops.Exact := by
  refine stores_gridStops.exact fun entity mem => ?_
  refine ⟨fun axis => ?_, Box.exists_at_iff.mpr fun axis => ?_, fun _ axis => ?_⟩
  · rcases List.mem_pair.mp mem with rfl | rfl <;> cases axis <;> decide +kernel
  · rcases List.mem_pair.mp mem with rfl | rfl <;> cases axis <;> decide +kernel
  · rw [List.forall_mem_cons, List.forall_mem_singleton]
    rcases List.mem_pair.mp mem with rfl | rfl <;> cases axis <;> decide +kernel

theorem inspect_gridStops : (gridStops.inspect .minimum).errors = [] :=
  errors_inspect_of_checks (by decide +kernel)

theorem returns_gridStops :
    Reachable (fun _ operation => operation.Fits) gridStops ∧ gridStops.Returnable ∧
      gridStops.Regular ∧ gridStops.Exact ∧ (gridStops.inspect .minimum).errors = [] ∧
      ∃ document again warnings, gridStops.toDocument = .ok document ∧
        ofDocument gridStops.table .minimum ⟨1⟩ document = .ok (again, warnings) ∧
        gridStops.Returned document again := by
  obtain ⟨document, written, -, returns⟩ := Reachable.returns reachable_gridStops
    returnable_gridStops regular_gridStops inspect_gridStops ⟨1⟩
  obtain ⟨again, warnings, read, returned⟩ := returns exact_gridStops
  exact ⟨reachable_gridStops, returnable_gridStops, regular_gridStops, exact_gridStops,
    inspect_gridStops, document, again, warnings, written, read, returned⟩

/-! ### Blueprints that do not return -/

/-- What the entities in a document are written as once they were read. -/
def rewriteEntities (table : PrototypeTable) (document : Document) : Option (List Document) := do
  let root ← (RootRecord.read kind document).toOption
  let records ← (root.blueprint.entities.mapM EntityRecord.read).toOption
  pure (records.zipIdx.map fun (record, i) => record.rewrite table (i + 1))

theorem rewriteEntities_of_read {table : PrototypeTable} {mode : ValidationMode} {list : ListId}
    {document : Document} {again : Blueprint} {warnings : List Warning}
    (read : ofDocument table mode list document = .ok (again, warnings)) :
    ∃ other, again.toDocument = .ok other ∧
      rewriteEntities table document = some (other.itemsAt ["blueprint", "entities"]) := by
  have reachable : Reachable (fun _ _ => True) again := ⟨again, .read read, .start⟩
  obtain ⟨root, records, tiles, schedules, told, built⟩ := built_of_ofDocument read
  refine ⟨_, built.toDocument_eq, ?_⟩
  rw [itemsAt_entities reachable.keysApart, rewriteEntities, told.rootRead]
  simp only [Except.toOption, Option.bind_eq_bind, Option.bind_some]
  rw [mapM_eq_ok_iff.mpr told.entitiesRead]
  rfl

/-- A lamp that is wired to the same key in two lists. -/
def twiceWired : Entity :=
  { Entity.plain "lamp" ⟨4, 1⟩ with
    connections := (Connections.empty.addCircuit .input .red ⟨⟨⟨0⟩, ⟨0, 0⟩⟩, none⟩).addCircuit
      .input .red ⟨⟨⟨1⟩, ⟨0, 0⟩⟩, none⟩ }

/-- The lamp with both wires in one list. -/
def doublyWired : Entity := twiceWired.mapAssociations (·.rescope ⟨1⟩ ⟨0⟩)

/-- Two lamps, the second with the same wire to the first twice. -/
def doubledWire : Blueprint :=
  ((empty .empty ⟨0⟩).append (.plain "lamp" ⟨1, 1⟩)).append doublyWired

/-- A lamp with a direction among the fields of its kind. -/
def turnedLamp : Entity :=
  { Entity.plain "lamp" ⟨1, 1⟩ with fields := [("direction", .text "east")] }

def turned : Blueprint := (empty .empty ⟨0⟩).append turnedLamp

example : doublyWired.connections.circuit .input .red =
    [⟨⟨⟨0⟩, ⟨0, 0⟩⟩, none⟩, ⟨⟨⟨0⟩, ⟨0, 0⟩⟩, none⟩] := by decide

/-- How many red wires each of the written entities has. -/
def redWires (entities : List Document) : List Nat :=
  entities.map fun entity => (entity.itemsAt ["connections", "1", "red"]).length

theorem exactAt_lamp {x : Binary64} (isPlace : x = 1 ∨ x = 4) :
    Entity.unknownBox.ExactAt (.zero + ⟨x, 1⟩) .zero := by
  refine ⟨fun axis => ?_, Box.exists_at_iff.mpr fun axis => ?_, fun other => absurd rfl other⟩
  · rcases isPlace with same | same <;> rw [same] <;> cases axis <;> decide +kernel
  · rcases isPlace with same | same <;> rw [same] <;> cases axis <;> decide +kernel

theorem stores_doubledWire : doubledWire.Stores [.plain "lamp" ⟨1, 1⟩, doublyWired] :=
  (Stores.empty .empty ⟨0⟩).append.append

theorem stores_turned : turned.Stores [turnedLamp] := (Stores.empty .empty ⟨0⟩).append

theorem fits_doublyWired : doublyWired.Fits := by
  have small (far : Association) : WireEnd.Small ⟨far, none⟩ := by simp [WireEnd.Small]
  have wires : twiceWired.connections.Fits :=
    (Connections.Fits.empty.addCircuit .input .red (small ⟨⟨0⟩, ⟨0, 0⟩⟩)).addCircuit .input .red
      (small ⟨⟨1⟩, ⟨0, 0⟩⟩)
  have fits : twiceWired.Fits := ⟨wires, by simp [twiceWired, Entity.plain], .nil, .nil⟩
  exact fits.mapAssociations _

theorem reachable_doubledWire : Reachable (fun _ operation => operation.Fits) doubledWire := by
  have lamp : (Entity.plain "lamp" ⟨1, 1⟩).Fits := ⟨.empty, by simp [Entity.plain], .nil, .nil⟩
  have initial : Initial (empty .empty ⟨0⟩) := .empty .empty ⟨0⟩
  have run : Run (fun _ operation => operation.Fits) (empty .empty ⟨0⟩) doubledWire :=
    (Run.start.append initial (List.forall_mem_singleton.mpr lamp) (by decide)
      (by decide +kernel)).append initial (List.forall_mem_singleton.mpr fits_doublyWired)
        (by decide) (by decide +kernel)
  exact ⟨_, initial, run⟩

theorem reachable_turned : Reachable (fun _ operation => operation.Fits) turned := by
  have fits : turnedLamp.Fits :=
    ⟨.empty, by simp [turnedLamp, Entity.plain], List.pairwise_singleton _ _, .nil⟩
  have run : Run (fun _ operation => operation.Fits) (empty .empty ⟨0⟩) turned :=
    Run.start.append (.empty .empty ⟨0⟩) (List.forall_mem_singleton.mpr fits) (by decide)
      (by decide +kernel)
  exact ⟨_, .empty .empty ⟨0⟩, run⟩

/-- A blueprint whose wires list a far end twice is read with the far end listed once, so it is not
written as before. One with a reserved key among the fields of a kind may not be read at all. -/
theorem irregular_not_returned :
    (Reachable (fun _ operation => operation.Fits) doubledWire ∧ doubledWire.Returnable ∧
      doubledWire.Exact ∧ (doubledWire.inspect .minimum).errors = [] ∧
      ∃ document, doubledWire.toDocument = .ok document ∧ ∀ again warnings,
        ofDocument doubledWire.table .minimum ⟨1⟩ document = .ok (again, warnings) →
          again.toDocument ≠ .ok document) ∧
    (Reachable (fun _ operation => operation.Fits) turned ∧ turned.Returnable ∧ turned.Exact ∧
      (turned.inspect .minimum).errors = [] ∧
      ∃ document, turned.toDocument = .ok document ∧ ∀ again warnings,
        ofDocument turned.table .minimum ⟨1⟩ document ≠ .ok (again, warnings)) := by
  refine ⟨⟨reachable_doubledWire, ?_, ?_, errors_inspect_of_checks (by decide +kernel), ?_⟩,
    reachable_turned, ?_, ?_, errors_inspect_of_checks (by decide +kernel), ?_⟩
  · refine stores_doubledWire.returnable (fun entity mem axis => ?_) ?_ rfl ?_ (by decide)
    · rcases List.mem_pair.mp mem with rfl | rfl <;> cases axis <;> decide +kernel
    · intro entity mem name _
      rcases List.mem_pair.mp mem with rfl | rfl <;> rfl
    · exact List.forall_mem_nil _
  · refine stores_doubledWire.exact fun entity mem => ?_
    rcases List.mem_pair.mp mem with rfl | rfl
    · exact exactAt_lamp (.inl rfl)
    · exact exactAt_lamp (.inr rfl)
  · obtain ⟨document, written⟩ :=
      exists_ok_of_isOk (show doubledWire.toDocument.isOk = true by decide +kernel)
    refine ⟨document, written, fun again warnings read same => ?_⟩
    obtain ⟨other, also, entities⟩ := rewriteEntities_of_read read
    obtain rfl := Except.ok.inj (same.symm.trans also)
    have differ : doubledWire.toDocument.toOption.all (fun document =>
        (rewriteEntities .empty document).map redWires ≠
          some (redWires (document.itemsAt ["blueprint", "entities"]))) = true := by decide +kernel
    rw [written] at differ
    simp only [Except.toOption, Option.all_some, decide_eq_true_eq] at differ
    exact differ (congrArg (Option.map redWires) entities)
  · refine stores_turned.returnable (fun entity mem axis => ?_) ?_ rfl ?_ (by decide)
    · obtain rfl := List.mem_singleton.mp mem
      cases axis <;> decide +kernel
    · intro entity mem name _
      obtain rfl := List.mem_singleton.mp mem
      rfl
    · exact List.forall_mem_nil _
  · refine stores_turned.exact fun entity mem => ?_
    obtain rfl := List.mem_singleton.mp mem
    exact exactAt_lamp (.inl rfl)
  · obtain ⟨document, written⟩ :=
      exists_ok_of_isOk (show turned.toDocument.isOk = true by decide +kernel)
    refine ⟨document, written, fun again warnings read => ?_⟩
    obtain ⟨other, -, entities⟩ := rewriteEntities_of_read read
    have unread : turned.toDocument.toOption.all (fun document =>
        (rewriteEntities .empty document).isNone) = true := by decide +kernel
    rw [written] at unread
    simp only [Except.toOption, Option.all_some] at unread
    rw [show turned.table = .empty from rfl] at entities
    rw [entities] at unread
    contradiction

end FactoryBlueprint.Blueprint
