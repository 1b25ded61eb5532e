import FactoryBlueprint.Proofs.Blueprint.Import
import FactoryBlueprint.Proofs.Blueprint.References

/-! # Writing what was read

A blueprint that was read can be written, and its document is told by the records that it was read
from (`Built.toDocument`).
-/

namespace FactoryBlueprint

/-- An entity as it is written after it was read. -/
def EntityRecord.rewrite (record : EntityRecord) (table : PrototypeTable) (number : Nat) :
    Document :=
  (record.entity table).write number (.zero + record.position - GridPosition.zero.toPoint)
    (record.connections.getD .empty).distinct record.neighbourNumbers

namespace Blueprint

/-- The records that a document holds, in order. -/
structure Records (document : Document) (root : RootRecord) (entities : List EntityRecord)
    (tiles : List Tile) (schedules : List (Schedule Nat)) : Prop where
  rootRead : RootRecord.read kind document = .ok root
  entitiesRead : List.Forall₂ (fun document record => EntityRecord.read document = .ok record)
    root.blueprint.entities entities
  tilesRead : List.Forall₂ (fun document tile => Tile.read document = .ok tile)
    root.blueprint.tiles tiles
  schedulesRead : List.Forall₂ (fun document schedule => Schedule.read document = .ok schedule)
    root.blueprint.schedules schedules

/-- What stands under a key: the entity of a record, whose references are written as they were
read. -/
def StandsFor (blueprint : Blueprint) (table : PrototypeTable) (key : Key) (record : EntityRecord) :
    Prop :=
  ∃ connections neighbours,
    blueprint.entities.get? key = some ⟨.top, .entity { record.entity table with
      connections := connections, neighbours := neighbours }⟩ ∧
    blueprint.numbering.connectionsRecord? connections =
      some (record.connections.getD .empty).distinct ∧
    neighbours.mapM blueprint.numbering.number? = some record.neighbourNumbers

/-- A schedule whose locomotives are written as they were read. -/
structure ScheduleFor (blueprint : Blueprint) (schedule : Schedule Association)
    (record : Schedule Nat) : Prop where
  stops : schedule.stops = record.stops
  extra : schedule.extra = record.extra
  locomotives : schedule.locomotives.mapM blueprint.numbering.number? = some record.locomotives

/-- The blueprint was built from the records and nothing else. -/
structure Built (table : PrototypeTable) (list : ListId) (root : RootRecord)
    (entities : List EntityRecord) (tiles : List Tile) (schedules : List (Schedule Nat))
    (blueprint : Blueprint) : Prop where
  rest : blueprint = { header table list root with
    entities := blueprint.entities
    tiles := blueprint.tiles
    schedules := blueprint.schedules
    extent := blueprint.extent }
  coherent : blueprint.Coherent
  flat : blueprint.entities.members = blueprint.entities.leaves.map .entity
  stands : List.Forall₂ (blueprint.StandsFor table) blueprint.entities.leaves entities
  laid : blueprint.tiles.tiles = tiles
  scheduled : List.Forall₂ blueprint.ScheduleFor blueprint.schedules schedules
  covered : (entities.map (fun record => (record.entity table).worldBox table .zero) ++
    tiles.map Tile.box).foldlM Extent.extendOver .empty = .ok blueprint.extent

/-- The keys of the entities that were read are the leaves of the list. -/
theorem leaves_of_importEntities {table : PrototypeTable} {list : ListId} {root : RootRecord}
    {mode : ValidationMode} {documents : List (Document × Nat)} {placed : Blueprint}
    {pending : List Pending} {warnings : List Warning} {document : Document}
    (rootRead : RootRecord.read kind document = .ok root)
    (read : importEntities mode (header table list root) documents =
      .ok (placed, pending, warnings)) :
    placed.entities.leaves = pending.map (·.key) ∧ (pending.map (·.key)).Nodup := by
  have leaves := (appended_of_importEntities (vacant_header table list root) read).1.leaves
  have none : (header table list root).entities.leaves = [] := rfl
  rw [none, List.nil_append] at leaves
  have coherent := (changes_importEntities read).coherent (blank_header rootRead).coherent
  exact ⟨leaves, leaves ▸ coherent.entities.nodup_leaves⟩

/-- What was connected under a key is written as it was read. -/
theorem standsFor_of_connects {blueprint : Blueprint} {table : PrototypeTable} {one : Pending}
    {connections : Connections} {neighbours : List Association}
    (nodup : blueprint.numbering.keys.Nodup)
    (connects : Connects blueprint.numbering one connections neighbours)
    (stored : blueprint.entities.get? one.key = some ⟨.top, .entity { one.record.entity table with
      connections := connections, neighbours := neighbours }⟩) :
    blueprint.StandsFor table one.key one.record :=
  ⟨connections, neighbours, stored,
    Numbering.connectionsRecord?_of_resolve nodup connects.connections,
    Numbering.mapM_number?_of_resolveAll nodup connects.neighbours⟩

/-- Schedules are read one by one. -/
theorem records_of_importSchedules {mode : ValidationMode} {table : PrototypeTable}
    {numbering : Numbering} (path : Nat → String) {documents : List Document}
    {schedules : List (Schedule Association × List Warning)}
    (read : documents.zipIdx.mapM (fun one =>
      importSchedule mode table numbering (path one.2) one.1) = .ok schedules) :
    ∃ records : List (Schedule Nat),
      List.Forall₂ (fun document record => Schedule.read document = .ok record) documents records ∧
      List.Forall₂ (fun (schedule : Schedule Association) record =>
        schedule.stops = record.stops ∧ schedule.extra = record.extra ∧ ∃ path,
          numbering.resolveAll path record.locomotives = .ok schedule.locomotives)
        (schedules.map (·.1)) records := by
  have paired := (forall₂_of_zipIdx_mapM read).imp fun document result => by
    rintro ⟨i, here⟩
    obtain ⟨record, reads, stops, extra, resolved, -⟩ := importSchedule_eq_ok_iff.mp here
    exact (⟨record, reads, stops, extra, _, resolved⟩ : ∃ record : Schedule Nat,
      Schedule.read document = .ok record ∧ result.1.stops = record.stops ∧
        result.1.extra = record.extra ∧ ∃ path,
          numbering.resolveAll path record.locomotives = .ok result.1.locomotives)
  obtain ⟨records, reads, built⟩ := exists_middle paired
  exact ⟨records, reads, List.forall₂_map_left_iff.mpr built⟩

/-- A document is read into a list of the given id. -/
theorem id_of_ofDocument {table : PrototypeTable} {mode : ValidationMode} {list : ListId}
    {document : Document} {blueprint : Blueprint} {warnings : List Warning}
    (read : ofDocument table mode list document = .ok (blueprint, warnings)) :
    blueprint.entities.id = list := by
  simp only [ofDocument, bind_eq_ok_iff] at read
  obtain ⟨root, rootRead, _, -, _, -, ⟨placed, pending, _⟩, entitiesRead, connected, wires,
    ⟨tiled, _⟩, tilesRead, _, -, result⟩ := read
  obtain ⟨rfl, -⟩ := Prod.mk.inj (Except.ok.inj result)
  obtain ⟨appended, -⟩ := appended_of_importEntities (vacant_header table list root) entitiesRead
  obtain ⟨-, nodup⟩ := leaves_of_importEntities rootRead entitiesRead
  have table : placed.table = table := by rw [appended.rest]; rfl
  have wired := connected_of_foldlM nodup (by rw [table]; exact appended.stored) wires
  have empty : connected.tiles = .empty := by rw [wired.rest, appended.rest]; rfl
  obtain ⟨rest, -⟩ := importTiles_appends (empty ▸ .empty) tilesRead
  have entities : tiled.entities = connected.entities := by rw [rest]
  rw [entities, wired.id, appended.id]
  rfl

theorem built_of_ofDocument {table : PrototypeTable} {mode : ValidationMode} {list : ListId}
    {document : Document} {blueprint : Blueprint} {warnings : List Warning}
    (read : ofDocument table mode list document = .ok (blueprint, warnings)) :
    ∃ root entities tiles schedules, Records document root entities tiles schedules ∧
      Built table list root entities tiles schedules blueprint := by
  have reachable : Reachable (fun _ _ => True) blueprint := ⟨blueprint, .read read, .start⟩
  have coherent := reachable.coherent
  simp only [ofDocument, bind_eq_ok_iff] at read
  obtain ⟨root, rootRead, _, -, _, -, ⟨placed, pending, _⟩, entitiesRead, connected, wires,
    ⟨tiled, _⟩, tilesRead, schedules, schedulesRead, result⟩ := read
  obtain ⟨rfl, -⟩ := Prod.mk.inj (Except.ok.inj result)
  obtain ⟨appended, records⟩ := appended_of_importEntities (vacant_header table list root) entitiesRead
  obtain ⟨leaves, nodup⟩ := leaves_of_importEntities rootRead entitiesRead
  have placedTable : placed.table = table := by rw [appended.rest]; rfl
  have placedTiles : placed.tiles = .empty := by rw [appended.rest]; rfl
  have wired := connected_of_foldlM nodup (by rw [placedTable]; exact appended.stored) wires
  have wiredTiles : connected.tiles = .empty := by rw [wired.rest]; exact placedTiles
  obtain ⟨tileRest, tiles, tileRecords, laid, tilesCover⟩ :=
    importTiles_appends (wiredTiles ▸ .empty) tilesRead
  have entities : tiled.entities = connected.entities := by rw [tileRest]
  have keys : tiled.entities.leaves = pending.map (·.key) := by
    rw [entities, EntityList.leaves, wired.members]
    exact leaves
  have numbering : (⟨list, pending.map (·.key)⟩ : Numbering) =
      ⟨tiled.entities.id, tiled.entities.leaves⟩ := by
    rw [keys, entities, wired.id, appended.id]
    rfl
  obtain ⟨scheduleRecords, scheduleReads, scheduled⟩ :=
    records_of_importSchedules (fun i => s!"{kind}.schedules[{i}]") schedulesRead
  have leavesNodup := coherent.entities.nodup_leaves
  refine ⟨root, pending.map (·.record), tiles, scheduleRecords,
    ⟨rootRead, ?_, ?_, scheduleReads⟩, ⟨?_, coherent, ?_, ?_, ?_, ?_, ?_⟩⟩
  · rw [← List.zipIdx_map_fst 0 root.blueprint.entities]
    exact List.forall₂_map_left_iff.mpr (List.forall₂_map_right_iff.mpr records)
  · rw [← List.zipIdx_map_fst 0 root.blueprint.tiles]
    exact List.forall₂_map_left_iff.mpr tileRecords
  · rw [tileRest, wired.rest, appended.rest]
  · change tiled.entities.members = tiled.entities.leaves.map .entity
    rw [keys, entities, wired.members, appended.members, List.map_map]
    rfl
  · change List.Forall₂ _ tiled.entities.leaves _
    rw [keys, List.forall₂_map_left_iff, List.forall₂_map_right_iff, List.forall₂_same]
    intro one mem
    obtain ⟨connections, neighbours, connects, stored⟩ := wired.stored one mem
    rw [placedTable, ← entities] at stored
    rw [numbering] at connects
    exact standsFor_of_connects leavesNodup connects stored
  · rw [laid, wiredTiles]
    rfl
  · rw [numbering] at scheduled
    refine scheduled.imp fun schedule record => ?_
    rintro ⟨stops, extra, path, resolved⟩
    exact ⟨stops, extra, Numbering.mapM_number?_of_resolveAll leavesNodup resolved⟩
  · have wiredExtent : connected.extent = placed.extent := by rw [wired.rest]
    have covered := appended.extent
    rw [List.foldlM_append, List.map_map, bind_eq_ok_iff]
    exact ⟨placed.extent, covered, wiredExtent ▸ tilesCover⟩

namespace Built

variable {table : PrototypeTable} {list : ListId} {root : RootRecord}
  {entities : List EntityRecord} {tiles : List Tile} {schedules : List (Schedule Nat)}
  {blueprint : Blueprint}

theorem origin_eq (built : Built table list root entities tiles schedules blueprint) :
    blueprint.origin = .zero := by
  rw [origin, built.rest]
  rfl

/-- The entities are written as their records tell. -/
theorem exportEntities_eq (built : Built table list root entities tiles schedules blueprint) :
    blueprint.exportEntities blueprint.origin.toPoint =
      .ok (entities.zipIdx.map fun (record, i) => record.rewrite table (i + 1)) := by
  rw [exportEntities, zipIdx_mapM_eq_ok_iff, length_placedEntities built.coherent, List.length_map,
    List.length_zipIdx]
  refine ⟨built.stands.length_eq, ?_⟩
  rintro i ⟨world, entity⟩ written here there
  obtain ⟨key, place, stored, position⟩ := (getElem?_placedEntities built.coherent).mp here
  rw [List.getElem?_map, List.getElem?_zipIdx, Nat.zero_add, Option.map_map] at there
  obtain ⟨record, inRecords, rfl⟩ := Option.map_eq_some_iff.mp there
  obtain ⟨connections, neighbours, found, connected, named⟩ :=
    (forall₂_iff_getElem?.mp built.stands).2 i key record place inRecords
  simp only [EntityList.entity?, EntityList.worldPosition?, found, Option.bind_some,
    Option.map_some, Placed.entity?, Option.some.injEq] at stored position
  subst stored position
  rw [built.origin_eq]
  exact exportEntity_eq_ok_iff.mpr ⟨_, _, connected, named, rfl⟩

theorem exportSchedules_eq (built : Built table list root entities tiles schedules blueprint) :
    blueprint.exportSchedules = .ok (schedules.map Schedule.write) := by
  rw [exportSchedules, zipIdx_mapM_eq_ok_iff, List.length_map]
  refine ⟨built.scheduled.length_eq, fun i schedule written here there => ?_⟩
  rw [List.getElem?_map] at there
  obtain ⟨record, inRecords, rfl⟩ := Option.map_eq_some_iff.mp there
  have same := (forall₂_iff_getElem?.mp built.scheduled).2 i schedule record here inRecords
  refine exportSchedule_eq_ok_iff.mpr ⟨record.locomotives, ?_, ?_⟩
  · exact option_mapM_eq_some_iff.mp same.locomotives
  · rw [same.stops, same.extra]

/-- A blueprint that was read can be written. -/
theorem toDocument_eq (built : Built table list root entities tiles schedules blueprint) :
    blueprint.toDocument = .ok (blueprint.documentOf
      (entities.zipIdx.map fun (record, i) => record.rewrite table (i + 1))
      (schedules.map Schedule.write)) :=
  toDocument_eq_ok_iff.mpr ⟨_, _, built.exportEntities_eq, built.exportSchedules_eq, rfl⟩

end Built
end Blueprint
end FactoryBlueprint
