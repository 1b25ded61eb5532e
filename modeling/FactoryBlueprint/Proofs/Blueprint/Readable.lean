import FactoryBlueprint.Proofs.Blueprint.Rewriting
import FactoryBlueprint.Proofs.RoundTrip.Wires

/-! # Which documents can be read

Without regard to warnings, a document whose records can be read makes a blueprint as long as every
number in it is that of an entity and the extent keeps within the limit (`exists_ofDocument`).
-/

namespace FactoryBlueprint

/-- Every number that the record tells is that of one of so many entities. -/
structure EntityRecord.Numbered (record : EntityRecord) (count : Nat) : Prop where
  connections : (record.connections.getD .empty).Numbered count
  neighbours : ∀ number ∈ record.neighbourNumbers, IsNumber count number

/-- The box that the entity of a record gets. -/
def EntityRecord.box (record : EntityRecord) (table : PrototypeTable) : Box :=
  (record.entity table).worldBox table .zero

theorem ValidationMode.accept_minimum (warnings : List Warning) :
    ValidationMode.minimum.accept warnings = .ok [] := rfl

namespace Blueprint

variable {table : PrototypeTable} {list : ListId} {numbering : Numbering}

/-! ### Entities -/

theorem exists_importEntities {documents : List (Document × Nat)} {records : List EntityRecord}
    (reads : List.Forall₂ (fun document record => EntityRecord.read document.1 = .ok record)
      documents records) {before : Blueprint} (vacant : before.entities.Vacant) {grown : Extent}
    (extended : (records.map (·.box before.table)).foldlM Extent.extendOver before.extent =
      .ok grown) :
    ∃ after pending warnings,
      importEntities .minimum before documents = .ok (after, pending, warnings) ∧
        pending.map (·.record) = records ∧ after.extent = grown := by
  induction reads generalizing before with
  | nil => exact ⟨before, [], [], rfl, rfl, Except.ok.inj extended⟩
  | @cons document record documents records here _ ih =>
    rw [List.map_cons, List.foldlM_cons, bind_eq_ok_iff] at extended
    obtain ⟨wider, first, rest⟩ := extended
    let path := s!"{kind}.entities[{document.2}]"
    let one : Pending := ⟨before.entities.arena.nextKey, record, path⟩
    let middle := { before with
      entities := before.entities.append before.table (record.entity before.table)
      extent := wider }
    have imported : importEntity .minimum before path document.1 = .ok (middle, one, []) :=
      (importEntity_eq_ok_iff vacant).mpr ⟨record, wider, [], [], here, ValidationMode.accept_minimum _,
        ValidationMode.accept_minimum _, first, rfl, rfl, rfl⟩
    obtain ⟨after, pending, warnings, later, same, extent⟩ :=
      @ih middle (EntityList.vacant_append vacant _ _) rest
    refine ⟨after, one :: pending, [] ++ warnings, ?_, congrArg (record :: ·) same, extent⟩
    simp only [importEntities, bind_eq_ok_iff]
    exact ⟨_, imported, _, later, rfl⟩

/-! ### Wires -/

theorem exists_connects {one : Pending} (numbered : one.record.Numbered numbering.keys.length) :
    ∃ connections neighbours, Connects numbering one connections neighbours := by
  obtain ⟨connections, resolved⟩ :=
    Numbering.exists_resolveConnections (one.path ++ ".connections") numbered.connections
  obtain ⟨neighbours, named⟩ :=
    Numbering.exists_resolveAll (one.path ++ ".neighbours") numbered.neighbours
  exact ⟨connections, neighbours, resolved, named⟩

theorem exists_connectEntity {before : Blueprint} {one : Pending} {site : Site} {entity : Entity}
    (stored : before.entities.get? one.key = some ⟨site, .entity entity⟩)
    (numbered : one.record.Numbered numbering.keys.length) :
    ∃ after, connectEntity numbering before one = .ok after := by
  obtain ⟨connections, neighbours, resolved, named⟩ := exists_connects numbered
  unfold connectEntity
  split
  · exact ⟨before, rfl⟩
  · simp only [bind_eq_ok_iff, resolved, named, Except.ok.injEq, exists_eq_left']
    rw [EntityList.modify?_eq_some_iff.mpr ⟨site, entity, stored, rfl⟩]
    exact ⟨_, rfl⟩

theorem exists_connectAll (numbering : Numbering) {pending : List Pending}
    (nodup : (pending.map (·.key)).Nodup) (before : Blueprint) (stored : ∀ one ∈ pending,
      before.entities.get? one.key = some ⟨.top, .entity (one.record.entity before.table)⟩)
    (numbered : ∀ one ∈ pending, one.record.Numbered numbering.keys.length) :
    ∃ after, pending.foldlM (connectEntity numbering) before = .ok after := by
  induction pending generalizing before with
  | nil => exact ⟨before, rfl⟩
  | cons first others ih =>
    obtain ⟨fresh, nodup⟩ := List.nodup_cons.mp nodup
    obtain ⟨here, later⟩ := List.forall_mem_cons.mp stored
    obtain ⟨told, rest⟩ := List.forall_mem_cons.mp numbered
    obtain ⟨middle, connected⟩ := exists_connectEntity here told
    obtain ⟨same, -, -, kept, -⟩ := connectEntity_stores here rfl rfl connected
    have table : middle.table = before.table := by rw [same]
    obtain ⟨after, remaining⟩ := ih nodup middle (fun other mem => by
      rw [kept other.key fun equal => fresh (List.mem_map.mpr ⟨other, mem, equal⟩), table]
      exact later other mem) rest
    refine ⟨after, ?_⟩
    rw [List.foldlM_cons, connected]
    exact remaining

/-! ### Tiles and schedules -/

theorem exists_importTiles {documents : List (Document × Nat)} {tiles : List Tile}
    (reads : List.Forall₂ (fun document tile => Tile.read document.1 = .ok tile) documents tiles)
    (before : Blueprint) {grown : Extent}
    (extended : (tiles.map Tile.box).foldlM Extent.extendOver before.extent = .ok grown) :
    ∃ after warnings, importTiles .minimum before documents = .ok (after, warnings) := by
  induction reads generalizing before with
  | nil => exact ⟨before, [], rfl⟩
  | @cons document tile documents tiles here _ ih =>
    rw [List.map_cons, List.foldlM_cons, bind_eq_ok_iff] at extended
    obtain ⟨wider, first, rest⟩ := extended
    have inserted := TileList.insert_eq_ok_iff.mpr
      ⟨⟨[], ValidationMode.accept_minimum (before.tiles.collisions before.table tile), rfl⟩, first,
        rfl⟩
    obtain ⟨after, warnings, later⟩ := ih
      { before with tiles := before.tiles.append tile, extent := wider } rest
    refine ⟨after, [] ++ [] ++ warnings, ?_⟩
    simp only [importTiles, bind_eq_ok_iff, Reader.locate_eq_ok_iff]
    exact ⟨tile, here, [], rfl, _, inserted, _, later, rfl⟩

theorem exists_importSchedule (table : PrototypeTable) (numbering : Numbering) (path : String)
    {document : Document} {record : Schedule Nat}
    (reads : Schedule.read document = .ok record)
    (numbered : ∀ number ∈ record.locomotives, IsNumber numbering.keys.length number) :
    ∃ outcome, importSchedule .minimum table numbering path document = .ok outcome := by
  obtain ⟨locomotives, resolved⟩ :=
    Numbering.exists_resolveAll (path ++ ".locomotives") numbered
  exact ⟨(⟨record.stops, locomotives, record.extra⟩, []), importSchedule_eq_ok_iff.mpr
    ⟨record, reads, rfl, rfl, resolved, ValidationMode.accept_minimum _⟩⟩

/-! ### The whole -/

/-- What the records of a document must be like for a blueprint to be made of them. -/
structure Consistent (table : PrototypeTable) (root : RootRecord) (entities : List EntityRecord)
    (tiles : List Tile) (schedules : List (Schedule Nat)) : Prop where
  icons : ∃ warnings,
    Icon.check (root.blueprint.icons.getD []) .minimum table = .ok warnings
  numbered : ∀ record ∈ entities, record.Numbered entities.length
  locomotives : ∀ schedule ∈ schedules, ∀ number ∈ schedule.locomotives,
    IsNumber entities.length number
  extent : ∃ extent, (entities.map (·.box table) ++ tiles.map Tile.box).foldlM Extent.extendOver
    .empty = .ok extent

/-- A document with consistent records can be read. -/
theorem exists_ofDocument {document : Document} {root : RootRecord}
    {entities : List EntityRecord} {tiles : List Tile} {schedules : List (Schedule Nat)}
    (records : Records document root entities tiles schedules)
    (consistent : Consistent table root entities tiles schedules) :
    ∃ blueprint warnings,
      ofDocument table .minimum list document = .ok (blueprint, warnings) := by
  obtain ⟨iconWarnings, icons⟩ := consistent.icons
  obtain ⟨extent, extended⟩ := consistent.extent
  rw [List.foldlM_append, bind_eq_ok_iff] at extended
  obtain ⟨between, first, second⟩ := extended
  have entitiesRead : List.Forall₂ (fun (document : Document × Nat) record =>
      EntityRecord.read document.1 = .ok record) root.blueprint.entities.zipIdx entities := by
    have paired := records.entitiesRead
    rw [← List.zipIdx_map_fst 0 root.blueprint.entities] at paired
    exact List.forall₂_map_left_iff.mp paired
  have tilesRead : List.Forall₂ (fun (document : Document × Nat) tile =>
      Tile.read document.1 = .ok tile) root.blueprint.tiles.zipIdx tiles := by
    have paired := records.tilesRead
    rw [← List.zipIdx_map_fst 0 root.blueprint.tiles] at paired
    exact List.forall₂_map_left_iff.mp paired
  obtain ⟨placed, pending, warnings, imported, told, placedExtent⟩ :=
    exists_importEntities entitiesRead (vacant_header table list root) first
  obtain ⟨appended, -⟩ := appended_of_importEntities (vacant_header table list root) imported
  obtain ⟨-, nodup⟩ := leaves_of_importEntities records.rootRead imported
  have placedTable : placed.table = table := by rw [appended.rest]; rfl
  have count : (pending.map (·.key)).length = entities.length := by
    rw [← told, List.length_map, List.length_map]
  obtain ⟨connected, wires⟩ := exists_connectAll ⟨list, pending.map (·.key)⟩ nodup placed
     (by rw [placedTable]; exact appended.stored) fun one mem => by
      rw [count]
      exact consistent.numbered one.record (told ▸ List.mem_map_of_mem mem)
  have wired := connected_of_foldlM nodup (by rw [placedTable]; exact appended.stored) wires
  have wiredExtent : connected.extent = between := by
    rw [wired.rest]
    exact placedExtent
  obtain ⟨tiled, tileWarnings, laid⟩ := exists_importTiles tilesRead connected (by
    rw [wiredExtent]
    exact second)
  have listed : ∃ outcomes, root.blueprint.schedules.zipIdx.mapM (fun entry =>
      importSchedule .minimum table (Numbering.mk list (pending.map Pending.key))
        s!"{kind}.schedules[{entry.2}]" entry.1) = .ok outcomes := by
    refine zipIdx_mapM_ok_iff.mpr fun i document inDocuments => ?_
    obtain ⟨schedule, mem, reads⟩ :=
      exists_of_mem_left records.schedulesRead (List.mem_of_getElem? inDocuments)
    refine exists_importSchedule table _ s!"{kind}.schedules[{i}]" reads fun number inSchedule => ?_
    rw [count]
    exact consistent.locomotives schedule mem number inSchedule
  obtain ⟨scheduled, listed⟩ := listed
  simp only [ofDocument, bind_eq_ok_iff]
  exact ⟨_, _, root, records.rootRead, iconWarnings, icons, [], rfl, _, imported, connected, wires,
    _, laid, scheduled, listed, rfl⟩

end Blueprint
end FactoryBlueprint
