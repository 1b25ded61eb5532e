import FactoryBlueprint.Blueprint.Import
import FactoryBlueprint.Proofs.Connections.Resolving
import FactoryBlueprint.Proofs.Document.Reader
import FactoryBlueprint.Proofs.EntityList.Append
import FactoryBlueprint.Proofs.TileList.Coherence

/-! # What reading builds

Every record of a document becomes an object of the blueprint, in the same order and with nothing
else changed: entities are appended, then wired, then tiles and schedules follow.
-/

namespace FactoryBlueprint.Blueprint

/-! ### Entities -/

/-- The entities of pending records were appended, each under its key. -/
structure Appended (before : Blueprint) (pending : List Pending) (after : Blueprint) : Prop where
  rest : after = { before with entities := after.entities, extent := after.extent }
  id : after.entities.id = before.entities.id
  members : after.entities.members = before.entities.members ++ pending.map (.entity ·.key)
  leaves : after.entities.leaves = before.entities.leaves ++ pending.map (·.key)
  stored : ∀ one ∈ pending,
    after.entities.get? one.key = some ⟨.top, .entity (one.record.entity before.table)⟩
  kept : ∀ key placed, before.entities.get? key = some placed →
    after.entities.get? key = some placed
  extent : (pending.map fun one => (one.record.entity before.table).worldBox before.table .zero).foldlM
    Extent.extendOver before.extent = .ok after.extent

namespace Appended

variable {before middle after : Blueprint} {first : Pending} {rest : List Pending}

theorem nil (blueprint : Blueprint) : Appended blueprint [] blueprint where
  rest := rfl
  id := rfl
  members := by simp
  leaves := by simp
  stored := by simp
  kept _ _ found := found
  extent := rfl

theorem cons (entity : Entity) (grown : Extent) (isNext : first.key = before.entities.arena.nextKey)
    (isRecord : first.record.entity before.table = entity)
    (extended : before.extent.extendOver (entity.worldBox before.table .zero) = .ok grown)
    (later : Appended { before with
      entities := before.entities.append before.table entity, extent := grown } rest after) :
    Appended before (first :: rest) after where
  rest := later.rest
  id := later.id
  members := by
    rw [later.members]
    simp [EntityList.append, isNext]
  leaves := by
    rw [later.leaves]
    simp [EntityList.leaves_append, isNext]
  stored := by
    intro one mem
    rcases List.mem_cons.mp mem with rfl | mem
    · refine later.kept _ _ ?_
      rw [EntityList.get?_append, if_pos isNext, isRecord]
    · exact later.stored one mem
  kept := by
    intro key placed found
    have other : key ≠ before.entities.arena.nextKey := by
      rintro rfl
      rw [EntityList.get?, before.entities.arena.get?_nextKey] at found
      contradiction
    refine later.kept key placed ?_
    rw [EntityList.get?_append, if_neg other]
    exact found
  extent := by
    rw [List.map_cons, List.foldlM_cons, isRecord, extended]
    exact later.extent

end Appended

/-- The collisions that are warned of when an entity is appended. -/
def collisions (blueprint : Blueprint) (entity : Entity) : List Warning :=
  (blueprint.entities.index.query (entity.worldBox blueprint.table .zero)).filterMap
    (blueprint.entities.collision? blueprint.table entity (.zero + entity.position))

/-- A record is read as an entity that is appended, if warnings and extent allow it. -/
theorem importEntity_eq_ok_iff {mode : ValidationMode} {before after : Blueprint}
    (vacant : before.entities.Vacant) {path : String} {document : Document} {pending : Pending}
    {warnings : List Warning} :
    importEntity mode before path document = .ok (after, pending, warnings) ↔
      ∃ record grown own others, EntityRecord.read document = .ok record ∧
      mode.accept ((record.entity before.table).warnings before.table) = .ok own ∧
      mode.accept (before.collisions (record.entity before.table)) = .ok others ∧
      before.extent.extendOver ((record.entity before.table).worldBox before.table .zero) =
        .ok grown ∧
      pending = ⟨before.entities.arena.nextKey, record, path⟩ ∧ warnings = own ++ others ∧
      after = { before with
        entities := before.entities.append before.table (record.entity before.table)
        extent := grown } := by
  simp only [importEntity, bind_eq_ok_iff, Reader.locate_eq_ok_iff, pure, Except.pure,
    Except.ok.injEq, Prod.mk.injEq]
  constructor
  · rintro ⟨record, reads, own, accepted, ⟨placement, grown⟩, inserted, rfl, rfl, rfl⟩
    have outcome := (EntityList.insert_entity_eq_ok_iff vacant).mp (Prod.ext rfl inserted)
    obtain ⟨⟨others, allowed, rfl⟩, extended, appended⟩ := outcome
    have same := congrArg
      (fun entities => { before with entities := entities, extent := grown }) appended
    exact ⟨record, grown, own, others, reads, accepted, allowed, extended, rfl, rfl, same⟩
  · rintro ⟨record, grown, own, others, reads, accepted, allowed, extended, rfl, rfl, rfl⟩
    have inserted := (EntityList.insert_entity_eq_ok_iff vacant).mpr
      ⟨⟨others, allowed, rfl⟩, extended, rfl⟩
    have same := congrArg (fun entities => { before with entities := entities, extent := grown })
      (congrArg Prod.fst inserted)
    exact ⟨record, reads, own, accepted, (_, grown), congrArg Prod.snd inserted, same, rfl, rfl⟩

/-- Before anything is read no key has a box. -/
theorem vacant_header (table : PrototypeTable) (list : ListId) (root : RootRecord) :
    (header table list root).entities.Vacant :=
  (EntityList.Coherent.empty table list).vacant

/-- Every record that is read becomes an entity at the end of the list. -/
theorem appended_of_importEntities {mode : ValidationMode} {documents : List (Document × Nat)}
    {before after : Blueprint} {pending : List Pending} {warnings : List Warning}
    (vacant : before.entities.Vacant)
    (read : importEntities mode before documents = .ok (after, pending, warnings)) :
    Appended before pending after ∧ List.Forall₂ (fun document one =>
      EntityRecord.read document.1 = .ok one.record) documents pending := by
  induction documents generalizing before pending warnings with
  | nil =>
    obtain ⟨rfl, same⟩ := Prod.mk.inj (Except.ok.inj read)
    obtain ⟨rfl, -⟩ := Prod.mk.inj same
    exact ⟨.nil before, .nil⟩
  | cons first rest ih =>
    obtain ⟨document, i⟩ := first
    simp only [importEntities, bind_eq_ok_iff] at read
    obtain ⟨⟨middle, one, own⟩, here, ⟨final, others, more⟩, later, result⟩ := read
    obtain ⟨rfl, same⟩ := Prod.mk.inj (Except.ok.inj result)
    obtain ⟨rfl, -⟩ := Prod.mk.inj same
    obtain ⟨record, grown, own, own', reads, -, -, extended, rfl, rfl, rfl⟩ :=
      (importEntity_eq_ok_iff vacant).mp here
    obtain ⟨appended, records⟩ := ih (EntityList.vacant_append vacant _ _) later
    exact ⟨.cons _ grown rfl rfl extended appended, .cons reads records⟩

/-! ### Wires -/

/-- What the references of a pending record are read into. -/
structure Connects (numbering : Numbering) (one : Pending) (connections : Connections)
    (neighbours : List Association) : Prop where
  connections : numbering.resolveConnections (one.path ++ ".connections")
    (one.record.connections.getD .empty) = .ok connections
  neighbours : numbering.resolveAll (one.path ++ ".neighbours") one.record.neighbourNumbers =
    .ok neighbours

theorem resolveConnections_empty (numbering : Numbering) (path : String) :
    numbering.resolveConnections path .empty = .ok .empty := rfl

/-- The references of a record replace those of its entity, and nothing else changes. -/
theorem connectEntity_stores {numbering : Numbering} {before after : Blueprint} {one : Pending}
    {site : Site} {entity : Entity}
    (stored : before.entities.get? one.key = some ⟨site, .entity entity⟩)
    (wires : entity.connections = .empty) (poles : entity.neighbours = [])
    (connected : connectEntity numbering before one = .ok after) :
    after = { before with entities := after.entities } ∧
      after.entities.id = before.entities.id ∧
      after.entities.members = before.entities.members ∧
      (∀ key ≠ one.key, after.entities.get? key = before.entities.get? key) ∧
      ∃ connections neighbours, Connects numbering one connections neighbours ∧
        after.entities.get? one.key = some ⟨site,
          .entity { entity with connections := connections, neighbours := neighbours }⟩ := by
  unfold connectEntity at connected
  split at connected
  · rename_i without
    obtain rfl := Except.ok.inj connected
    obtain ⟨noWires, noPoles⟩ := Bool.and_eq_true_iff.mp without
    refine ⟨rfl, rfl, rfl, fun _ _ => rfl, .empty, [], ⟨?_, ?_⟩, ?_⟩
    · rw [Option.isNone_iff_eq_none.mp noWires]
      exact resolveConnections_empty numbering _
    · rw [List.isEmpty_iff.mp noPoles]
      rfl
    · rw [stored, ← wires, ← poles]
  · simp only [bind_eq_ok_iff] at connected
    obtain ⟨connections, resolved, neighbours, named, result⟩ := connected
    split at result
    · rename_i entities modified
      obtain rfl := Except.ok.inj result
      obtain ⟨id, members⟩ := EntityList.members_of_modify? modified
      refine ⟨rfl, id, members, fun key other => ?_, connections, neighbours, ⟨resolved, named⟩, ?_⟩
      · rw [EntityList.get?_of_modify? modified, if_neg other]
      · rw [EntityList.get?_of_modify? modified, if_pos rfl, stored]
        rfl
    · contradiction

/-- The references of all pending records were read. -/
structure Connected (numbering : Numbering) (before : Blueprint) (pending : List Pending)
    (after : Blueprint) : Prop where
  rest : after = { before with entities := after.entities }
  id : after.entities.id = before.entities.id
  members : after.entities.members = before.entities.members
  kept : ∀ key ∉ pending.map (·.key), after.entities.get? key = before.entities.get? key
  stored : ∀ one ∈ pending, ∃ connections neighbours, Connects numbering one connections neighbours ∧
    after.entities.get? one.key = some ⟨.top, .entity { one.record.entity before.table with
      connections := connections, neighbours := neighbours }⟩

theorem connected_of_foldlM {numbering : Numbering} {pending : List Pending}
    {before after : Blueprint} (nodup : (pending.map (·.key)).Nodup)
    (stored : ∀ one ∈ pending,
      before.entities.get? one.key = some ⟨.top, .entity (one.record.entity before.table)⟩)
    (connected : pending.foldlM (connectEntity numbering) before = .ok after) :
    Connected numbering before pending after := by
  induction pending generalizing before with
  | nil =>
    obtain rfl := Except.ok.inj connected
    exact ⟨rfl, rfl, rfl, fun _ _ => rfl, by simp⟩
  | cons first others ih =>
    obtain ⟨fresh, nodup⟩ := List.nodup_cons.mp nodup
    obtain ⟨here, later⟩ := List.forall_mem_cons.mp stored
    rw [List.foldlM_cons, bind_eq_ok_iff] at connected
    obtain ⟨middle, one, remaining⟩ := connected
    obtain ⟨rest, id, members, kept, connections, neighbours, connects, placed⟩ :=
      connectEntity_stores here rfl rfl one
    have table : middle.table = before.table := by rw [rest]
    have untouched : ∀ other ∈ others, other.key ≠ first.key := fun other mem same =>
      fresh (List.mem_map.mpr ⟨other, mem, same⟩)
    have after := ih nodup (fun other mem => by
      rw [kept _ (untouched other mem), table]
      exact later other mem) remaining
    refine ⟨?_, after.id.trans id, after.members.trans members, fun key absent => ?_, ?_⟩
    · rw [after.rest, rest]
    · rw [after.kept key (List.not_mem_of_not_mem_cons absent),
        kept key (List.ne_of_not_mem_cons absent)]
    · refine List.forall_mem_cons.mpr ⟨⟨connections, neighbours, connects, ?_⟩, fun other mem => ?_⟩
      · rw [after.kept _ fresh, placed]
      · rw [← table]
        exact after.stored other mem

/-! ### Tiles and schedules -/

theorem importTiles_appends {mode : ValidationMode} {documents : List (Document × Nat)}
    {before after : Blueprint} {warnings : List Warning} (coherent : before.tiles.Coherent)
    (read : importTiles mode before documents = .ok (after, warnings)) :
    after = { before with tiles := after.tiles, extent := after.extent } ∧ ∃ tiles,
      List.Forall₂ (fun document tile => Tile.read document.1 = .ok tile) documents tiles ∧
      after.tiles.tiles = before.tiles.tiles ++ tiles ∧
      (tiles.map Tile.box).foldlM Extent.extendOver before.extent = .ok after.extent := by
  induction documents generalizing before warnings with
  | nil =>
    obtain ⟨rfl, -⟩ := Prod.mk.inj (Except.ok.inj read)
    exact ⟨rfl, [], .nil, (List.append_nil _).symm, rfl⟩
  | cons first others ih =>
    obtain ⟨document, i⟩ := first
    simp only [importTiles, bind_eq_ok_iff, Reader.locate_eq_ok_iff] at read
    obtain ⟨tile, reads, own, -, ⟨tiles, placement, extent⟩, inserted, ⟨final, more⟩, later,
      result⟩ := read
    obtain ⟨rfl, -⟩ := Prod.mk.inj (Except.ok.inj result)
    obtain ⟨-, extended, rfl⟩ := TileList.insert_eq_ok_iff.mp inserted
    obtain ⟨rest, records, all, appended, grown⟩ := ih (coherent.insert inserted) later
    refine ⟨rest, tile :: records, .cons reads all, ?_, ?_⟩
    · rw [appended, TileList.tiles_append coherent]
      simp
    · rw [List.map_cons, List.foldlM_cons, extended]
      exact grown

theorem importSchedule_eq_ok_iff {mode : ValidationMode} {table : PrototypeTable}
    {numbering : Numbering} {path : String} {document : Document}
    {schedule : Schedule Association} {warnings : List Warning} :
    importSchedule mode table numbering path document = .ok (schedule, warnings) ↔
      ∃ record : Schedule Nat, Schedule.read document = .ok record ∧
        schedule.stops = record.stops ∧ schedule.extra = record.extra ∧
        numbering.resolveAll (path ++ ".locomotives") record.locomotives =
          .ok schedule.locomotives ∧
        mode.accept (schedule.warnings table) = .ok warnings := by
  simp only [importSchedule, bind_eq_ok_iff, Reader.locate_eq_ok_iff, pure, Except.pure,
    Except.ok.injEq, Prod.mk.injEq]
  constructor
  · rintro ⟨record, reads, locomotives, resolved, _, accepted, rfl, rfl⟩
    exact ⟨record, reads, rfl, rfl, resolved, accepted⟩
  · rintro ⟨record, reads, stops, extra, resolved, accepted⟩
    obtain ⟨_, locomotives, _⟩ := schedule
    obtain rfl := stops
    obtain rfl := extra
    exact ⟨record, reads, locomotives, resolved, warnings, accepted, rfl, rfl⟩

end FactoryBlueprint.Blueprint
