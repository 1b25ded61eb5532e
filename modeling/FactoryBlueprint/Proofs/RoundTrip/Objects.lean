import FactoryBlueprint.Proofs.Blueprint.Readable
import FactoryBlueprint.Proofs.RoundTrip.Rereading

/-! # Reading back the objects of a blueprint

The documents that the entities and schedules of a blueprint are written as are read as records that
are written as the same documents (`exists_allReturn`, `exists_schedules`). Where coordinates are
exact, each entity keeps its box as it is told from the grid (`AllReturn.moved`).
-/

namespace FactoryBlueprint.Blueprint

open FactoryBlueprint.Numbering

variable {blueprint : Blueprint}

/-- What the way back from a document asks of a blueprint: finite coordinates, no reserved key among
the other keys of a record, tiles in range when told from the grid, and numbers of 64 bits. -/
structure Returnable (blueprint : Blueprint) : Prop where
  finite : ∀ key site entity, blueprint.entities.get? key = some ⟨site, .entity entity⟩ → ∀ axis,
    ∃ quanta, ((site.offset + entity.position - blueprint.origin.toPoint).along axis).quanta? =
      some quanta
  entities : ∀ key entity, blueprint.entities.entity? key = some entity → entity.KeysApart
  tiles : ∀ key tile, blueprint.tiles.tile? key = some tile →
    tile.KeysApart ∧ tile.position.SubFits blueprint.origin
  schedules : ∀ schedule ∈ blueprint.schedules, schedule.KeysApart
  count : blueprint.entities.leaves.length < 2 ^ 64

/-- No terminal lists a far end twice, and no entity has a field of its kind under a reserved key. -/
structure Regular (blueprint : Blueprint) : Prop where
  once : ∀ key entity, blueprint.entities.entity? key = some entity → entity.connections.Once
  fields : ∀ key entity, blueprint.entities.entity? key = some entity →
    entity.fields.Apart EntityRecord.names

/-- The coordinates of all boxes are told from the grid exactly. -/
def Exact (blueprint : Blueprint) : Prop :=
  ∀ key site entity, blueprint.entities.get? key = some ⟨site, .entity entity⟩ →
    (entity.collisionBox blueprint.table).ExactAt (site.offset + entity.position) blueprint.origin

/-! ### Entities -/

/-- What the entity under a key is written as, and the record that it is read as again, at the place
that is told from the grid. -/
structure Returns (blueprint : Blueprint) (key : Key) (number : Nat) (document : Document)
    (record : EntityRecord) : Prop where
  reads : EntityRecord.read document = .ok record
  again : record.rewrite blueprint.table number = document
  numbered : record.Numbered blueprint.entities.leaves.length
  told : ∃ site entity, blueprint.entities.get? key = some ⟨site, .entity entity⟩ ∧
    record.box blueprint.table =
      (entity.collisionBox blueprint.table).translate (record.position + .zero) ∧
    ∀ axis, (record.position.along axis).quanta? =
      ((site.offset + entity.position - blueprint.origin.toPoint).along axis).quanta?

/-- Where coordinates are exact, an entity gets the box it had, told from the grid. -/
theorem Returns.moved (coherent : blueprint.Coherent) (exact : blueprint.Exact) {key : Key}
    {number : Nat} {document : Document} {record : EntityRecord}
    (returns : blueprint.Returns key number document record) :
    ∃ box, blueprint.entities.index.box? key = some box ∧
      box.Moved blueprint.origin (record.box blueprint.table) := by
  obtain ⟨site, entity, stored, box, same⟩ := returns.told
  refine ⟨entity.worldBox blueprint.table site.offset, ?_, ?_⟩
  · rw [coherent.entities.indexed, stored]
    rfl
  · rw [box, Entity.worldBox, Point.add_comm entity.position]
    exact (exact key site entity stored).moved same

theorem exists_returns (coherent : blueprint.Coherent) (fits : blueprint.Fits)
    (returnable : blueprint.Returnable) (regular : blueprint.Regular) {i : Nat} {key : Key}
    {site : Site} {entity : Entity} {document : Document}
    (place : blueprint.entities.leaves[i]? = some key)
    (stored : blueprint.entities.get? key = some ⟨site, .entity entity⟩)
    (exported : exportEntity blueprint.numbering blueprint.origin.toPoint
      (site.offset + entity.position) entity (i + 1) = .ok document) :
    ∃ record, blueprint.Returns key (i + 1) document record := by
  obtain ⟨connections, neighbours, connected, named, rfl⟩ := exportEntity_eq_ok_iff.mp exported
  have nodup : blueprint.numbering.keys.Nodup := coherent.entities.nodup_leaves
  have isEntity : blueprint.entities.entity? key = some entity := by
    rw [EntityList.entity?, stored]
    rfl
  have fit := fits.entities key entity isEntity
  have written := written_of_connectionsRecord? nodup connected
  have poles : ∀ number ∈ neighbours, IsNumber blueprint.entities.leaves.length number := by
    intro number mem
    obtain ⟨_, -, found⟩ := exists_of_mem_right (option_mapM_eq_some_iff.mp named) mem
    exact ((number?_eq_some_iff nodup).mp found).isNumber
  obtain ⟨_, x⟩ := returnable.finite key site entity stored .x
  obtain ⟨_, y⟩ := returnable.finite key site entity stored .y
  have bound := (List.getElem?_eq_some_iff.mp place).1
  have count := returnable.count
  obtain ⟨place, sameX, sameY, reads⟩ := Entity.read_write fit
    (returnable.entities key entity isEntity) (regular.fields key entity isEntity)
    (show i + 1 < 2 ^ 64 by omega) (written.small fit.connections count)
    (fun number mem => Nat.lt_of_le_of_lt (poles number mem).bound count) x y
  refine ⟨_, reads, ?_, ⟨?_, ?_⟩, site, entity, stored, ?_, fun axis => ?_⟩
  · exact Entity.rewrite_record fit blueprint.table (distinct_of_connectionsRecord? nodup
      (regular.once key entity isEntity) connected) x y sameX sameY
  · rw [Entity.record, ConnectionsRecord.getD_unlessEmpty]
    exact written.numbered
  · rw [EntityRecord.neighbourNumbers, Entity.record, unlessEmpty_getD]
    exact poles
  · rw [EntityRecord.box, Entity.worldBox, Entity.collisionBox_record]
    rfl
  · cases axis with
    | x => exact sameX.trans x.symm
    | y => exact sameY.trans y.symm

/-- What all entities are written as, and the records that they are read as again. -/
structure AllReturn (blueprint : Blueprint) (documents : List Document)
    (records : List EntityRecord) : Prop where
  written : documents.length = blueprint.entities.leaves.length
  read : records.length = blueprint.entities.leaves.length
  each : ∀ (i : Nat) key document record, blueprint.entities.leaves[i]? = some key →
    documents[i]? = some document → records[i]? = some record →
      blueprint.Returns key (i + 1) document record

theorem exists_allReturn (coherent : blueprint.Coherent) (fits : blueprint.Fits)
    (returnable : blueprint.Returnable) (regular : blueprint.Regular) {documents : List Document}
    (exported : blueprint.exportEntities blueprint.origin.toPoint = .ok documents) :
    ∃ records, blueprint.AllReturn documents records := by
  obtain ⟨length, each⟩ := zipIdx_mapM_eq_ok_iff.mp exported
  rw [length_placedEntities coherent] at length
  obtain ⟨records, count, found⟩ := exists_list blueprint.entities.leaves.length fun i bound => by
    have place := List.getElem?_eq_getElem bound
    have written := List.getElem?_eq_getElem (length ▸ bound)
    obtain ⟨entity, isEntity⟩ := Option.isSome_iff_exists.mp
      ((coherent.entities.mem_leaves_iff _).mp (List.mem_of_getElem? place))
    obtain ⟨⟨site, content⟩, stored, isContent⟩ := Option.bind_eq_some_iff.mp isEntity
    cases content with
    | group id position => exact nomatch isContent
    | entity other =>
      obtain rfl := Option.some.inj isContent
      have position : blueprint.entities.worldPosition? blueprint.entities.leaves[i] =
          some (site.offset + other.position) := by
        rw [EntityList.worldPosition?, stored]
        rfl
      have placed := (getElem?_placedEntities coherent).mpr ⟨_, place, isEntity, position⟩
      obtain ⟨record, returns⟩ := exists_returns coherent fits returnable regular place stored
        (each i _ _ placed written)
      exact ⟨record, (⟨_, _, place, written, returns⟩ : ∃ key document,
        blueprint.entities.leaves[i]? = some key ∧ documents[i]? = some document ∧
          blueprint.Returns key (i + 1) document record)⟩
  refine ⟨records, length.symm, count, fun i key document record place written here => ?_⟩
  obtain ⟨key', document', place', written', returns⟩ := found i record here
  obtain rfl := Option.some.inj (place.symm.trans place')
  obtain rfl := Option.some.inj (written.symm.trans written')
  exact returns

namespace AllReturn

variable {documents : List Document} {records : List EntityRecord}

theorem reads (all : blueprint.AllReturn documents records) :
    List.Forall₂ (fun document record => EntityRecord.read document = .ok record)
      documents records := by
  refine forall₂_iff_getElem?.mpr ⟨all.written.trans all.read.symm, ?_⟩
  intro i document record written here
  have bound := (List.getElem?_eq_some_iff.mp written).1
  rw [all.written] at bound
  exact (all.each i _ document record (List.getElem?_eq_getElem bound) written here).reads

theorem rewritten (all : blueprint.AllReturn documents records) :
    (records.zipIdx.map fun (record, i) => record.rewrite blueprint.table (i + 1)) = documents := by
  refine List.ext_getElem? fun i => ?_
  rw [List.getElem?_map, List.getElem?_zipIdx, Nat.zero_add, Option.map_map]
  by_cases bound : i < blueprint.entities.leaves.length
  · have written := List.getElem?_eq_getElem (all.written ▸ bound)
    have here := List.getElem?_eq_getElem (all.read ▸ bound)
    rw [written, here]
    exact congrArg some
      (all.each i _ _ _ (List.getElem?_eq_getElem bound) written here).again
  · rw [List.getElem?_eq_none (by rw [all.read]; omega),
      List.getElem?_eq_none (by rw [all.written]; omega)]
    rfl

theorem numbered (all : blueprint.AllReturn documents records) :
    ∀ record ∈ records, record.Numbered blueprint.entities.leaves.length := by
  intro record mem
  obtain ⟨i, here⟩ := List.mem_iff_getElem?.mp mem
  have bound := (List.getElem?_eq_some_iff.mp here).1
  rw [all.read] at bound
  exact (all.each i _ _ record (List.getElem?_eq_getElem bound)
    (List.getElem?_eq_getElem (all.written ▸ bound)) here).numbered

/-- Where coordinates are exact, each entity gets the box it had, told from the grid. -/
theorem moved (all : blueprint.AllReturn documents records) (coherent : blueprint.Coherent)
    (exact : blueprint.Exact) :
    List.Forall₂ (fun key record => ∃ box, blueprint.entities.index.box? key = some box ∧
      box.Moved blueprint.origin (record.box blueprint.table))
      blueprint.entities.leaves records := by
  refine forall₂_iff_getElem?.mpr ⟨all.read.symm, fun i key record place here => ?_⟩
  have bound := (List.getElem?_eq_some_iff.mp place).1
  have returns := all.each i key _ record place (List.getElem?_eq_getElem (all.written ▸ bound)) here
  exact returns.moved coherent exact

end AllReturn

/-! ### Schedules -/

/-- What a schedule is written as is read back, and its numbers are those of entities. -/
theorem exists_schedules (coherent : blueprint.Coherent) (fits : blueprint.Fits)
    (returnable : blueprint.Returnable) {documents : List Document}
    (exported : blueprint.exportSchedules = .ok documents) : ∃ records : List (Schedule Nat),
      records.map Schedule.write = documents ∧
      List.Forall₂ (fun document record => Schedule.read document = .ok record) documents records ∧
      ∀ record ∈ records, ∀ number ∈ record.locomotives,
        IsNumber blueprint.entities.leaves.length number := by
  have nodup : blueprint.numbering.keys.Nodup := coherent.entities.nodup_leaves
  have each : ∀ document ∈ documents, ∃ record : Schedule Nat, record.write = document ∧
      Schedule.read document = .ok record ∧ ∀ number ∈ record.locomotives,
        IsNumber blueprint.entities.leaves.length number := by
    intro document written
    obtain ⟨schedule, mem, i, here⟩ := exists_of_mem_right (forall₂_of_zipIdx_mapM exported) written
    obtain ⟨numbers, named, rfl⟩ := exportSchedule_eq_ok_iff.mp here
    have numbered : ∀ number ∈ numbers, IsNumber blueprint.entities.leaves.length number := by
      intro number inNumbers
      obtain ⟨_, -, found⟩ := exists_of_mem_right named inNumbers
      exact ((number?_eq_some_iff nodup).mp found).isNumber
    have fit := fits.schedules schedule mem
    have apart := returnable.schedules schedule mem
    refine ⟨⟨schedule.stops, numbers, schedule.extra⟩, rfl, ?_, numbered⟩
    exact Schedule.read_write ⟨fit.stops, fit.extra⟩ ⟨apart.stops, apart.extra⟩ fun number told =>
      Nat.lt_of_le_of_lt (numbered number told).bound returnable.count
  obtain ⟨records, paired⟩ := exists_forall₂ each
  refine ⟨records, ?_, paired.flip.imp fun _ _ both => both.2.1, fun record mem => ?_⟩
  · have same := List.forall₂_map_left_iff.mpr (paired.imp fun _ _ both => both.1)
    rwa [List.forall₂_eq_eq_eq] at same
  · obtain ⟨_, -, both⟩ := exists_of_mem_left paired mem
    exact both.2.2

end FactoryBlueprint.Blueprint
