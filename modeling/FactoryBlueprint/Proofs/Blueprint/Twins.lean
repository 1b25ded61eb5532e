import FactoryBlueprint.Proofs.Blueprint.Filing
import FactoryBlueprint.Proofs.Blueprint.Integrity
import FactoryBlueprint.Proofs.Blueprint.Renumbering
import FactoryBlueprint.Proofs.EntityList.Twins
import FactoryBlueprint.Proofs.TileList.Twins
import FactoryBlueprint.Proofs.World.Identity

/-! # Twin blueprints

Twin blueprints hold the same, each in an entity list of its own (`Blueprint.Twins`), and are
written as the same document (`Twins.toDocument`). A copy is a twin of its original
(`twins_duplicate`).
-/

namespace FactoryBlueprint

variable {rename : Equiv.Perm ListId}

namespace Numbering

/-- An association has the number that it has under another id of its list. -/
theorem number?_relist (list : ListId) (keys : List Key) (association : Association) :
    number? ⟨rename list, keys⟩ (association.relist rename) = number? ⟨list, keys⟩ association := by
  simp only [number?, Association.relist, rename.apply_eq_iff_eq]

theorem numberEnds?_relist (list : ListId) (keys : List Key) (ends : List (WireEnd Association)) :
    numberEnds? ⟨rename list, keys⟩ (ends.map (·.relist rename)) =
      numberEnds? ⟨list, keys⟩ ends := by
  rw [numberEnds?, List.mapM_map]
  exact mapM_congr fun far _ =>
    congrArg (Option.map fun number => WireEnd.mk number far.terminal)
      (number?_relist list keys far.target)

end Numbering

namespace Blueprint

theorem exportEntity_relist (list : ListId) (keys : List Key) (origin world : Point)
    (entity : Entity) (number : Nat) :
    exportEntity ⟨rename list, keys⟩ origin world (entity.relist rename) number =
      exportEntity ⟨list, keys⟩ origin world entity number := by
  have connections : Numbering.connectionsRecord? ⟨rename list, keys⟩
        (entity.relist rename).connections =
      Numbering.connectionsRecord? ⟨list, keys⟩ entity.connections := by
    refine Numbering.connectionsRecord?_eq_of_ends (fun side color => ?_) fun side => ?_
    · exact (congrArg _ (entity.connections.circuit_relist side color)).trans
        (Numbering.numberEnds?_relist list keys _)
    · exact (congrArg _ (entity.connections.copper_relist side)).trans
        (Numbering.numberEnds?_relist list keys _)
  have neighbours : (entity.relist rename).neighbours.mapM
        (Numbering.number? ⟨rename list, keys⟩) =
      entity.neighbours.mapM (Numbering.number? ⟨list, keys⟩) :=
    (List.mapM_map ..).trans (mapM_congr fun _ _ => Numbering.number?_relist list keys _)
  rw [exportEntity, connections, neighbours]
  rfl

theorem exportLocomotives_relist (list : ListId) (keys : List Key)
    (schedule : Schedule Association) (i : Nat) :
    (schedule.relist rename).locomotives.zipIdx.mapM (fun (locomotive, slot) =>
        exportLocomotive ⟨rename list, keys⟩ i slot locomotive) =
      schedule.locomotives.zipIdx.mapM fun (locomotive, slot) =>
        exportLocomotive ⟨list, keys⟩ i slot locomotive := by
  rw [Schedule.relist, List.zipIdx_map, List.mapM_map]
  refine mapM_congr fun entry _ => ?_
  obtain ⟨locomotive, slot⟩ := entry
  simp only [Function.comp_apply, Prod.map_apply, id, exportLocomotive, Numbering.number?_relist]

theorem exportSchedule_relist (list : ListId) (keys : List Key) (schedule : Schedule Association)
    (i : Nat) : exportSchedule ⟨rename list, keys⟩ (schedule.relist rename) i =
      exportSchedule ⟨list, keys⟩ schedule i := by
  rw [exportSchedule, exportLocomotives_relist, exportSchedule]
  rfl

/-- The other blueprint holds the same, its entities in a list under another id. -/
structure Twins (rename : Equiv.Perm ListId) (blueprint other : Blueprint) : Prop where
  rest : other = { blueprint with
    entities := other.entities, tiles := other.tiles, schedules := other.schedules }
  entities : EntityList.Twins rename blueprint.entities other.entities
  tiles : TileList.Twins blueprint.tiles other.tiles
  schedules : other.schedules = blueprint.schedules.map (·.relist rename)

variable {blueprint other : Blueprint}

/-- Associations to lists other than its own, by which the blueprint refers, stay as they are under
the renaming. -/
def FixesThird (rename : Equiv.Perm ListId) (blueprint : Blueprint) : Prop :=
  ∀ association, blueprint.Holds association → association.list ≠ blueprint.entities.id →
    rename association.list = association.list

namespace Twins

theorem placedEntities (twins : Twins rename blueprint other) :
    other.placedEntities = blueprint.placedEntities.map fun (world, entity) =>
      (world, entity.relist rename) := by
  rw [Blueprint.placedEntities, twins.entities.leaves, Blueprint.placedEntities, List.map_filterMap]
  refine congrArg (List.filterMap · _) (funext fun key => ?_)
  rw [twins.entities.get?]
  cases blueprint.entities.get? key with
  | none => rfl
  | some placed =>
    obtain ⟨site, content⟩ := placed
    cases content <;> rfl

theorem numbering (twins : Twins rename blueprint other) :
    other.numbering = ⟨rename blueprint.entities.id, blueprint.entities.leaves⟩ := by
  rw [Blueprint.numbering, twins.entities.id, twins.entities.leaves]

/-- Twins are written as the same document, or fail with the same error. -/
theorem toDocument (twins : Twins rename blueprint other) :
    other.toDocument = blueprint.toDocument := by
  have entities (origin : Point) :
      other.exportEntities origin = blueprint.exportEntities origin := by
    rw [exportEntities, twins.numbering, twins.placedEntities, List.zipIdx_map, List.mapM_map]
    exact mapM_congr fun entry _ => exportEntity_relist _ _ origin entry.1.1 entry.1.2 _
  have schedules : other.exportSchedules = blueprint.exportSchedules := by
    rw [exportSchedules, twins.numbering, twins.schedules, List.zipIdx_map, List.mapM_map]
    exact mapM_congr fun entry _ => exportSchedule_relist _ _ entry.1 entry.2
  have header (entities schedules : List Document) :
      other.documentOf entities schedules = blueprint.documentOf entities schedules := by
    rw [documentOf, documentFields, twins.tiles.tiles, twins.rest]
    rfl
  have origin : other.origin = blueprint.origin := by
    rw [twins.rest]
    rfl
  simp only [Blueprint.toDocument, origin, entities, schedules, header]

end Twins

/-- A copy of a blueprint is a twin of it. -/
theorem twins_duplicate (coherent : blueprint.Coherent) (filed : blueprint.entities.index.Filed)
    (tilesFiled : blueprint.tiles.index.Filed) (third : FixesThird rename blueprint) :
    Twins rename blueprint (blueprint.duplicate (rename blueprint.entities.id)) where
  rest := rfl
  entities := EntityList.twins_duplicate coherent.entities filed fun key entity found association mem =>
    third association (.inl ⟨key, entity, found, mem⟩)
  tiles := TileList.twins_duplicate coherent.tiles tilesFiled
  schedules := by
    refine List.map_congr_left fun schedule listed => ?_
    refine congrArg (Schedule.mk schedule.stops · schedule.extra) ?_
    exact List.map_congr_left fun association mem =>
      Association.rescope_eq_relist (third association (.inr ⟨schedule, listed, mem⟩))

end Blueprint
end FactoryBlueprint
