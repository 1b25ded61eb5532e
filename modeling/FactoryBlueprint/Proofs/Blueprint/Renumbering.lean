import FactoryBlueprint.Proofs.Blueprint.References
import FactoryBlueprint.Proofs.EntityList.Grounding

/-! # Writing under other keys

A document tells entities by their numbers, and their places from the origin of the blueprint. So
blueprints with the same entities on the ground, in the same order, are written alike whatever their
keys and groups are (`toDocument_eq_of_renames`), as long as associations name what is named alike in
both.
-/

namespace FactoryBlueprint

namespace Numbering

variable {numbering other : Numbering}

/-- Renaming keeps the number of an association whose target keeps its name. -/
theorem number?_rename {list : ListId} {keys : List Key} {rename : Equiv.Perm Key}
    {association : Association}
    (named : association.list = list → rename association.target = association.target) :
    number? ⟨list, keys.map rename⟩ association = number? ⟨list, keys⟩ association := by
  simp only [number?]
  split
  · rename_i own
    have place : (keys.map rename).idxOf? association.target = keys.idxOf? association.target := by
      rw [List.idxOf?, List.findIdx?_map]
      refine congrArg (List.findIdx? · keys) (funext fun key => ?_)
      rw [Function.comp_apply, Bool.eq_iff_iff, beq_iff_eq, beq_iff_eq]
      constructor
      · intro same
        exact rename.injective (same.trans (named own).symm)
      · rintro rfl
        exact named own
    rw [place]
  · rfl

theorem numberEnds?_congr {ends : List (WireEnd Association)}
    (same : ∀ far ∈ ends, numbering.number? far.target = other.number? far.target) :
    numbering.numberEnds? ends = other.numberEnds? ends :=
  mapM_congr fun far mem => by rw [same far mem]

/-- Wires are written alike if they are at every terminal. -/
theorem connectionsRecord?_eq_of_ends {connections others : Connections}
    (circuit : ∀ side color, numbering.numberEnds? (connections.circuit side color) =
      other.numberEnds? (others.circuit side color))
    (copper : ∀ side, numbering.numberEnds? (connections.copper side) =
      other.numberEnds? (others.copper side)) :
    numbering.connectionsRecord? connections = other.connectionsRecord? others := by
  refine Option.ext fun record => ?_
  simp only [connectionsRecord?_eq_some_iff, circuit, copper]

theorem connectionsRecord?_congr {connections : Connections}
    (same : ∀ association ∈ connections.targets,
      numbering.number? association = other.number? association) :
    numbering.connectionsRecord? connections = other.connectionsRecord? connections := by
  refine connectionsRecord?_eq_of_ends (fun side color => ?_) fun side => ?_
  · exact numberEnds?_congr fun far mem =>
      same _ (Connections.mem_targets_iff.mpr (.inl ⟨side, color, far, mem, rfl⟩))
  · exact numberEnds?_congr fun far mem =>
      same _ (Connections.mem_targets_iff.mpr (.inr ⟨side, far, mem, rfl⟩))

end Numbering

namespace Blueprint

variable {blueprint other : Blueprint}

theorem exportEntity_congr {numbering other : Numbering} {entity : Entity}
    (same : ∀ association ∈ entity.associations,
      numbering.number? association = other.number? association)
    (origin world : Point) (number : Nat) : exportEntity numbering origin world entity number =
      exportEntity other origin world entity number := by
  have connections : numbering.connectionsRecord? entity.connections =
      other.connectionsRecord? entity.connections :=
    Numbering.connectionsRecord?_congr fun _ mem => same _ (List.mem_append_left _ mem)
  have neighbours : entity.neighbours.mapM numbering.number? =
      entity.neighbours.mapM other.number? :=
    mapM_congr fun _ mem => same _ (List.mem_append_right _ mem)
  rw [exportEntity, exportEntity, connections, neighbours]

theorem exportLocomotives_congr {numbering other : Numbering} {schedule : Schedule Association}
    (same : ∀ association ∈ schedule.locomotives,
      numbering.number? association = other.number? association) (i : Nat) :
    schedule.locomotives.zipIdx.mapM (fun (locomotive, slot) =>
        exportLocomotive numbering i slot locomotive) =
      schedule.locomotives.zipIdx.mapM fun (locomotive, slot) =>
        exportLocomotive other i slot locomotive := by
  refine mapM_congr fun entry mem => ?_
  have number := same entry.1 (List.fst_mem_of_mem_zipIdx mem)
  simp only [exportLocomotive, number]

theorem exportSchedule_congr {numbering other : Numbering} {schedule : Schedule Association}
    (same : ∀ association ∈ schedule.locomotives,
      numbering.number? association = other.number? association) (i : Nat) :
    exportSchedule numbering schedule i = exportSchedule other schedule i := by
  rw [exportSchedule, exportSchedule, exportLocomotives_congr same]

/-- The entities in order, grounded. -/
def groundedEntities (blueprint : Blueprint) : List Entity :=
  blueprint.entities.leaves.filterMap blueprint.entities.grounded?

/-- What is written of the entities is told by where they stand. -/
theorem exportEntities_eq (blueprint : Blueprint) (origin : Point) :
    blueprint.exportEntities origin =
      blueprint.groundedEntities.zipIdx.mapM fun (entity, i) =>
        exportEntity blueprint.numbering origin entity.position entity (i + 1) := by
  have grounded : blueprint.groundedEntities = blueprint.placedEntities.map fun (world, entity) =>
      { entity with position := world } := by
    rw [placedEntities, List.map_filterMap]
    refine congrArg (List.filterMap · _) (funext fun key => ?_)
    rw [EntityList.grounded?]
    cases blueprint.entities.get? key with
    | none => rfl
    | some placed =>
      obtain ⟨site, content⟩ := placed
      cases content <;> rfl
  rw [grounded, List.zipIdx_map, List.mapM_map]
  rfl

/-- The other blueprint holds the same on the ground, in the same order, under names of its own. -/
structure Renames (rename : Equiv.Perm Key) (blueprint other : Blueprint) : Prop where
  rest : other = { blueprint with entities := other.entities, extent := other.extent }
  id : other.entities.id = blueprint.entities.id
  leaves : other.entities.leaves = blueprint.entities.leaves.map rename
  entities : ∀ key, other.entities.grounded? (rename key) = blueprint.entities.grounded? key

/-- Every association to the blueprint's own list names what has the same name in both. -/
structure NamedAlike (rename : Equiv.Perm Key) (blueprint : Blueprint) : Prop where
  entities : ∀ key entity, blueprint.entities.entity? key = some entity →
    ∀ association ∈ entity.associations, association.list = blueprint.entities.id →
      rename association.target = association.target
  schedules : ∀ schedule ∈ blueprint.schedules, ∀ association ∈ schedule.locomotives,
    association.list = blueprint.entities.id → rename association.target = association.target

theorem Renames.numbering {rename : Equiv.Perm Key} (renames : Renames rename blueprint other) :
    other.numbering = ⟨blueprint.entities.id, blueprint.entities.leaves.map rename⟩ := by
  rw [Blueprint.numbering, renames.id, renames.leaves]

theorem Renames.groundedEntities {rename : Equiv.Perm Key}
    (renames : Renames rename blueprint other) :
    other.groundedEntities = blueprint.groundedEntities := by
  rw [Blueprint.groundedEntities, renames.leaves, List.filterMap_map, Blueprint.groundedEntities]
  exact congrArg (List.filterMap · _) (funext renames.entities)

theorem associations_of_mem_groundedEntities {entity : Entity}
    (mem : entity ∈ blueprint.groundedEntities) : ∃ key stored,
      blueprint.entities.entity? key = some stored ∧ entity.associations = stored.associations := by
  obtain ⟨key, -, found⟩ := List.mem_filterMap.mp mem
  obtain ⟨placed, here, grounded⟩ := Option.bind_eq_some_iff.mp found
  obtain ⟨stored, isEntity, rfl⟩ := Option.map_eq_some_iff.mp grounded
  exact ⟨key, stored, Option.bind_eq_some_iff.mpr ⟨placed, here, isEntity⟩, rfl⟩

/-- What stands alike is written alike. -/
theorem toDocument_eq_of_renames {rename : Equiv.Perm Key}
    (renames : Renames rename blueprint other) (named : NamedAlike rename blueprint) :
    other.toDocument = blueprint.toDocument := by
  have entities (origin : Point) :
      other.exportEntities origin = blueprint.exportEntities origin := by
    rw [exportEntities_eq, exportEntities_eq, renames.groundedEntities]
    refine mapM_congr fun entry mem => ?_
    obtain ⟨key, stored, found, same⟩ :=
      associations_of_mem_groundedEntities (List.fst_mem_of_mem_zipIdx mem)
    refine exportEntity_congr (fun association listed => ?_) origin _ _
    rw [renames.numbering]
    exact Numbering.number?_rename (named.entities key stored found association (same ▸ listed))
  have schedules : other.exportSchedules = blueprint.exportSchedules := by
    have same : other.schedules = blueprint.schedules := by rw [renames.rest]
    rw [exportSchedules, exportSchedules, same]
    refine mapM_congr fun entry mem => ?_
    refine exportSchedule_congr (fun association listed => ?_) entry.2
    rw [renames.numbering]
    exact Numbering.number?_rename
      (named.schedules entry.1 (List.fst_mem_of_mem_zipIdx mem) association listed)
  rw [toDocument, toDocument, entities, schedules, renames.rest]
  rfl

end Blueprint
end FactoryBlueprint
