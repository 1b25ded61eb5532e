import FactoryBlueprint.Proofs.Blueprint.PoleWires
import FactoryBlueprint.Proofs.Blueprint.Twins

/-! # Copies

A copy of a blueprint is written as the same document and holds the same objects in the same places,
in an entity list of its own. What refers into the list of the original is carried over into that of
the copy, wherever it stands; what refers elsewhere stays as it is. So the copy does not refer into
the original, nor the original into the copy (`Reachable.faithful_duplicate`).
-/

namespace FactoryBlueprint

/-- The copy of an entity: each association is carried over in its place, and all else is the same.
-/
structure Entity.Carries (carried : Association → Association → Prop) (entity copy : Entity) :
    Prop where
  rest : copy = { entity with connections := copy.connections, neighbours := copy.neighbours }
  circuit : ∀ side color, List.Forall₂
    (fun far near => carried far.target near.target ∧ near.terminal = far.terminal)
    (entity.connections.circuit side color) (copy.connections.circuit side color)
  copper : ∀ side, List.Forall₂
    (fun far near => carried far.target near.target ∧ near.terminal = far.terminal)
    (entity.connections.copper side) (copy.connections.copper side)
  neighbours : List.Forall₂ carried entity.neighbours copy.neighbours

/-- The copy of a schedule. -/
structure Schedule.Carries (carried : Association → Association → Prop)
    (schedule copy : Schedule Association) : Prop where
  stops : copy.stops = schedule.stops
  extra : copy.extra = schedule.extra
  locomotives : List.Forall₂ carried schedule.locomotives copy.locomotives

theorem Entity.carries_mapAssociations {carried : Association → Association → Prop}
    {f : Association → Association} (entity : Entity)
    (each : ∀ association ∈ entity.associations, carried association (f association)) :
    entity.Carries carried (entity.mapAssociations f) where
  rest := rfl
  circuit side color := by
    rw [Entity.mapAssociations, Connections.circuit_mapTargets, List.forall₂_map_right_iff,
      List.forall₂_same]
    exact fun far mem => ⟨each _ (List.mem_append_left _
      (Connections.mem_targets_iff.mpr (.inl ⟨side, color, far, mem, rfl⟩))), rfl⟩
  copper side := by
    rw [Entity.mapAssociations, Connections.copper_mapTargets, List.forall₂_map_right_iff,
      List.forall₂_same]
    exact fun far mem => ⟨each _ (List.mem_append_left _
      (Connections.mem_targets_iff.mpr (.inr ⟨side, far, mem, rfl⟩))), rfl⟩
  neighbours := by
    rw [Entity.mapAssociations, List.forall₂_map_right_iff, List.forall₂_same]
    exact fun association mem => each association (List.mem_append_right _ mem)

namespace Blueprint

variable {blueprint copy : Blueprint} {association : Association}

/-- What becomes of an association in a copy. -/
structure CarriedOver (blueprint copy : Blueprint) (association carried : Association) : Prop where
  own : association.list = blueprint.entities.id →
    carried = copy.entities.associate association.target
  /-- It is live in the copy exactly if it was in the original. -/
  live : association.list = blueprint.entities.id →
    copy.entities.holds carried = blueprint.entities.holds association
  third : association.list ≠ blueprint.entities.id → carried = association

/-- A copy that looks like its original and is separate from it. -/
structure FaithfulCopy (blueprint copy : Blueprint) : Prop where
  /-- What is said about the whole. -/
  rest : copy = { blueprint with
    entities := copy.entities, tiles := copy.tiles, schedules := copy.schedules }
  document : copy.toDocument = blueprint.toDocument
  extent : copy.extent = blueprint.extent
  leaves : copy.entities.leaves = blueprint.entities.leaves
  members : copy.entities.members = blueprint.entities.members
  /-- The boxes in the index that was built anew, and what it finds. -/
  boxes : ∀ key, copy.entities.index.box? key = blueprint.entities.index.box? key
  found : ∀ area, (copy.entities.index.query area).Perm (blueprint.entities.index.query area)
  order : copy.tiles.order = blueprint.tiles.order
  tiles : ∀ key, copy.tiles.tile? key = blueprint.tiles.tile? key
  tileBoxes : ∀ key, copy.tiles.index.box? key = blueprint.tiles.index.box? key
  tilesFound : ∀ area, (copy.tiles.index.query area).Perm (blueprint.tiles.index.query area)
  /-- Entities and groups stand where they stood, and keep all but the lists they refer into. -/
  outlines : ∀ key, (copy.entities.get? key).map Placed.outline =
    (blueprint.entities.get? key).map Placed.outline
  entities : ∀ key, Option.Rel (Entity.Carries (CarriedOver blueprint copy))
    (blueprint.entities.entity? key) (copy.entities.entity? key)
  schedules : List.Forall₂ (Schedule.Carries (CarriedOver blueprint copy)) blueprint.schedules
    copy.schedules
  /-- What the copy refers by is not live in the original, nor the other way round. -/
  separate : ∀ association, copy.Holds association → blueprint.entities.holds association = false
  apart : ∀ association, blueprint.Holds association → copy.entities.holds association = false

theorem contains_duplicate (blueprint : Blueprint) (list : ListId) (key : Key) :
    (blueprint.duplicate list).entities.contains key = blueprint.entities.contains key :=
  Arena.contains_map _ _ key

theorem carriedOver_rescope (list : ListId) (association : Association) :
    CarriedOver blueprint (blueprint.duplicate list) association
      (association.rescope blueprint.entities.id list) where
  own own := if_pos own
  live own := by
    have moved : association.rescope blueprint.entities.id list = ⟨list, association.target⟩ :=
      if_pos own
    rw [moved, EntityList.holds, EntityList.holds, own, contains_duplicate]
    exact congrArg (· && _) (decide_eq_decide.mpr ⟨fun _ => rfl, fun _ => rfl⟩)
  third foreign := if_neg foreign

/-- What a copy refers by was carried over. -/
theorem exists_of_holds_duplicate {list : ListId}
    (held : (blueprint.duplicate list).Holds association) : ∃ old, blueprint.Holds old ∧
      association = old.rescope blueprint.entities.id list := by
  rcases held with ⟨key, entity, found, mem⟩ | ⟨schedule, listed, mem⟩
  · obtain ⟨old, stored, rfl⟩ := Option.map_eq_some_iff.mp
      ((EntityList.entity?_duplicate _ _ _ key).symm.trans found)
    obtain ⟨first, here, rfl⟩ := Entity.mem_associations_mapAssociations.mp mem
    exact ⟨first, .inl ⟨key, old, stored, here⟩, rfl⟩
  · obtain ⟨old, here, rfl⟩ := List.mem_map.mp listed
    obtain ⟨first, there, rfl⟩ := List.mem_map.mp mem
    exact ⟨first, .inr ⟨old, here, there⟩, rfl⟩

/-- An association to another list is not live. -/
theorem holds_eq_false {list : EntityList} (foreign : association.list ≠ list.id) :
    list.holds association = false := by
  rw [EntityList.holds, decide_eq_false foreign, Bool.false_and]

/-- A copy under an id that nothing in the original refers to is faithful to it and separate. -/
theorem faithfulCopy_duplicate (coherent : blueprint.Coherent)
    (filed : blueprint.entities.index.Filed) (tilesFiled : blueprint.tiles.index.Filed)
    {list : ListId} (fresh : list ≠ blueprint.entities.id)
    (unused : ∀ association, blueprint.Holds association → association.list ≠ list) :
    FaithfulCopy blueprint (blueprint.duplicate list) := by
  -- The renaming of lists that swaps both ids fixes all others that are referred to.
  have third : FixesThird (Equiv.swap blueprint.entities.id list) blueprint :=
    fun association held foreign => Equiv.swap_apply_of_ne_of_ne foreign (unused association held)
  have twins := twins_duplicate coherent filed tilesFiled third
  rw [Equiv.swap_apply_left] at twins
  refine ⟨rfl, twins.toDocument, rfl, rfl, rfl, twins.entities.index.box?,
    fun area => (twins.entities.index.query area).symm, rfl, fun _ => rfl, twins.tiles.index.box?,
    fun area => (twins.tiles.index.query area).symm, fun key => ?_, fun key => ?_, ?_, ?_, ?_⟩
  · rw [twins.entities.get?, Option.map_map]
    exact congrArg (Option.map · _) (funext fun placed => placed.outline_mapEntity _)
  · have copied := EntityList.entity?_duplicate blueprint.entities blueprint.table list key
    rw [show (blueprint.duplicate list).entities.entity? key = _ from copied]
    cases blueprint.entities.entity? key with
    | none => exact .none
    | some entity =>
      exact .some (entity.carries_mapAssociations fun association _ =>
        carriedOver_rescope list association)
  · rw [Blueprint.duplicate, List.forall₂_map_right_iff, List.forall₂_same]
    refine fun schedule _ => ⟨rfl, rfl, ?_⟩
    rw [List.forall₂_map_right_iff, List.forall₂_same]
    exact fun association _ => carriedOver_rescope list association
  · rintro _ held
    obtain ⟨old, -, rfl⟩ := exists_of_holds_duplicate held
    refine holds_eq_false ?_
    rw [Association.rescope]
    split
    · exact fresh
    · assumption
  · exact fun association held => holds_eq_false (unused association held)

/-- Whatever led to a blueprint, its copy under such an id is faithful. -/
theorem Reachable.faithful_duplicate {allowed : Blueprint → Operation → Prop}
    (reachable : Reachable allowed blueprint) {list : ListId}
    (fresh : list ≠ blueprint.entities.id)
    (unused : ∀ association, blueprint.Holds association → association.list ≠ list) :
    FaithfulCopy blueprint (blueprint.duplicate list) :=
  faithfulCopy_duplicate reachable.coherent reachable.filed reachable.tilesFiled fresh unused

/-! ### Two poles and a train -/

/-- A schedule that names the first pole, what is no longer there, and an entity of another list. -/
def mixedSchedule : Schedule Association := ⟨[], [⟨⟨0⟩, ⟨0, 0⟩⟩, ⟨⟨0⟩, ⟨9, 0⟩⟩, ⟨⟨7⟩, ⟨0, 0⟩⟩], []⟩

/-- Two joined poles, with a schedule. -/
def scheduledPoles : Blueprint := joinedPoles.addSchedule mixedSchedule

theorem run_scheduledPoles : Run (Tame PowerWiring) (empty poleTable ⟨0⟩) scheduledPoles :=
  run_joinedPoles.step (.addSchedule mixedSchedule) (.plain trivial)

theorem list_of_holds_scheduledPoles (held : scheduledPoles.Holds association) :
    association.list ≠ ⟨1⟩ := by
  rcases held with ⟨key, entity, found, mem⟩ | ⟨schedule, listed, mem⟩
  · rw [(run_scheduledPoles.poled.1.anchored key entity found association mem).1]
    decide
  · obtain rfl := List.mem_singleton.mp listed
    simp only [mixedSchedule, List.mem_cons, List.not_mem_nil, or_false] at mem
    rcases mem with rfl | rfl | rfl <;> decide

/-- In the copy, the pole and the schedule lead to the poles of the copy. -/
theorem faithful_copy_scheduledPoles :
    Reachable (Tame PowerWiring) scheduledPoles ∧ ⟨1⟩ ≠ scheduledPoles.entities.id ∧
      (∀ association, scheduledPoles.Holds association → association.list ≠ ⟨1⟩) ∧
      FaithfulCopy scheduledPoles (scheduledPoles.duplicate ⟨1⟩) ∧
      ((scheduledPoles.duplicate ⟨1⟩).entities.entity? ⟨0, 0⟩).map (·.neighbours) =
        some [⟨⟨1⟩, ⟨1, 0⟩⟩] ∧
      (scheduledPoles.duplicate ⟨1⟩).schedules.map (·.locomotives) =
        [[⟨⟨1⟩, ⟨0, 0⟩⟩, ⟨⟨1⟩, ⟨9, 0⟩⟩, ⟨⟨7⟩, ⟨0, 0⟩⟩]] := by
  have reachable : Reachable (Tame PowerWiring) scheduledPoles :=
    ⟨_, .empty poleTable ⟨0⟩, run_scheduledPoles⟩
  have fresh : ⟨1⟩ ≠ scheduledPoles.entities.id := by decide +kernel
  exact ⟨reachable, fresh, fun _ => list_of_holds_scheduledPoles,
    reachable.faithful_duplicate fresh fun _ => list_of_holds_scheduledPoles,
    by decide +kernel, by decide +kernel⟩

end Blueprint
end FactoryBlueprint
