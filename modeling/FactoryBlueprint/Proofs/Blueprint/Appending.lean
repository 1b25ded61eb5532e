import FactoryBlueprint.Proofs.Blueprint.Extent
import FactoryBlueprint.Proofs.Blueprint.Operation
import FactoryBlueprint.Proofs.EntityList.Append

/-! # Appending single entities

Where warnings are no errors, an entity that is added without merging stands at the end of its list,
as long as the extent keeps within the limit (`addEntity_eq_append`).
-/

namespace FactoryBlueprint

/-- Only the pedantic mode refuses warnings. -/
theorem ValidationMode.exists_accept {mode : ValidationMode} (lenient : mode ≠ .pedantic)
    (warnings : List Warning) : ∃ reported, mode.accept warnings = .ok reported := by
  cases mode with
  | none => exact ⟨[], rfl⟩
  | minimum => exact ⟨[], rfl⟩
  | strict => exact ⟨warnings, rfl⟩
  | pedantic => contradiction

namespace Blueprint

variable {blueprint : Blueprint} {entity : Entity}

/-- The blueprint with an entity at the end of its list. -/
def append (blueprint : Blueprint) (entity : Entity) : Blueprint :=
  { blueprint with
    entities := blueprint.entities.append blueprint.table entity
    extent := blueprint.extent.cover (entity.worldBox blueprint.table .zero) }

theorem exists_addEntity_eq_append (vacant : blueprint.entities.Vacant)
    (lenient : blueprint.mode ≠ .pedantic)
    (within : (blueprint.extent.cover (entity.worldBox blueprint.table .zero)).oversize? = none) :
    ∃ warnings, blueprint.addEntity (.entity entity) false =
      (blueprint.append entity, .ok ⟨blueprint.entities.arena.nextKey, false, warnings⟩) := by
  obtain ⟨own, accepted⟩ := ValidationMode.exists_accept lenient
    ((Item.entity entity).warnings blueprint.table)
  obtain ⟨reported, others⟩ := ValidationMode.exists_accept lenient
    ((blueprint.entities.index.query (entity.worldBox blueprint.table .zero)).filterMap
      (blueprint.entities.collision? blueprint.table entity (.zero + entity.position)))
  have inserted := (EntityList.insert_entity_eq_ok_iff vacant).mpr
    ⟨⟨reported, others, rfl⟩, Extent.extendOver_eq_ok_iff.mpr ⟨within, rfl⟩, rfl⟩
  rw [addEntity, insertEntity, accepted]
  simp only [inserted]
  exact ⟨_, rfl⟩

theorem addEntity_eq_append (vacant : blueprint.entities.Vacant)
    (lenient : blueprint.mode ≠ .pedantic)
    (within : (blueprint.extent.cover (entity.worldBox blueprint.table .zero)).oversize? = none) :
    (blueprint.addEntity (.entity entity) false).1 = blueprint.append entity := by
  obtain ⟨warnings, added⟩ := exists_addEntity_eq_append vacant lenient within
  rw [added]

/-- A run goes on with an entity at the end of the list. -/
theorem Run.append {allowed : Blueprint → Operation → Prop} {start : Blueprint}
    (run : Run allowed start blueprint) (initial : Initial start)
    (may : allowed blueprint (.addEntity (.entity entity) false))
    (lenient : blueprint.mode ≠ .pedantic)
    (within : (blueprint.extent.cover (entity.worldBox blueprint.table .zero)).oversize? = none) :
    Run allowed start (blueprint.append entity) := by
  have vacant := (Reachable.coherent ⟨start, initial, run⟩).entities.vacant
  have next := run.step (.addEntity (.entity entity) false) may
  rwa [Operation.apply, addEntity_eq_append vacant lenient within] at next

theorem get?_append (key : Key) : (blueprint.append entity).entities.get? key =
    if key = blueprint.entities.arena.nextKey then some ⟨.top, .entity entity⟩
    else blueprint.entities.get? key :=
  blueprint.entities.get?_append blueprint.table entity key

/-- What stands in the list is the entity that was appended, or stood there before. -/
theorem forall_get?_append {property : Placed → Prop}
    (before : ∀ key placed, blueprint.entities.get? key = some placed → property placed)
    (here : property ⟨.top, .entity entity⟩) : ∀ key placed,
      (blueprint.append entity).entities.get? key = some placed → property placed := by
  intro key placed found
  rw [get?_append] at found
  split at found
  · exact Option.some.inj found ▸ here
  · exact before key placed found

end Blueprint
end FactoryBlueprint
