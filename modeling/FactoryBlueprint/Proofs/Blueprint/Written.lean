import FactoryBlueprint.Blueprint.Export
import FactoryBlueprint.Proofs.Blueprint.Integrity
import FactoryBlueprint.Proofs.Document.Written

/-! # How a blueprint is written

When writing succeeds, with which document, and where its parts stand there. Keys that a blueprint
has of its own are never among its other keys, so nothing else shows where a part is left out.
-/

namespace FactoryBlueprint.Blueprint

/-! ### Other keys -/

/-- The other keys are in order, and none is a key that blueprints have of their own. -/
structure KeysApart (blueprint : Blueprint) : Prop where
  sorted : blueprint.extra.Sorted
  undeclared : ∀ name ∈ BlueprintRecord.names, blueprint.extra.lookup name = none

theorem placed_extra (blueprint : Blueprint) (own : List Warning)
    (result : EntityList × Except Error (Placement × Extent)) :
    (blueprint.placed own result).1.extra = blueprint.extra := by
  obtain ⟨list, _ | outcome⟩ := result <;> rfl

/-- No change touches the other keys. -/
theorem Change.extra {fitting : Prop} {before after : Blueprint}
    (change : Change fitting before after) : after.extra = before.extra := by
  cases change with
  | describe _ extra => exact extra
  | insertEntity _ _ _ own => exact placed_extra before own _
  | setEntity _ own => exact placed_extra before own _
  | modifyEntity key =>
    rcases before.modifyEntity_cases key _ with same | ⟨_, _, -, -, ⟨_, -, after⟩ | restored⟩
    · rw [same]
    · rw [after]
    · rw [restored]
  | setTile i =>
    simp only [Blueprint.setTile]
    split
    · rfl
    · split <;> rfl
  | _ => rfl

theorem Changes.extra {fitting : Prop} {before after : Blueprint}
    (changes : Changes fitting before after) : after.extra = before.extra := by
  induction changes with
  | refl => rfl
  | tail _ change ih => exact change.extra.trans ih

theorem Reachable.keysApart {allowed : Blueprint → Operation → Prop} {blueprint : Blueprint}
    (reachable : Reachable allowed blueprint) : blueprint.KeysApart := by
  obtain ⟨start, blank, changes⟩ := reachable.changes False False.elim
  have same := Changes.extra changes
  exact ⟨same ▸ blank.sorted, same ▸ blank.undeclared⟩

/-! ### The parts of a document -/

theorem toDocument_eq_ok_iff {blueprint : Blueprint} {document : Document} :
    blueprint.toDocument = .ok document ↔ ∃ entities schedules,
      blueprint.exportEntities blueprint.origin.toPoint = .ok entities ∧
      blueprint.exportSchedules = .ok schedules ∧
      document = blueprint.documentOf entities schedules := by
  simp only [toDocument, bind_eq_ok_iff, pure, Except.pure, Except.ok.injEq, exists_and_left,
    eq_comm (a := document)]

theorem toDocument_eq_error_iff {blueprint : Blueprint} {error : Error} :
    blueprint.toDocument = .error error ↔
      blueprint.exportEntities blueprint.origin.toPoint = .error error ∨
      (∃ entities, blueprint.exportEntities blueprint.origin.toPoint = .ok entities) ∧
        blueprint.exportSchedules = .error error := by
  simp only [toDocument, bind_eq_error_iff, pure, Except.pure, reduceCtorEq, and_false,
    exists_false, or_false, exists_and_right]

section Parts

open FactoryBlueprint.Numbering

variable {blueprint : Blueprint} (apart : blueprint.KeysApart) (entities schedules : List Document)

theorem field?_documentOf : (blueprint.documentOf entities schedules).field? "blueprint" =
    some (.object (blueprint.documentFields entities schedules)) := by
  simp [documentOf, kind, Fields.overwrite_cons, Fields.lookup_insert]

/-- Whether it is left out or not, an array under a key has its items. -/
theorem itemsAt_documentOf {key : String} {items : List Document}
    (written : (blueprint.documentFields entities schedules).lookup key =
      (unlessEmpty items).map Document.array) :
    (blueprint.documentOf entities schedules).itemsAt ["blueprint", key] = items := by
  rw [Document.itemsAt_cons, field?_documentOf, Option.map_some, Option.getD_some,
    Document.itemsAt_cons, Document.field?_object, written]
  cases items <;> rfl

include apart

/-- What stands under a key of a written blueprint. -/
theorem lookup_documentFields (key : String) :
    (blueprint.documentFields entities schedules).lookup key =
      if key = "schedules" then (unlessEmpty schedules).map Document.array
      else if key = "tiles" then
        (unlessEmpty (blueprint.tiles.tiles.map (·.write blueprint.origin))).map Document.array
      else if key = "entities" then (unlessEmpty entities).map Document.array
      else if key = "position-relative-to-grid" then
        (blueprint.positionRelativeToGrid.filter (· ≠ .zero)).map GridPosition.write
      else if key = "absolute-snapping" then
        if blueprint.absoluteSnapping then none else some (.bool false)
      else if key = "snap-to-grid" then blueprint.snappingGridSize.map GridPosition.write
      else if key = "version" then some blueprint.version.write
      else if key = "icons" then
        (unlessEmpty (blueprint.icons.map (·.write))).map Document.array
      else if key = "description" then blueprint.description.map Document.text
      else if key = "label_color" then blueprint.labelColor.map Color.write
      else if key = "label" then blueprint.label.map Document.text
      else if key = "item" then some (.text kind)
      else blueprint.extra.lookup key := by
  have free : ∀ name ∈ BlueprintRecord.names, blueprint.extra.lookup name = none := apart.undeclared
  simp only [documentFields, exportHeader, arrayField, Fields.overwrite_append,
    Fields.overwrite_cons, Fields.overwrite_nil, Fields.lookup_insert,
    Fields.lookup_overwrite_optionalField, Fields.lookup_overwrite_unless]
  by_cases isSchedules : key = "schedules"
  · cases schedules <;> simp [isSchedules, unlessEmpty, free "schedules" (by decide)]
  by_cases isTiles : key = "tiles"
  · generalize blueprint.tiles.tiles.map (·.write blueprint.origin) = tiles
    cases tiles <;> simp [isTiles, unlessEmpty, free "tiles" (by decide)]
  by_cases isEntities : key = "entities"
  · cases entities <;> simp [isEntities, unlessEmpty, free "entities" (by decide)]
  by_cases isRelative : key = "position-relative-to-grid"
  · simp [isRelative, free "position-relative-to-grid" (by decide)]
  by_cases isAbsolute : key = "absolute-snapping"
  · simp [isAbsolute, free "absolute-snapping" (by decide)]
  by_cases isSize : key = "snap-to-grid"
  · simp [isSize, free "snap-to-grid" (by decide)]
  by_cases isVersion : key = "version"
  · simp [isVersion]
  by_cases isIcons : key = "icons"
  · generalize blueprint.icons.map (·.write) = icons
    cases icons <;> simp [isIcons, unlessEmpty, free "icons" (by decide)]
  by_cases isDescription : key = "description"
  · simp [isDescription, free "description" (by decide)]
  by_cases isColor : key = "label_color"
  · simp [isColor, free "label_color" (by decide)]
  by_cases isLabel : key = "label"
  · simp [isLabel, free "label" (by decide)]
  simp [isSchedules, isTiles, isEntities, isRelative, isAbsolute, isSize, isVersion, isIcons,
    isDescription, isColor, isLabel]

theorem itemsAt_entities :
    (blueprint.documentOf entities schedules).itemsAt ["blueprint", "entities"] = entities :=
  itemsAt_documentOf entities schedules (lookup_documentFields apart entities schedules "entities")

theorem itemsAt_tiles :
    (blueprint.documentOf entities schedules).itemsAt ["blueprint", "tiles"] =
      blueprint.tiles.tiles.map (·.write blueprint.origin) :=
  itemsAt_documentOf entities schedules (lookup_documentFields apart entities schedules "tiles")

theorem itemsAt_schedules :
    (blueprint.documentOf entities schedules).itemsAt ["blueprint", "schedules"] = schedules :=
  itemsAt_documentOf entities schedules (lookup_documentFields apart entities schedules "schedules")

end Parts

end FactoryBlueprint.Blueprint
