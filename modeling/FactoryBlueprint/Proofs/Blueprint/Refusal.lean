import FactoryBlueprint.Proofs.Blueprint.Appending
import FactoryBlueprint.Proofs.Blueprint.References
import FactoryBlueprint.Proofs.EntityList.Altering

/-! # Refused insertions

A refused insertion leaves order, groups, boxes and extent as they were. Entities may have absorbed
members of a group before another member was refused, and keep what they absorbed
(`refused_group_merges`). Apart from that, every object is as it was, and where nothing can be
absorbed so is the document (`Reachable.undone_insertEntity`).
-/

namespace FactoryBlueprint

namespace EntityList

/-- An entity that is placed and absorbed by none is placed as without merging. -/
theorem placeEntity_eq_of_inserted {list after : EntityList} {table : PrototypeTable} {merge : Bool}
    {site : Site} {entity : Entity} {member : Member} {warnings : List Warning}
    (placed : list.placeEntity table merge site entity = (after, .inserted member warnings)) :
    list.placeEntity table false site entity = (after, .inserted member warnings) := by
  simp only [placeEntity] at placed ⊢
  split at placed
  · simp at placed
  · exact placed

/-- A single entity is refused as it would be without merging. -/
theorem insert_entity_eq_of_error {list : EntityList} {table : PrototypeTable}
    {mode : ValidationMode} {extent : Extent} {i : Nat} {entity : Entity} {merge : Bool}
    {error : Error}
    (refused : (list.insert table mode extent i (.entity entity) merge).2 = .error error) :
    list.insert table mode extent i (.entity entity) merge =
      list.insert table mode extent i (.entity entity) false := by
  unfold EntityList.insert at refused ⊢
  by_cases beyond : list.length < i
  · simp only [if_pos beyond]
  · simp only [if_neg beyond, place] at refused ⊢
    cases placed : list.placeEntity table merge .top entity with
    | mk after outcome =>
      cases outcome with
      | merged key => simp [placed] at refused
      | inserted member warnings => rw [placeEntity_eq_of_inserted placed]

end EntityList

namespace Blueprint

variable {blueprint after : Blueprint}

/-- The document tells no more of the entity list than its order and what stands under its keys. -/
theorem toDocument_congr {entities : EntityList} (id : entities.id = blueprint.entities.id)
    (members : entities.members = blueprint.entities.members)
    (same : ∀ key, entities.get? key = blueprint.entities.get? key) :
    toDocument { blueprint with entities := entities } = blueprint.toDocument := by
  have leaves : entities.leaves = blueprint.entities.leaves := by
    rw [EntityList.leaves, members, EntityList.leaves]
  have numbering : numbering { blueprint with entities := entities } = blueprint.numbering := by
    simp only [Blueprint.numbering, id, leaves]
  have placed : placedEntities { blueprint with entities := entities } = blueprint.placedEntities := by
    simp only [placedEntities, leaves, same]
  unfold toDocument exportEntities exportSchedules
  rw [numbering, placed]
  rfl

/-- What a refused insertion has done: entities may have absorbed members of the item, if merging. -/
structure Undone (merge : Bool) (item : Item) (before after : Blueprint) : Prop where
  rest : after = { before with entities := after.entities }
  id : after.entities.id = before.entities.id
  members : after.entities.members = before.entities.members
  boxes : ∀ key, after.entities.index.box? key = before.entities.index.box? key
  objects : ∀ key, ∃ others : List Entity,
    (∀ other ∈ others, merge = true ∧ other ∈ item.entities) ∧
      after.entities.get? key = (before.entities.get? key).map (·.mapEntity (·.absorb others))

/-- The objects and the document are as they were. -/
structure Untouched (before after : Blueprint) : Prop where
  objects : ∀ key, after.entities.get? key = before.entities.get? key
  document : after.toDocument = before.toDocument

theorem Untouched.refl (blueprint : Blueprint) : blueprint.Untouched blueprint := ⟨fun _ => rfl, rfl⟩

theorem Undone.refl (merge : Bool) (item : Item) (blueprint : Blueprint) :
    Undone merge item blueprint blueprint where
  rest := rfl
  id := rfl
  members := rfl
  boxes _ := rfl
  objects key := ⟨[], by simp, by simp [Placed.mapEntity_absorb_nil]⟩

/-- Without merging nothing is absorbed. -/
theorem Undone.untouched {item : Item} (undone : Undone false item blueprint after) :
    blueprint.Untouched after := by
  have same (key : Key) : after.entities.get? key = blueprint.entities.get? key := by
    obtain ⟨others, merged, found⟩ := undone.objects key
    obtain rfl : others = [] := List.eq_nil_iff_forall_not_mem.mpr fun other mem =>
      Bool.false_ne_true (merged other mem).1
    simpa [Placed.mapEntity_absorb_nil] using found
  refine ⟨same, ?_⟩
  rw [undone.rest]
  exact toDocument_congr undone.id undone.members same

theorem undone_placed (coherent : blueprint.Coherent) (own : List Warning) (mode : ValidationMode)
    (i : Nat) (item : Item) (merge : Bool) {error : Error}
    (refused : (blueprint.entities.insert blueprint.table mode blueprint.extent i item merge).2 =
      .error error) :
    Undone merge item blueprint (blueprint.placed own
      (blueprint.entities.insert blueprint.table mode blueprint.extent i item merge)).1 := by
  have vacant := coherent.entities.vacant
  have placing := EntityList.insert_sound vacant blueprint.table mode blueprint.extent i item merge
  have altered := @EntityList.altered_of_insert (· ∈ item.entities) _ vacant blueprint.table mode
    blueprint.extent i _ merge fun _ mem => mem
  generalize blueprint.entities.insert blueprint.table mode blueprint.extent i item merge = result
    at refused placing altered ⊢
  obtain ⟨entities, outcome⟩ := result
  obtain rfl : outcome = .error error := refused
  replace placing : EntityList.Placing blueprint.table [] blueprint.entities entities := placing
  refine ⟨rfl, placing.id, placing.members, fun key => placing.elsewhere key List.not_mem_nil, ?_⟩
  intro key
  cases found : blueprint.entities.get? key with
  | none =>
    refine ⟨[], by simp, ?_⟩
    exact (placing.get?_eq_none_iff key).mpr ⟨List.not_mem_nil, found⟩
  | some placed => exact altered.kept key List.not_mem_nil placed found

/-- A refused insertion leaves the blueprint as it was, but that entities may have absorbed members
of a group. Nothing at all has changed if the insertion was without merging or of a single entity,
if the place was beyond the list, or if the item was refused for its own warnings. -/
theorem Reachable.undone_insertEntity {allowed : Blueprint → Operation → Prop}
    (reachable : Reachable allowed blueprint) (i : Nat) (item : Item) (merge : Bool) {error : Error}
    (refused : (blueprint.insertEntity i item merge).2 = .error error) :
    Undone merge item blueprint (blueprint.insertEntity i item merge).1 ∧
      (merge = false ∨ (∃ entity, item = .entity entity) →
        blueprint.Untouched (blueprint.insertEntity i item merge).1) ∧
      (blueprint.entities.length < i ∨
          (∃ fault, blueprint.mode.accept (item.warnings blueprint.table) = .error fault) →
        (blueprint.insertEntity i item merge).1 = blueprint) := by
  have coherent := reachable.coherent
  unfold insertEntity at refused ⊢
  cases accepted : blueprint.mode.accept (item.warnings blueprint.table) with
  | error fault => exact ⟨.refl merge item blueprint, fun _ => .refl blueprint, fun _ => rfl⟩
  | ok own =>
    rw [accepted] at refused
    replace refused : (blueprint.entities.insert blueprint.table blueprint.mode blueprint.extent i
        item merge).2 = .error error := by
      generalize blueprint.entities.insert blueprint.table blueprint.mode blueprint.extent i item
        merge = result at refused ⊢
      obtain ⟨entities, _ | outcome⟩ := result
      · exact congrArg Except.error (Except.error.inj refused)
      · contradiction
    refine ⟨undone_placed coherent own _ i item merge refused, fun single => ?_, fun early => ?_⟩
    · rcases single with rfl | ⟨entity, rfl⟩
      · exact (undone_placed coherent own _ i item false refused).untouched
      · have same := EntityList.insert_entity_eq_of_error refused
        simp only [same]
        rw [same] at refused
        exact (undone_placed coherent own _ i (.entity entity) false refused).untouched
    · have beyond := early.resolve_right (by simp)
      simp only [EntityList.insert, if_pos beyond]
      rfl

/-! ### A group that is refused after a member merged -/

def chest : Entity := .plain "wooden-chest" ⟨0.5, 0.5⟩

/-- A blueprint with nothing but a chest. -/
def chestOnly : Blueprint := (empty .empty ⟨0⟩).append chest

/-- The same chest with a request for items. -/
def filledChest : Entity := { chest with items := [("iron-plate", 5)] }

/-- A chest that is too far away for one blueprint. -/
def farChest : Entity := .plain "wooden-chest" ⟨20000.5, 0.5⟩

/-- A chest that merges and one that is too far away. -/
def chestPair : Item := .group none .zero [.entity filledChest, .entity farChest]

theorem reachable_chestOnly : Reachable (fun _ _ => True) chestOnly :=
  ⟨_, .empty .empty ⟨0⟩, Run.start.append (.empty .empty ⟨0⟩) trivial (by decide)
    (by decide +kernel)⟩

/-- The list with the group placed: one of its members merged, the other stands under a new key. -/
def placedPair : EntityList :=
  let group := chestOnly.entities.arena.insert ⟨.top, .group none .zero⟩
  { chestOnly.entities with
    arena := (group.modify ⟨0, 0⟩ (·.mapEntity (·.merge filledChest))).insert
      ⟨Site.top.within ⟨1, 0⟩ .zero, .entity farChest⟩
    index := chestOnly.entities.index.add ⟨2, 0⟩ (farChest.worldBox .empty (.zero + .zero)) }

theorem place_chestPair : EntityList.place .empty true .top chestPair chestOnly.entities =
    (placedPair, .inserted (.group ⟨1, 0⟩ [.entity ⟨2, 0⟩]) []) := by
  let group := chestOnly.entities.arena.insert ⟨.top, .group none .zero⟩
  have near : (chestOnly.entities.index.query (filledChest.worldBox .empty (.zero + .zero))).find?
      (({ chestOnly.entities with arena := group } : EntityList).absorbs filledChest
        ((.zero + .zero) + filledChest.position)) = some ⟨0, 0⟩ := by
    apply @SpatialIndex.find?_query_add_empty ⟨0, 0⟩ (chest.worldBox .empty .zero) _ (0, 0) <;>
      decide +kernel
  have away : chestOnly.entities.index.query (farChest.worldBox .empty (.zero + .zero)) = [] := by
    apply @SpatialIndex.query_add_empty_eq_nil ⟨0, 0⟩ (chest.worldBox .empty .zero)
    decide +kernel
  simp only [chestPair, EntityList.place, EntityList.placeAll, EntityList.placeEntity,
    Site.offset_within, Site.offset_top, if_true]
  rw [near]
  dsimp only
  rw [away]
  rfl

theorem insert_chestPair : ∃ error, chestOnly.entities.insert .empty .strict chestOnly.extent 1
    chestPair true = (placedPair.discard (.group ⟨1, 0⟩ [.entity ⟨2, 0⟩]), .error error) := by
  have bounds : placedPair.bounds? (.group ⟨1, 0⟩ [.entity ⟨2, 0⟩]) =
      some (farChest.worldBox .empty (.zero + .zero)) := by
    have rooms : SpatialIndex.empty.RoomFor [⟨0, 0⟩, ⟨2, 0⟩] := .empty (by decide)
    have room : chestOnly.entities.index.Room ⟨2, 0⟩ :=
      (rooms.add (by decide) (chest.worldBox .empty .zero)).room ⟨2, 0⟩ (by decide)
    rw [EntityList.bounds?, placedPair]
    simp [Member.leaves, Member.leavesOfAll, SpatialIndex.box?_add room, Box.union?]
  have beyond : (chestOnly.extent.extendOver (farChest.worldBox .empty (.zero + .zero))).isOk =
      false := by decide +kernel
  cases extended : chestOnly.extent.extendOver (farChest.worldBox .empty (.zero + .zero)) with
  | ok grown =>
    rw [extended] at beyond
    contradiction
  | error error =>
    refine ⟨error, ?_⟩
    rw [EntityList.insert, if_neg (by decide), place_chestPair]
    simp only [EntityList.extendOver, bounds, extended]
    rfl

/-- The chest holds what the member that merged had. -/
def mergedChest : Blueprint :=
  { chestOnly with entities := placedPair.discard (.group ⟨1, 0⟩ [.entity ⟨2, 0⟩]) }

theorem addEntity_chestPair :
    ∃ error, chestOnly.addEntity chestPair true = (mergedChest, .error error) := by
  obtain ⟨error, refused⟩ := insert_chestPair
  refine ⟨error, ?_⟩
  replace refused : chestOnly.entities.insert chestOnly.table chestOnly.mode chestOnly.extent
    chestOnly.entities.length chestPair true = _ := refused
  simp only [addEntity, insertEntity]
  rw [refused]
  rfl

theorem undone_chestPair : ∃ error,
    (chestOnly.insertEntity 1 chestPair true).2 = .error error ∧
      Undone true chestPair chestOnly (chestOnly.insertEntity 1 chestPair true).1 := by
  obtain ⟨error, refused⟩ := addEntity_chestPair
  replace refused : (chestOnly.insertEntity 1 chestPair true).2 = .error error :=
    congrArg Prod.snd refused
  exact ⟨error, refused, (reachable_chestOnly.undone_insertEntity 1 chestPair true refused).1⟩

/-- A group is refused for a member that is too far away, and yet the chest holds the items of the
member beside it, which merged. -/
theorem refused_group_merges :
    Reachable (fun _ _ => True) chestOnly ∧
      (∃ error, (chestOnly.addEntity chestPair true).2 = .error error) ∧
      (chestOnly.entities.entity? ⟨0, 0⟩).map (·.items) = some [] ∧
      ((chestOnly.addEntity chestPair true).1.entities.entity? ⟨0, 0⟩).map (·.items) =
        some [("iron-plate", 5)] ∧
      chestOnly.sameDocument (chestOnly.addEntity chestPair true).1 = false := by
  obtain ⟨error, refused⟩ := addEntity_chestPair
  have items : (mergedChest.entities.entity? ⟨0, 0⟩).map (·.items) = some [("iron-plate", 5)] := rfl
  have document : chestOnly.sameDocument mergedChest = false := by decide +kernel
  rw [refused]
  exact ⟨reachable_chestOnly, ⟨error, rfl⟩, rfl, items, document⟩

end Blueprint
end FactoryBlueprint
