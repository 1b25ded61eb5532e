import FactoryBlueprint.Proofs.Blueprint.Fits
import FactoryBlueprint.Proofs.EntityList.Placing

/-! # What holds of every entity

A property that merging keeps holds of every entity of a list as long as it holds of those that come
in, whether operations succeed or not.
-/

namespace FactoryBlueprint.EntityList

/-- Every entity of the list has the property. -/
def Every (property : Entity → Prop) (list : EntityList) : Prop :=
  ∀ key entity, list.entity? key = some entity → property entity

/-- The property is kept where two entities that have it merge. -/
def KeptByMerging (property : Entity → Prop) : Prop :=
  ∀ entity other : Entity, property entity → property other → property (entity.merge other)

variable {property : Entity → Prop} {list : EntityList}

theorem every_empty (property : Entity → Prop) (id : ListId) : (EntityList.empty id).Every property := by
  intro key entity found
  simp [entity?, get?, EntityList.empty] at found

theorem every_clear (property : Entity → Prop) (list : EntityList) : list.clear.Every property := by
  intro key entity found
  simp [entity?, get?, EntityList.clear] at found

/-- A list that holds no other entities has the property too. -/
theorem Every.of_subset {after : EntityList} (every : list.Every property)
    (subset : ∀ key entity, after.entity? key = some entity → list.entity? key = some entity) :
    after.Every property :=
  fun key entity found => every key entity (subset key entity found)

theorem Every.discard (every : list.Every property) (member : Member) :
    (list.discard member).Every property := by
  refine every.of_subset fun key entity found => ?_
  simp only [entity?, get?, EntityList.discard, Arena.get?_removeAll] at found ⊢
  split at found
  · contradiction
  · exact found

/-! ### Placing -/

theorem Every.append (every : list.Every property) {placed : Placed} {index : SpatialIndex}
    (here : ∀ entity ∈ placed.entity?, property entity) :
    ({ list with arena := list.arena.insert placed, index := index } : EntityList).Every
      property := by
  intro key entity found
  simp only [entity?, get?, Arena.get?_insert] at found
  split at found
  · exact here entity found
  · exact every key entity found

theorem Every.mapEntity (every : list.Every property) {key : Key} {f : Entity → Entity}
    {index : SpatialIndex} (kept : ∀ entity, property entity → property (f entity)) :
    ({ list with arena := list.arena.modify key (·.mapEntity f), index := index } :
      EntityList).Every property := by
  intro other entity found
  simp only [entity?, get?, Arena.get?_modify] at found
  split at found
  · rename_i same
    subst same
    obtain ⟨placed, inArena, isEntity⟩ := Option.bind_eq_some_iff.mp found
    obtain ⟨old, there, rfl⟩ := Option.map_eq_some_iff.mp inArena
    rw [Placed.entity?_mapEntity] at isEntity
    obtain ⟨before, wasEntity, rfl⟩ := Option.map_eq_some_iff.mp isEntity
    refine kept before (every other before ?_)
    rw [entity?, get?, there]
    exact wasEntity
  · exact every other entity found

theorem Every.placeEntity (every : list.Every property) (merging : KeptByMerging property)
    (table : PrototypeTable) (merge : Bool) (site : Site) {entity : Entity}
    (here : property entity) : (list.placeEntity table merge site entity).1.Every property := by
  simp only [EntityList.placeEntity]
  split
  · exact every.mapEntity fun old before => merging old entity before here
  · refine every.append fun other same => ?_
    obtain rfl := Option.some.inj same
    exact here

mutual

theorem Every.place (merging : KeptByMerging property) (table : PrototypeTable) (merge : Bool)
    (site : Site) : (item : Item) → (list : EntityList) → (∀ e ∈ item.entities, property e) →
      list.Every property → (place table merge site item list).1.Every property
  | .entity entity, list, given, every =>
    every.placeEntity merging table merge site (given entity (List.mem_singleton_self entity))
  | .group id position items, list, given, every => by
    have group : ∀ entity ∈ (⟨site, .group id position⟩ : Placed).entity?, property entity := by
      simp [Placed.entity?]
    exact Every.placeAll merging table merge (site.within list.arena.nextKey position) items _ given
      (every.append group)

theorem Every.placeAll (merging : KeptByMerging property) (table : PrototypeTable) (merge : Bool)
    (site : Site) : (items : List Item) → (list : EntityList) →
      (∀ e ∈ Item.entitiesOfAll items, property e) → list.Every property →
        (placeAll table merge site items list).1.Every property
  | [], list, _, every => every
  | item :: items, list, given, every => by
    have first := Every.place merging table merge site item list
      (fun e mem => given e (List.mem_append_left _ mem)) every
    have rest := Every.placeAll merging table merge site items _
      (fun e mem => given e (List.mem_append_right _ mem)) first
    rw [EntityList.placeAll]
    generalize EntityList.place table merge site item list = placed at rest ⊢
    obtain ⟨middle, outcome⟩ := placed
    cases outcome <;> exact rest

end

/-! ### Operations -/

theorem Every.insert (every : list.Every property) (merging : KeptByMerging property)
    (table : PrototypeTable) (mode : ValidationMode) (extent : Extent) (i : Nat) {item : Item}
    (merge : Bool) (given : ∀ e ∈ item.entities, property e) :
    (list.insert table mode extent i item merge).1.Every property := by
  have placed := Every.place merging table merge .top item list given every
  unfold EntityList.insert
  split
  · exact every
  · split
    · rename_i after key eq
      rw [eq] at placed
      exact placed
    · rename_i after member warnings eq
      rw [eq] at placed
      extract_lets accepted
      clear_value accepted
      cases accepted with
      | error error => exact placed.discard member
      | ok outcome => exact placed

theorem Every.set (every : list.Every property) (merging : KeptByMerging property)
    (table : PrototypeTable) (mode : ValidationMode) (others : List Box) (i : Nat) {item : Item}
    (given : ∀ e ∈ item.entities, property e) :
    (list.set table mode others i item).1.Every property := by
  unfold EntityList.set
  split
  · exact every
  · rename_i old present
    extract_lets oldBoxes cleared
    have start : cleared.Every property := every
    have placed := Every.place merging table false .top item cleared given start
    split
    · exact every
    · rename_i after member warnings eq
      rw [eq] at placed
      extract_lets extent accepted
      clear_value accepted
      cases accepted with
      | error error => exact placed.discard member
      | ok warnings =>
        refine placed.of_subset fun key entity found => ?_
        simp only [entity?, get?, Arena.get?_removeAll] at found ⊢
        split at found
        · contradiction
        · exact found

theorem Every.removeKey? {after : EntityList} (every : list.Every property) {key : Key}
    {item : Item} (removed : list.removeKey? key = some (item, after)) : after.Every property := by
  obtain ⟨_, member, -, -, -, rfl⟩ := removeKey?_eq_some_iff.mp removed
  exact every.discard member

theorem Every.modify? {after : EntityList} (every : list.Every property) {table : PrototypeTable}
    {key : Key} {f : Entity → Entity} (kept : ∀ entity, property entity → property (f entity))
    (modified : list.modify? table key f = some after) : after.Every property := by
  obtain ⟨_, _, -, rfl⟩ := modify?_eq_some_iff.mp modified
  exact every.mapEntity kept

theorem entity?_duplicate (list : EntityList) (table : PrototypeTable) (id : ListId) (key : Key) :
    (list.duplicate table id).entity? key =
      (list.entity? key).map (·.mapAssociations (·.rescope list.id id)) := by
  simp only [entity?, get?, EntityList.duplicate, Arena.get?_map]
  cases list.arena.get? key with
  | none => rfl
  | some placed => exact placed.entity?_mapEntity _

theorem Every.duplicate (every : list.Every property) (table : PrototypeTable) (id : ListId)
    (kept : ∀ key entity, list.entity? key = some entity → property entity →
      property (entity.mapAssociations (·.rescope list.id id))) :
    (list.duplicate table id).Every property := by
  intro key entity found
  rw [entity?_duplicate] at found
  obtain ⟨before, stored, rfl⟩ := Option.map_eq_some_iff.mp found
  exact kept key before stored (every key before stored)

end FactoryBlueprint.EntityList
