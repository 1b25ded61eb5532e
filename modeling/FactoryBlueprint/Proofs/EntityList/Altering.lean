import FactoryBlueprint.Proofs.EntityList.Coherence
import FactoryBlueprint.Proofs.EntityList.Every
import FactoryBlueprint.Proofs.Store.Tenancy

/-! # What becomes of entities

Inserting, replacing and removing leave every object that they do not take out as it was, but that
an entity may have absorbed others that came in (`EntityList.Altered`). An operation that fails takes
nothing out. Keys of objects that are gone are spent.
-/

namespace FactoryBlueprint

/-- The entity after it absorbed others, one after the other. -/
def Entity.absorb (entity : Entity) (others : List Entity) : Entity := others.foldl merge entity

theorem Entity.absorb_append (entity : Entity) (others more : List Entity) :
    entity.absorb (others ++ more) = (entity.absorb others).absorb more :=
  List.foldl_append

theorem Entity.fixed_absorb (entity : Entity) (others : List Entity) :
    (entity.absorb others).fixed = entity.fixed := by
  induction others generalizing entity with
  | nil => rfl
  | cons other others ih => exact (ih (entity.merge other)).trans (entity.fixed_merge other)

namespace Placed

theorem mapEntity_absorb_nil (placed : Placed) : placed.mapEntity (·.absorb []) = placed :=
  mapEntity_eq_self fun _ _ => rfl

end Placed

namespace EntityList

/-- What has become of a list: objects under the keys that were taken are gone, other entities are
what they were and may have absorbed given ones if merging, and entities under new keys are given
ones that may have absorbed others. -/
structure Altered (merge : Bool) (given : Entity → Prop) (taken : List Key)
    (list after : EntityList) : Prop where
  id : after.id = list.id
  kept : ∀ key ∉ taken, ∀ placed, list.get? key = some placed →
    ∃ others : List Entity, (∀ other ∈ others, merge = true ∧ given other) ∧
      after.get? key = some (placed.mapEntity (·.absorb others))
  gone : ∀ key ∈ taken, after.get? key = none
  made : ∀ key entity, list.get? key = none → after.entity? key = some entity →
    ∃ first others, given first ∧ (∀ other ∈ others, given other) ∧ entity = first.absorb others
  ages : list.arena.Ages after.arena

namespace Altered

variable {merge : Bool} {given : Entity → Prop} {taken : List Key}
  {list middle after : EntityList}

theorem refl (merge : Bool) (given : Entity → Prop) (list : EntityList) :
    Altered merge given [] list list where
  id := rfl
  kept key _ placed found := ⟨[], by simp, by rw [placed.mapEntity_absorb_nil, found]⟩
  gone := by simp
  made key entity missing found := by simp [entity?, missing] at found
  ages := .refl _

theorem trans (first : Altered merge given [] list middle)
    (second : Altered merge given [] middle after) : Altered merge given [] list after where
  id := second.id.trans first.id
  kept key _ placed found := by
    obtain ⟨others, came, here⟩ := first.kept key List.not_mem_nil placed found
    obtain ⟨more, cameLater, there⟩ := second.kept key List.not_mem_nil _ here
    refine ⟨others ++ more, List.forall_mem_append.mpr ⟨came, cameLater⟩, ?_⟩
    rw [there, Placed.mapEntity_mapEntity]
    exact congrArg (some <| placed.mapEntity ·) (funext fun entity =>
      (entity.absorb_append others more).symm)
  gone := by simp
  made key entity missing found := by
    cases between : middle.get? key with
    | none => exact second.made key entity between found
    | some placed =>
      obtain ⟨more, cameLater, there⟩ := second.kept key List.not_mem_nil placed between
      rw [entity?, there, Option.bind_some, Placed.entity?_mapEntity] at found
      obtain ⟨old, isEntity, rfl⟩ := Option.map_eq_some_iff.mp found
      have before : middle.entity? key = some old := by rw [entity?, between]; exact isEntity
      obtain ⟨head, others, isGiven, came, rfl⟩ := first.made key old missing before
      refine ⟨head, others ++ more, isGiven, ?_, (head.absorb_append others more).symm⟩
      exact List.forall_mem_append.mpr ⟨came, fun other mem => (cameLater other mem).2⟩
  ages := first.ages.trans second.ages

/-- Only what stands under the keys counts. -/
theorem congr {members : List Member} {index : SpatialIndex}
    (altered : Altered merge given taken list after) :
    Altered merge given taken list { after with members := members, index := index } :=
  ⟨altered.id, altered.kept, altered.gone, altered.made, altered.ages⟩

theorem of_index {index : SpatialIndex}
    (altered : Altered merge given taken { list with index := index } after) :
    Altered merge given taken list after :=
  ⟨altered.id, altered.kept, altered.gone, altered.made, altered.ages⟩

/-- Objects that were there are taken out as well. -/
theorem removeAll (altered : Altered merge given [] list after) (keys : List Key)
    {members : List Member} {index : SpatialIndex} : Altered merge given keys list
      { after with arena := after.arena.removeAll keys, members := members, index := index } where
  id := altered.id
  kept key old placed found := by
    obtain ⟨others, came, here⟩ := altered.kept key List.not_mem_nil placed found
    exact ⟨others, came, by rw [get?, Arena.get?_removeAll, if_neg old]; exact here⟩
  gone key mem := by rw [get?, Arena.get?_removeAll, if_pos mem]
  made key entity missing found := by
    refine altered.made key entity missing ?_
    simp only [entity?, get?, Arena.get?_removeAll] at found ⊢
    split at found
    · contradiction
    · exact found
  ages := altered.ages.trans (after.arena.ages_removeAll keys)

/-- What came in under new keys is taken out again. -/
theorem discard (altered : Altered merge given [] list after) {member : Member}
    (fresh : ∀ key ∈ member.keys, list.get? key = none) :
    Altered merge given [] list (after.discard member) where
  id := altered.id
  kept key _ placed found := by
    have old : key ∉ member.keys := fun new => nomatch (fresh key new).symm.trans found
    exact (altered.removeAll member.keys).kept key old placed found
  gone := by simp
  made := (altered.removeAll member.keys).made
  ages := (altered.removeAll member.keys).ages

end Altered

/-! ### Placing -/

variable {given : Entity → Prop}

theorem altered_insert (merge : Bool) (given : Entity → Prop) (list : EntityList) (placed : Placed)
    (index : SpatialIndex) (isGiven : ∀ entity ∈ placed.entity?, given entity) :
    Altered merge given [] list
      { list with arena := list.arena.insert placed, index := index } where
  id := rfl
  kept key _ old found := by
    have other : key ≠ list.arena.nextKey := by
      rintro rfl
      exact nomatch list.arena.get?_nextKey.symm.trans found
    refine ⟨[], by simp, ?_⟩
    rw [old.mapEntity_absorb_nil, get?, Arena.get?_insert, if_neg other]
    exact found
  gone := by simp
  made key entity missing found := by
    simp only [entity?, get?, Arena.get?_insert] at found
    split at found
    · exact ⟨entity, [], isGiven entity found, by simp, rfl⟩
    · rw [get?] at missing
      rw [missing] at found
      contradiction
  ages := list.arena.ages_insert placed

theorem altered_merge (list : EntityList) (key : Key) {entity : Entity} (isGiven : given entity) :
    Altered true given [] list
      { list with arena := list.arena.modify key (·.mapEntity (·.merge entity)) } where
  id := rfl
  kept other _ placed found := by
    rw [get?, Arena.get?_modify]
    split
    · rename_i same
      refine ⟨[entity], by simpa using isGiven, ?_⟩
      rw [← same, ← get?, found]
      rfl
    · exact ⟨[], by simp, by rw [placed.mapEntity_absorb_nil]; exact found⟩
  gone := by simp
  made other new missing found := by
    simp only [entity?, get?, Arena.get?_modify] at found missing
    split at found
    · rename_i same
      rw [← same, missing] at found
      contradiction
    · rw [missing] at found
      contradiction
  ages := list.arena.ages_modify key _

theorem altered_placeEntity (list : EntityList) (table : PrototypeTable) (merge : Bool)
    (site : Site) {entity : Entity} (isGiven : given entity) :
    Altered merge given [] list (list.placeEntity table merge site entity).1 := by
  simp only [placeEntity]
  split
  · rename_i found
    cases merge with
    | false => contradiction
    | true => exact altered_merge list _ isGiven
  · refine altered_insert merge given list _ _ fun other same => ?_
    exact Option.some.inj same ▸ isGiven

mutual

theorem altered_place (table : PrototypeTable) (merge : Bool) (site : Site) :
    (item : Item) → (list : EntityList) → (∀ e ∈ item.entities, given e) →
      Altered merge given [] list (place table merge site item list).1
  | .entity entity, list, areGiven =>
    list.altered_placeEntity table merge site (areGiven entity (List.mem_singleton_self entity))
  | .group id position items, list, areGiven => by
    have group : ∀ entity ∈ (⟨site, .group id position⟩ : Placed).entity?, given entity := by
      simp [Placed.entity?]
    exact (altered_insert merge given list _ list.index group).trans
      (altered_placeAll table merge (site.within list.arena.nextKey position) items _ areGiven)

theorem altered_placeAll (table : PrototypeTable) (merge : Bool) (site : Site) :
    (items : List Item) → (list : EntityList) → (∀ e ∈ Item.entitiesOfAll items, given e) →
      Altered merge given [] list (placeAll table merge site items list).1
  | [], list, _ => .refl merge given list
  | item :: items, list, areGiven => by
    have first := altered_place table merge site item list fun e mem =>
      areGiven e (List.mem_append_left _ mem)
    rw [placeAll]
    generalize place table merge site item list = placed at first ⊢
    obtain ⟨middle, outcome⟩ := placed
    have rest := altered_placeAll table merge site items middle fun e mem =>
      areGiven e (List.mem_append_right _ mem)
    cases outcome <;> exact first.trans rest

end

/-! ### Operations -/

/-- Whether it succeeds or not, an insertion takes nothing out. -/
theorem altered_of_insert {list : EntityList} (vacant : list.Vacant) (table : PrototypeTable)
    (mode : ValidationMode) (extent : Extent) (i : Nat) {item : Item} (merge : Bool)
    (areGiven : ∀ e ∈ item.entities, given e) :
    Altered merge given [] list (list.insert table mode extent i item merge).1 := by
  unfold EntityList.insert
  split
  · exact .refl merge given list
  · have altered := altered_place table merge .top item list areGiven
    have sound := place_sound table merge .top item list vacant
    split
    · rename_i eq
      rw [eq] at altered
      exact altered
    · rename_i after member warnings eq
      rw [eq] at altered sound
      extract_lets accepted
      clear_value accepted
      cases accepted with
      | error error => exact altered.discard sound.1.fresh
      | ok outcome => exact altered.congr

/-- The keys of member `i`. -/
def keysAt (list : EntityList) (i : Nat) : List Key := (list.members[i]?).elim [] Member.keys

/-- What a replacement leaves: it takes out the old member if it succeeds, and nothing otherwise. -/
def Exchanged (given : Entity → Prop) (list : EntityList) (i : Nat) :
    EntityList × Except Error (Placement × Extent) → Prop
  | (after, .error _) => Altered false given [] list after
  | (after, .ok _) => Altered false given (list.keysAt i) list after

theorem exchanged_set {list : EntityList} (vacant : list.Vacant) (table : PrototypeTable)
    (mode : ValidationMode) (others : List Box) (i : Nat) {item : Item}
    (areGiven : ∀ e ∈ item.entities, given e) :
    Exchanged given list i (list.set table mode others i item) := by
  unfold EntityList.set
  split
  · exact .refl false given list
  · rename_i old present
    extract_lets oldBoxes cleared
    have altered := (altered_place table false .top item cleared areGiven).of_index
    have sound := place_sound table false .top item cleared (vacant.removeAll old.leaves)
    split
    · exact .refl false given list
    · rename_i placed member warnings eq
      rw [eq] at altered sound
      extract_lets extent accepted
      clear_value accepted
      cases accepted with
      | error error => exact (altered.discard sound.1.fresh).congr
      | ok warnings =>
        rw [Exchanged, keysAt, present]
        exact altered.removeAll old.keys

/-- A removal takes out the member that it finds. -/
theorem altered_of_removeKey? {list after : EntityList} {key : Key} {item : Item}
    (removed : list.removeKey? key = some (item, after)) (merge : Bool) (given : Entity → Prop) :
    Altered merge given ((list.member? key).elim [] Member.keys) list after := by
  obtain ⟨_, member, -, found, -, rfl⟩ := removeKey?_eq_some_iff.mp removed
  rw [found]
  exact (Altered.refl merge given list).removeAll member.keys

theorem altered_clear {table : PrototypeTable} {list : EntityList} (coherent : list.Coherent table)
    (merge : Bool) (given : Entity → Prop) :
    Altered merge given (Member.keysOfAll list.members) list list.clear where
  id := rfl
  kept key old placed found := absurd (coherent.reached key placed found) old
  gone key _ := list.arena.get?_clear key
  made key entity _ found := by simp [entity?, get?, EntityList.clear] at found
  ages := list.arena.ages_clear

end EntityList
end FactoryBlueprint
