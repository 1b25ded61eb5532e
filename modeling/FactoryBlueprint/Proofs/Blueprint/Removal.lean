import FactoryBlueprint.Proofs.Blueprint.Insertion
import FactoryBlueprint.Proofs.Blueprint.Restoration
import FactoryBlueprint.Proofs.EntityList.Cutting

/-! # Removing what was inserted

A removal takes the object under a key with everything below it, and nothing else
(`EntityList.Removes`). Right after an item came in without merging, removing it gives the item back,
and all that can be seen of the blueprint but its extent is as before
(`Reachable.removal_undoes_insertion`).
-/

namespace FactoryBlueprint

namespace EntityList

variable {table : PrototypeTable} {list after : EntityList} {key : Key} {member : Member}
  {item : Item}

/-- What a removal does to a list: the object under the key goes with everything below it, and the
rest is as it was. -/
structure Removes (before : EntityList) (key : Key) (member : Member) (after : EntityList) :
    Prop where
  id : after.id = before.id
  /-- What goes is the key and whatever is in the group under it. -/
  below : ∀ other, other ∈ member.keys ↔
    ∃ place ∈ Member.placesOfAll [] before.members, place.2 = other ∧ (other = key ∨ key ∈ place.1)
  /-- All others are in the groups that they were in, and in the same order. -/
  places : Member.placesOfAll [] after.members =
    (Member.placesOfAll [] before.members).filter (Member.Outside key ·)
  leaves : after.leaves = before.leaves.filter (· ∉ member.keys)
  objects : ∀ other, after.get? other = if other ∈ member.keys then none else before.get? other
  boxes : ∀ other,
    after.index.box? other = if other ∈ member.keys then none else before.index.box? other
  cells : ∀ cell other,
    other ∈ after.index.cell cell ↔ other ∈ before.index.cell cell ∧ other ∉ member.keys

/-- What goes is what is below the key. -/
theorem Coherent.removes (coherent : list.Coherent table) (filed : list.index.Filed)
    (removed : list.removeKey? key = some (item, after)) :
    ∃ member, list.member? key = some member ∧ list.item? member = some item ∧
      list.Removes key member after := by
  have afterCoherent := coherent.removeKey? removed
  have afterFiled := filed_removeKey? filed removed
  obtain ⟨member, found, shows, rfl⟩ := coherent.removeKey?_eq_some_iff.mp removed
  obtain ⟨site, stands⟩ := coherent.exists_stands found
  have objects := list.arena.get?_removeAll member.keys
  have boxes := coherent.box?_removeAll_leaves stands
  have left (other : Key) : entity? { list.discard member with
      members := Member.withoutAmong key list.members } other =
        if other ∈ member.keys then none else list.entity? other := by
    rw [entity?, get?, discard, objects]
    split <;> rfl
  refine ⟨member, found, shows, rfl, Member.mem_keys_iff_of_findAmong? coherent.nodup found,
    Member.placesOfAll_withoutAmong _ _, ?_, objects, boxes, fun cell other => ?_⟩
  · refine eq_filter_of_sublist (Member.leavesOfAll_withoutAmong_sublist key list.members)
      coherent.nodup_leaves fun leaf => ?_
    have kept := afterCoherent.mem_leaves_iff leaf
    rw [left] at kept
    refine kept.trans ?_
    rw [coherent.mem_leaves_iff]
    by_cases inside : leaf ∈ member.keys <;> simp [inside]
  · rw [afterFiled, filed]
    dsimp only [discard]
    rw [boxes]
    by_cases inside : other ∈ member.keys <;> simp [inside]

/-- What an insertion without merging that succeeds has done. -/
theorem exists_of_insert_eq_ok (vacant : list.Vacant) {mode : ValidationMode} {extent grown : Extent}
    {i : Nat} {placement : Placement}
    (done : list.insert table mode extent i item false = (after, .ok (placement, grown))) :
    ∃ placed member warnings, i ≤ list.members.length ∧
      place table false .top item list = (placed, .inserted member warnings) ∧
      placed.item? member = some item ∧ Placing table member.keys list placed ∧
      after = { placed with members := list.members.insertIdx i member } ∧
      placement.key = member.key := by
  obtain ⟨placed, member, warnings, standing, shows⟩ := place_shows table .top item list vacant
  have sound := place_sound table false .top item list vacant
  rw [standing] at sound
  obtain ⟨placing, -, -⟩ := sound
  have members : placed.members = list.members := placing.members
  obtain ⟨bound, ⟨host, merged, -⟩ | ⟨_, _, _, own, same, -, -, rfl, rfl⟩⟩ :=
    insert_eq_ok_iff.mp done
  · exact nomatch (Prod.mk.inj (standing.symm.trans merged)).2
  · obtain ⟨rfl, outcome⟩ := Prod.mk.inj (standing.symm.trans same)
    obtain ⟨rfl, -⟩ := Outcome.inserted.inj outcome
    exact ⟨placed, member, warnings, bound, standing, shows, placing, by rw [members], rfl⟩

/-- An item that was inserted without merging is given back by its removal, and the list is as it
was. -/
theorem Coherent.remove_of_insert (coherent : list.Coherent table) (filed : list.index.Filed)
    {mode : ValidationMode} {extent grown : Extent} {i : Nat} {placement : Placement}
    {inserted : EntityList}
    (done : list.insert table mode extent i item false = (inserted, .ok (placement, grown))) :
    ∃ after, inserted.removeKey? placement.key = some (item, after) ∧
      inserted.remove i = .ok (item, after) ∧ list.Restored after := by
  have insertedCoherent := coherent.insert mode extent i item false
  have insertedFiled := filed_insert filed coherent.vacant table mode extent i item false
  rw [done] at insertedCoherent insertedFiled
  obtain ⟨placed, member, warnings, bound, standing, shows, placing, rfl, key⟩ :=
    exists_of_insert_eq_ok coherent.vacant done
  have altered := @altered_place (fun _ => True) table false .top item list fun _ _ => trivial
  rw [standing] at altered
  have there : (list.members.insertIdx i member)[i]? = some member := by
    rw [List.getElem?_insertIdx_self, if_pos bound]
  have found : member? { placed with members := list.members.insertIdx i member } member.key =
      some member :=
    Member.findAmong?_key insertedCoherent.nodup (List.mem_of_getElem? there)
  have shown : item? { placed with members := list.members.insertIdx i member } member =
      some item := by
    rw [← shows]
    exact item?_congr member fun _ _ => rfl
  have removed := insertedCoherent.removeKey?_eq_some_iff.mpr ⟨member, found, shown, rfl⟩
  have fresh : member.key ∉ Member.keysOfAll list.members := by
    rw [← coherent.contains_iff, contains_eq, placing.fresh _ member.key_mem_keys]
    exact Bool.false_ne_true
  rw [key]
  refine ⟨_, removed, ?_, coherent.restored filed (insertedCoherent.removeKey? removed)
    (filed_removeKey? insertedFiled removed) placing.id
    (Member.withoutAmong_insertIdx fresh i) fun key => ?_⟩
  · rw [EntityList.remove, there]
    dsimp only
    rw [removed]
  · rw [get?, discard, Arena.get?_removeAll]
    split
    · rename_i new
      exact (placing.fresh key new).symm
    · rename_i old
      cases before : list.get? key with
      | none => exact (placing.get?_eq_none_iff key).mpr ⟨old, before⟩
      | some object => exact altered.get? before

end EntityList

namespace Blueprint

variable {blueprint : Blueprint}

theorem removeEntityKey_of_removeKey? {key : Key} {item : Item} {entities : EntityList}
    (removed : blueprint.entities.removeKey? key = some (item, entities)) :
    blueprint.removeEntityKey key = ({ blueprint with entities := entities }, .ok item) := by
  rw [removeEntityKey, removed]

theorem removeEntity_of_remove {i : Nat} {item : Item} {entities : EntityList}
    (removed : blueprint.entities.remove i = .ok (item, entities)) :
    blueprint.removeEntity i = ({ blueprint with entities := entities }, .ok item) := by
  rw [removeEntity, removed]
  rfl

/-- Removing what was just inserted without merging, by place or by key, gives it back. The list and
the document are as before then; the extent is that after the insertion. Whatever is stored can be
removed by its key: what is below it goes and nothing else. -/
theorem Reachable.removal_undoes_insertion {allowed : Blueprint → Operation → Prop}
    (reachable : Reachable allowed blueprint) :
    (∀ i item inserted placement,
      blueprint.insertEntity i item false = (inserted, .ok placement) →
      ∃ after, inserted.removeEntity i = (after, .ok item) ∧
        inserted.removeEntityKey placement.key = (after, .ok item) ∧
        after = { blueprint with entities := after.entities, extent := inserted.extent } ∧
        blueprint.entities.Restored after.entities ∧ after.toDocument = blueprint.toDocument) ∧
    ∀ key, blueprint.entities.contains key = true →
      ∃ member item entities,
        blueprint.removeEntityKey key = ({ blueprint with entities := entities }, .ok item) ∧
        blueprint.entities.member? key = some member ∧
        blueprint.entities.item? member = some item ∧
        blueprint.entities.Removes key member entities := by
  have coherent := reachable.coherent
  refine ⟨fun i item inserted placement done => ?_, fun key stored => ?_⟩
  · obtain ⟨own, -, entities, first, grown, listed, rfl, rfl⟩ := insertEntity_eq_ok_iff.mp done
    obtain ⟨after, byKey, byPlace, restored⟩ :=
      coherent.entities.remove_of_insert reachable.filed listed
    exact ⟨_, removeEntity_of_remove byPlace, removeEntityKey_of_removeKey? byKey, rfl, restored,
      toDocument_congr restored.id restored.members restored.objects⟩
  · obtain ⟨item, entities, removed⟩ := coherent.entities.exists_removeKey? stored
    obtain ⟨member, found, shows, removes⟩ := coherent.entities.removes reachable.filed removed
    exact ⟨member, item, entities, removeEntityKey_of_removeKey? removed, found, shows, removes⟩

/-- A group with a group in it is put before a chest and taken out again, and then the chest. -/
theorem removal_undoes_insertion_nestedGroup : Reachable (fun _ _ => True) chestOnly ∧
    (∃ inserted placement after,
      chestOnly.insertEntity 0 nestedGroup false = (inserted, .ok placement) ∧
        inserted.removeEntity 0 = (after, .ok nestedGroup) ∧
        after.toDocument = chestOnly.toDocument) ∧
    ∃ member item entities,
      chestOnly.removeEntityKey ⟨0, 0⟩ = ({ chestOnly with entities := entities }, .ok item) ∧
        chestOnly.entities.Removes ⟨0, 0⟩ member entities := by
  obtain ⟨undoes, removes⟩ := reachable_chestOnly.removal_undoes_insertion
  obtain ⟨inserted, placement, done⟩ := reachable_chestOnly.exists_inserted
    (by decide) (Nat.zero_le _) (by decide +kernel : (chestOnly.extent.coverAll
      ((nestedGroup.parts .zero).map (·.box chestOnly.table))).oversize? = none) false
  obtain ⟨after, removed, -, -, -, document⟩ := undoes 0 nestedGroup inserted placement done
  obtain ⟨member, item, entities, byKey, -, -, gone⟩ := removes ⟨0, 0⟩ rfl
  exact ⟨reachable_chestOnly, ⟨inserted, placement, after, done, removed, document⟩,
    member, item, entities, byKey, gone⟩

end Blueprint
end FactoryBlueprint
