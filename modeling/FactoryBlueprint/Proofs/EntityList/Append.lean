import FactoryBlueprint.Proofs.EntityList.Coherence

/-! # Appending entities and changing them in place

What reading a blueprint does to its entity list: entities are appended one by one, and each gets
its wires later.
-/

namespace FactoryBlueprint.EntityList

/-- The list with an entity at its end, under the next key. -/
def append (list : EntityList) (table : PrototypeTable) (entity : Entity) : EntityList :=
  { list with
    arena := list.arena.insert ⟨.top, .entity entity⟩
    members := list.members ++ [.entity list.arena.nextKey]
    index := list.index.add list.arena.nextKey (entity.worldBox table .zero) }

/-- An entity that is not to be merged is appended, or taken back if a warning or the extent prevents
it. -/
theorem insert_entity_eq {list : EntityList} (vacant : list.Vacant) (table : PrototypeTable)
    (mode : ValidationMode) (extent : Extent) (entity : Entity) :
    list.insert table mode extent list.length (.entity entity) false =
      match (mode.accept ((list.index.query (entity.worldBox table .zero)).filterMap
          (list.collision? table entity (.zero + entity.position)))).bind fun warnings =>
        (extent.extendOver (entity.worldBox table .zero)).map (warnings, ·) with
      | .error error =>
        (({ list.append table entity with members := list.members } : EntityList).discard
          (.entity list.arena.nextKey), .error error)
      | .ok (warnings, grown) =>
        (list.append table entity, .ok (⟨list.arena.nextKey, false, warnings⟩, grown)) := by
  simp only [EntityList.insert, place, placeEntity, extendOver, bounds?, Member.leaves,
    Nat.lt_irrefl, if_false, Bool.false_eq_true, Site.offset_top]
  have union : Box.union? ([list.arena.nextKey].filterMap
      (list.index.add list.arena.nextKey (entity.worldBox table .zero)).box?) =
        some (entity.worldBox table .zero) := by
    have room : list.index.Room list.arena.nextKey := SpatialIndex.room_nextKey vacant
    simp [SpatialIndex.box?_add room, Box.union?]
  simp only [union]
  cases mode.accept ((list.index.query (entity.worldBox table .zero)).filterMap
    (list.collision? table entity (.zero + entity.position))) with
  | error error => rfl
  | ok warnings =>
    cases extent.extendOver (entity.worldBox table .zero) with
    | error error => rfl
    | ok grown =>
      have appended : list.members.insertIdx list.length (.entity list.arena.nextKey) =
          list.members ++ [.entity list.arena.nextKey] := List.insertIdx_length_self
      simp only [bind, Except.bind, Except.map, pure, Except.pure, appended, Member.key]
      rfl

/-- An entity that is not to be merged is appended, unless a warning or the extent prevents it. -/
theorem insert_entity_eq_ok_iff {list after : EntityList} (vacant : list.Vacant)
    {table : PrototypeTable} {mode : ValidationMode} {extent grown : Extent} {entity : Entity}
    {placement : Placement} :
    list.insert table mode extent list.length (.entity entity) false =
        (after, .ok (placement, grown)) ↔
      (∃ warnings, mode.accept ((list.index.query (entity.worldBox table .zero)).filterMap
          (list.collision? table entity (.zero + entity.position))) = .ok warnings ∧
        placement = ⟨list.arena.nextKey, false, warnings⟩) ∧
      extent.extendOver (entity.worldBox table .zero) = .ok grown ∧
      after = list.append table entity := by
  rw [insert_entity_eq vacant]
  generalize (list.index.query (entity.worldBox table .zero)).filterMap
    (list.collision? table entity (.zero + entity.position)) = collisions
  cases mode.accept collisions with
  | error error => simp [Except.bind]
  | ok warnings =>
    cases extent.extendOver (entity.worldBox table .zero) with
    | error error => simp [Except.bind, Except.map]
    | ok wider =>
      simp only [Except.bind, Except.map, Prod.mk.injEq, Except.ok.injEq, exists_eq_left']
      constructor
      · rintro ⟨rfl, rfl, rfl⟩
        exact ⟨rfl, rfl, rfl⟩
      · rintro ⟨rfl, rfl, rfl⟩
        exact ⟨rfl, rfl, rfl⟩

theorem get?_append (list : EntityList) (table : PrototypeTable) (entity : Entity) (key : Key) :
    (list.append table entity).get? key =
      if key = list.arena.nextKey then some ⟨.top, .entity entity⟩ else list.get? key :=
  list.arena.get?_insert _ key

theorem vacant_append {list : EntityList} (vacant : list.Vacant) (table : PrototypeTable)
    (entity : Entity) : (list.append table entity).Vacant := by
  intro key missing
  have room : list.index.Room list.arena.nextKey := SpatialIndex.room_nextKey vacant
  rw [get?_append] at missing
  split at missing
  · contradiction
  · rename_i other
    rw [append, SpatialIndex.box?_add room, if_neg other, vacant key missing]

theorem leaves_append (list : EntityList) (table : PrototypeTable) (entity : Entity) :
    (list.append table entity).leaves = list.leaves ++ [list.arena.nextKey] := by
  simp [leaves, append, Member.leavesOfAll_eq, Member.leaves]

/-! ### Changes in place -/

/-- A change in place reaches the one entity and nothing else. -/
theorem get?_of_modify? {list after : EntityList} {table : PrototypeTable} {key : Key}
    {f : Entity → Entity} (modified : list.modify? table key f = some after) (other : Key) :
    after.get? other =
      if other = key then (list.get? key).map (·.mapEntity f) else list.get? other := by
  obtain ⟨offset, entity, -, rfl⟩ := modify?_eq_some_iff.mp modified
  exact list.arena.get?_modify key other _

theorem members_of_modify? {list after : EntityList} {table : PrototypeTable} {key : Key}
    {f : Entity → Entity} (modified : list.modify? table key f = some after) :
    after.id = list.id ∧ after.members = list.members := by
  obtain ⟨offset, entity, -, rfl⟩ := modify?_eq_some_iff.mp modified
  exact ⟨rfl, rfl⟩

end FactoryBlueprint.EntityList
