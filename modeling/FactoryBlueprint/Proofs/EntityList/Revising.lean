import FactoryBlueprint.Proofs.EntityList.Append
import FactoryBlueprint.Proofs.Store.Tenancy

/-! # Edits in place

Wiring edits entities where they stand. A list is `Revised` by edits, one for each key, if that is all
that has become of its objects.
-/

namespace FactoryBlueprint.EntityList

/-- The objects of a list are those of another, each entity with the edit of its key. -/
structure Revised (edit : Key → Entity → Entity) (list after : EntityList) : Prop where
  id : after.id = list.id
  objects : ∀ key, after.get? key = (list.get? key).map (·.mapEntity (edit key))
  ages : list.arena.Ages after.arena

/-- The edit of the entity under one key. -/
def editAt (key : Key) (f : Entity → Entity) (other : Key) (entity : Entity) : Entity :=
  if other = key then f entity else entity

theorem editAt_self (key : Key) (f : Entity → Entity) : editAt key f key = f :=
  funext fun _ => if_pos rfl

theorem editAt_of_ne {key other : Key} (differ : other ≠ key) (f : Entity → Entity)
    (entity : Entity) : editAt key f other entity = entity := if_neg differ

/-- Edits of one key are made one after the other. -/
theorem editAt_editAt (key : Key) (f g : Entity → Entity) (other : Key) (entity : Entity) :
    editAt key g other (editAt key f other entity) =
      editAt key (fun entity => g (f entity)) other entity := by
  by_cases here : other = key <;> simp [editAt, here]

/-- An edit that leaves the entity under its key as it is changes nothing. -/
theorem editAt_eq_self {key other : Key} {f : Entity → Entity} {entity : Entity}
    (same : other = key → f entity = entity) : editAt key f other entity = entity := by
  by_cases here : other = key
  · rw [editAt, if_pos here, same here]
  · exact editAt_of_ne here f entity

/-- Edits can be exchanged if they are of two keys, or leave the same either way. -/
theorem editAt_comm {a b : Key} {f g : Entity → Entity}
    (same : a = b → ∀ entity, g (f entity) = f (g entity)) (other : Key) (entity : Entity) :
    editAt b g other (editAt a f other entity) = editAt a f other (editAt b g other entity) := by
  by_cases first : other = a
  · subst first
    by_cases second : other = b
    · subst second
      simp [editAt, same rfl]
    · simp [editAt, second]
  · simp [editAt, first]

/-- An edit keeps what merging keeps if it does so at its key. -/
theorem fixed_editAt {f : Entity → Entity} (keeps : ∀ entity, (f entity).fixed = entity.fixed)
    (key other : Key) (entity : Entity) : (editAt key f other entity).fixed = entity.fixed := by
  unfold editAt
  split
  · exact keeps entity
  · rfl

namespace Revised

variable {list middle after : EntityList} {edit next : Key → Entity → Entity}

/-- Edits that leave every entity of the list as it is change nothing. -/
theorem of_same (list : EntityList)
    (same : ∀ key entity, list.entity? key = some entity → edit key entity = entity) :
    Revised edit list list where
  id := rfl
  objects key := by
    cases found : list.get? key with
    | none => rfl
    | some placed =>
      refine congrArg some (Placed.mapEntity_eq_self fun entity isEntity => ?_).symm
      exact same key entity (by rw [entity?, found]; exact isEntity)
  ages := .refl _

theorem trans (first : Revised edit list middle) (second : Revised next middle after) :
    Revised (fun key entity => next key (edit key entity)) list after where
  id := second.id.trans first.id
  objects key := by
    rw [second.objects, first.objects, Option.map_map]
    exact Option.map_congr fun placed _ => placed.mapEntity_mapEntity _ _
  ages := first.ages.trans second.ages

/-- Edits that come to the same on every entity of the list are the same. -/
theorem congr (revised : Revised edit list after)
    (same : ∀ key entity, list.entity? key = some entity → edit key entity = next key entity) :
    Revised next list after where
  id := revised.id
  objects key := by
    rw [revised.objects]
    refine Option.map_congr fun placed found => Placed.mapEntity_congr fun entity isEntity => ?_
    exact same key entity (by rw [entity?, Option.mem_def.mp found]; exact isEntity)
  ages := revised.ages

theorem entity?_eq (revised : Revised edit list after) (key : Key) :
    after.entity? key = (list.entity? key).map (edit key) := by
  rw [entity?, revised.objects, entity?]
  cases list.get? key with
  | none => rfl
  | some placed => exact placed.entity?_mapEntity (edit key)

end Revised

theorem revised_of_modify? {list after : EntityList} {table : PrototypeTable} {key : Key}
    {f : Entity → Entity} (modified : list.modify? table key f = some after) :
    Revised (editAt key f) list after where
  id := (members_of_modify? modified).1
  objects other := by
    rw [get?_of_modify? modified]
    split
    · rename_i same
      rw [same, editAt_self]
    · rename_i differ
      exact (Revised.of_same list fun key entity _ => editAt_of_ne differ f entity).objects other
  ages := by
    obtain ⟨offset, entity, -, rfl⟩ := modify?_eq_some_iff.mp modified
    exact list.arena.ages_modify key _

/-- An entity can be edited if it is there. -/
theorem modify?_eq_none_iff {list : EntityList} {table : PrototypeTable} {key : Key}
    {f : Entity → Entity} : list.modify? table key f = none ↔ list.entity? key = none := by
  simp only [modify?, entity?]
  cases list.get? key with
  | none => simp
  | some placed => cases isEntity : placed.entity? <;> simp [isEntity]

end FactoryBlueprint.EntityList
