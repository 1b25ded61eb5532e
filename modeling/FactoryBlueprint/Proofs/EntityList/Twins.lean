import FactoryBlueprint.Proofs.Entity.Relisting
import FactoryBlueprint.Proofs.EntityList.Coherence
import FactoryBlueprint.Proofs.EntityList.Every
import FactoryBlueprint.Proofs.Likeness
import FactoryBlueprint.Proofs.Store.Twins

/-! # Twin lists

Twin lists hold the same under the same keys, each under an id of its own (`EntityList.Twins`).
Cells of their indexes may list keys in another order. A copy is a twin of its original
(`twins_duplicate`).
-/

namespace FactoryBlueprint

/-- Edits of associations that come to the same on those of the entity are the same. -/
theorem Entity.mapAssociations_congr {entity : Entity} {f g : Association → Association}
    (same : ∀ association ∈ entity.associations, f association = g association) :
    entity.mapAssociations f = entity.mapAssociations g := by
  have connections : entity.connections.mapTargets f = entity.connections.mapTargets g := by
    refine Connections.eq_of_ends (fun side color => ?_) fun side => ?_
    · rw [Connections.circuit_mapTargets, Connections.circuit_mapTargets]
      refine List.map_congr_left fun far mem => ?_
      rw [same _ (List.mem_append_left _
        (Connections.mem_targets_iff.mpr (.inl ⟨side, color, far, mem, rfl⟩)))]
    · rw [Connections.copper_mapTargets, Connections.copper_mapTargets]
      refine List.map_congr_left fun far mem => ?_
      rw [same _ (List.mem_append_left _
        (Connections.mem_targets_iff.mpr (.inr ⟨side, far, mem, rfl⟩)))]
  have neighbours : entity.neighbours.map f = entity.neighbours.map g :=
    List.map_congr_left fun _ mem => same _ (List.mem_append_right _ mem)
  rw [mapAssociations, mapAssociations, connections, neighbours]

namespace Placed

/-- The object with its associations in lists under other ids. -/
def relist (rename : Equiv.Perm ListId) (placed : Placed) : Placed :=
  placed.mapEntity (·.relist rename)

variable {rename : Equiv.Perm ListId}

theorem entity?_relist (placed : Placed) :
    (placed.relist rename).entity? = placed.entity?.map (·.relist rename) :=
  placed.entity?_mapEntity _

theorem parent_relist (placed : Placed) : (placed.relist rename).parent = placed.parent := by
  obtain ⟨site, content⟩ := placed
  cases content <;> rfl

theorem worldPosition_relist (placed : Placed) :
    (placed.relist rename).worldPosition = placed.worldPosition := by
  obtain ⟨site, content⟩ := placed
  cases content <;> rfl

theorem worldBox?_relist (placed : Placed) (table : PrototypeTable) :
    (placed.relist rename).worldBox? table = placed.worldBox? table := by
  obtain ⟨site, content⟩ := placed
  cases content <;> rfl

/-- An edit that renames with the entity renames with the object. -/
theorem relist_mapEntity {placed : Placed} {f g : Entity → Entity}
    (same : ∀ entity, (f entity).relist rename = g (entity.relist rename)) :
    (placed.mapEntity f).relist rename = (placed.relist rename).mapEntity g := by
  rw [relist, relist, mapEntity_mapEntity, mapEntity_mapEntity]
  exact mapEntity_congr fun entity _ => same entity

end Placed

namespace EntityList

/-- The other list holds the same under the same keys, and is under the id that the first is renamed
to. -/
structure Twins (rename : Equiv.Perm ListId) (list other : EntityList) : Prop where
  id : other.id = rename list.id
  arena : other.arena = list.arena.map (·.relist rename)
  members : other.members = list.members
  index : list.index.Agrees other.index

variable {rename : Equiv.Perm ListId} {list other : EntityList} {table : PrototypeTable} {key : Key}

theorem twins_empty (rename : Equiv.Perm ListId) (list : ListId) :
    Twins rename (.empty list) (.empty (rename list)) :=
  ⟨rfl, (Arena.map_empty _).symm, rfl, .empty⟩

/-- What stands in a copy, if its id is not that of a list that the original refers to. -/
theorem arena_duplicate (table : PrototypeTable)
    (third : ∀ key entity, list.entity? key = some entity → ∀ association ∈ entity.associations,
      association.list ≠ list.id → rename association.list = association.list) :
    (list.duplicate table (rename list.id)).arena = list.arena.map (·.relist rename) := by
  refine Arena.map_congr fun key placed found => Placed.mapEntity_congr fun entity isEntity => ?_
  refine Entity.mapAssociations_congr fun association mem => ?_
  have stored : list.entity? key = some entity :=
    Option.bind_eq_some_iff.mpr ⟨placed, found, isEntity⟩
  exact Association.rescope_eq_relist (third key entity stored association mem)

/-- A copy is a twin, if its id is not that of a list that its original refers to. -/
theorem twins_duplicate (coherent : list.Coherent table) (filed : list.index.Filed)
    (third : ∀ key entity, list.entity? key = some entity → ∀ association ∈ entity.associations,
      association.list ≠ list.id → rename association.list = association.list) :
    Twins rename list (list.duplicate table (rename list.id)) where
  id := rfl
  arena := arena_duplicate table third
  members := rfl
  index := by
    refine .of_filed filed (coherent.filed_duplicate (rename list.id)) fun key => ?_
    rw [(coherent.duplicate (rename list.id)).indexed, coherent.indexed, EntityList.get?,
      arena_duplicate table third, Arena.get?_map, Option.bind_map]
    exact congrArg (Option.bind _) (funext fun placed => placed.worldBox?_relist table)

namespace Twins

theorem get? (twins : Twins rename list other) (key : Key) :
    other.get? key = (list.get? key).map (·.relist rename) := by
  rw [EntityList.get?, twins.arena, Arena.get?_map, EntityList.get?]

theorem entity? (twins : Twins rename list other) (key : Key) :
    other.entity? key = (list.entity? key).map (·.relist rename) := by
  rw [EntityList.entity?, twins.get?, EntityList.entity?]
  cases list.get? key with
  | none => rfl
  | some placed => exact placed.entity?_relist

theorem leaves (twins : Twins rename list other) : other.leaves = list.leaves :=
  congrArg Member.leavesOfAll twins.members

theorem contains (twins : Twins rename list other) (key : Key) :
    other.contains key = list.contains key := by
  rw [EntityList.contains, twins.arena, Arena.contains_map, EntityList.contains]

/-- An association is live in the one list if it is live in the other under its other id. -/
theorem holds (twins : Twins rename list other) (association : Association) :
    other.holds (association.relist rename) = list.holds association := by
  simp only [EntityList.holds, twins.contains, twins.id, Association.relist, rename.apply_eq_iff_eq]

theorem associate (twins : Twins rename list other) (key : Key) :
    other.associate key = (list.associate key).relist rename := by
  rw [EntityList.associate, twins.id]
  rfl

theorem worldPosition? (twins : Twins rename list other) (key : Key) :
    other.worldPosition? key = list.worldPosition? key := by
  rw [EntityList.worldPosition?, twins.get?, EntityList.worldPosition?, Option.map_map]
  exact congrArg (Option.map · _) (funext Placed.worldPosition_relist)

end Twins
end EntityList
end FactoryBlueprint
