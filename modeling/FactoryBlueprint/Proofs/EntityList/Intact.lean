import FactoryBlueprint.Proofs.EntityList.Coherence

/-! # Intact entity lists

`EntityList.Intact` says what a caller can rely on when walking a list: where every key is, what
stands there, and what the index finds. It is what a coherent list amounts to.
-/

namespace FactoryBlueprint

/-- The sum of the positions of nested groups, the outermost first. -/
def Arena.offsetOf (arena : Arena Placed) (groups : List Key) : Point :=
  groups.foldl (fun offset group => offset + ((arena.get? group).map Placed.position).getD .zero)
    .zero

/-- Under the key is a group. -/
def Arena.IsGroup (arena : Arena Placed) (key : Key) : Prop :=
  ∃ site id position, arena.get? key = some ⟨site, .group id position⟩

theorem Arena.offsetOf_nil (arena : Arena Placed) : arena.offsetOf [] = .zero := List.foldl_nil

theorem Arena.offsetOf_concat (arena : Arena Placed) (groups : List Key) {group : Key}
    {site : Site} {id : Option String} {position : Point}
    (found : arena.get? group = some ⟨site, .group id position⟩) :
    arena.offsetOf (groups ++ [group]) = arena.offsetOf groups + position := by
  simp [offsetOf, found, Placed.position]

/-- In a member that stands, every key leads to an object that knows the group listing it, the
innermost of the groups around it, and whose offset sums up all of them; and these are groups. -/
theorem Member.Stands.of_mem_places {arena : Arena Placed} {site : Site} {member : Member}
    (stands : member.Stands arena site) {around : List Key} (listed : site.parent = around.getLast?)
    (sum : site.offset = arena.offsetOf around) (groups : ∀ group ∈ around, arena.IsGroup group)
    {above : List Key} {key : Key} (mem : (above, key) ∈ member.places around) :
    (∃ placed, arena.get? key = some placed ∧ placed.parent = above.getLast? ∧
        placed.offset = arena.offsetOf above) ∧
      ∀ group ∈ above, arena.IsGroup group := by
  induction stands generalizing around with
  | entity found =>
    obtain ⟨rfl, rfl⟩ := Prod.mk.inj (List.mem_singleton.mp mem)
    exact ⟨⟨_, found, listed, sum⟩, groups⟩
  | @group site top members id position found _ ih =>
    rcases List.mem_cons.mp mem with same | below
    · obtain ⟨rfl, rfl⟩ := Prod.mk.inj same
      exact ⟨⟨_, found, listed, sum⟩, groups⟩
    · rw [placesOfAll_eq] at below
      obtain ⟨member, here, inside⟩ := List.mem_flatMap.mp below
      refine ih member here ?_ ?_ ?_ inside
      · rw [List.getLast?_concat]
        rfl
      · rw [arena.offsetOf_concat around found, Site.offset_within, sum]
      · refine List.forall_mem_append.mpr ⟨groups, List.forall_mem_singleton.mpr ?_⟩
        exact ⟨site, id, position, found⟩

namespace EntityList

/-- Where every key is, what stands there and what the index finds. -/
structure Intact (table : PrototypeTable) (list : EntityList) : Prop where
  /-- A walk visits every key that is stored once, and no other. -/
  visits : ∀ key, (Member.keysOfAll list.members).count key = if list.contains key then 1 else 0
  /-- A key is in one place: the same groups are around it wherever a walk comes upon it. -/
  place : ∀ above around key, (above, key) ∈ Member.placesOfAll [] list.members →
    (around, key) ∈ Member.placesOfAll [] list.members → above = around
  /-- What is around a key are groups. The innermost of them, which lists the key, is the parent of
  the object, and their positions add up to its offset. A top member has no parent. -/
  site : ∀ around key, (around, key) ∈ Member.placesOfAll [] list.members →
    (∀ group ∈ around, list.arena.IsGroup group) ∧
      ∃ placed, list.get? key = some placed ∧ placed.parent = around.getLast? ∧
        placed.offset = list.arena.offsetOf around
  /-- The index holds the entities and no group, each with its box in the blueprint. -/
  index : ∀ key, list.index.box? key = (list.get? key).bind (·.worldBox? table)
  /-- The leaves are the entities, each once. -/
  nodup_leaves : list.leaves.Nodup
  mem_leaves : ∀ key, key ∈ list.leaves ↔ (list.entity? key).isSome
  /-- A query finds entities only. -/
  query : ∀ area, ∀ key ∈ list.index.query area, (list.entity? key).isSome

theorem Coherent.intact {table : PrototypeTable} {list : EntityList}
    (coherent : list.Coherent table) : list.Intact table where
  visits := by
    intro key
    split
    · rename_i stored
      exact List.count_eq_one_of_mem coherent.nodup ((coherent.contains_iff key).mp stored)
    · rename_i missing
      exact List.count_eq_zero.mpr fun mem => missing ((coherent.contains_iff key).mpr mem)
  place := by
    intro above around key first second
    have nodup := coherent.nodup
    rw [← Member.map_snd_placesOfAll []] at nodup
    exact congrArg Prod.fst (List.inj_on_of_nodup_map nodup first second rfl)
  site := by
    intro around key mem
    rw [Member.placesOfAll_eq] at mem
    obtain ⟨member, here, inside⟩ := List.mem_flatMap.mp mem
    have stands := coherent.stands member here
    have sum := list.arena.offsetOf_nil.symm
    exact (stands.of_mem_places rfl sum (by simp) inside).symm
  index := coherent.indexed
  nodup_leaves := coherent.nodup_leaves
  mem_leaves := coherent.mem_leaves_iff
  query := by
    intro area key found
    obtain ⟨box, boxed, -⟩ := SpatialIndex.box?_of_mem_query found
    rw [coherent.indexed] at boxed
    obtain ⟨placed, stored, boxed⟩ := Option.bind_eq_some_iff.mp boxed
    obtain ⟨entity, isEntity, -⟩ := Option.map_eq_some_iff.mp boxed
    simp [entity?, stored, isEntity]

end EntityList
end FactoryBlueprint
