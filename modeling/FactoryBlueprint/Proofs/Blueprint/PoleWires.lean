import FactoryBlueprint.Proofs.Blueprint.Anchored
import FactoryBlueprint.Proofs.Blueprint.Appending
import FactoryBlueprint.Proofs.Blueprint.Neighbours

/-! # Copper wires between poles

Where a blueprint starts empty and only entities without wires come in, two poles list each other or
neither does (`Joined`), whatever copper wires between poles are added and removed, and whether the
calls succeed or not. The one call that could stop halfway, at a neighbour that is no entity, never
meets one (`PolesOnly.leads`).
-/

namespace FactoryBlueprint

namespace Entity

variable {entity later : Entity} {id new : ListId}

theorem mem_associations_of_neighbour {neighbour : Association}
    (mem : neighbour ∈ entity.neighbours) : neighbour ∈ entity.associations :=
  List.mem_append_right _ mem

/-- A neighbour in a copy is the neighbour of the same key in the original. -/
theorem mem_neighbours_rescope (own : ∀ association ∈ entity.associations, association.list = id)
    (key : Key) : ⟨new, key⟩ ∈ (entity.mapAssociations (·.rescope id new)).neighbours ↔
      ⟨id, key⟩ ∈ entity.neighbours := by
  simp only [mapAssociations, List.mem_map]
  constructor
  · rintro ⟨⟨list, target⟩, mem, moved⟩
    obtain rfl : list = id := own _ (mem_associations_of_neighbour mem)
    rw [Association.rescope, if_pos rfl] at moved
    obtain ⟨-, rfl⟩ := Association.mk.inj moved
    exact mem
  · exact fun mem => ⟨_, mem, if_pos rfl⟩

/-- The neighbours of a copy are as different as those of the original. -/
theorem nodup_neighbours_rescope
    (own : ∀ association ∈ entity.associations, association.list = id)
    (nodup : entity.neighbours.Nodup) :
    (entity.mapAssociations (·.rescope id new)).neighbours.Nodup := by
  refine List.Nodup.map_on (fun one mem two also same => ?_) nodup
  have first := own _ (mem_associations_of_neighbour mem)
  have second := own _ (mem_associations_of_neighbour also)
  rw [Association.rescope, Association.rescope, if_pos first, if_pos second] at same
  obtain ⟨list, target⟩ := one
  obtain ⟨other, key⟩ := two
  exact congr (congrArg Association.mk (first.trans second.symm)) (Association.mk.inj same).2

end Entity

/-! ### Pairs of poles -/

/-- Each of two entities lists the other if the other lists it, and none lists itself. -/
structure Joined (id : ListId) (a : Key) (first : Entity) (b : Key) (second : Entity) : Prop where
  both : ⟨id, b⟩ ∈ first.neighbours ↔ ⟨id, a⟩ ∈ second.neighbours
  apart : a = b → ⟨id, b⟩ ∉ first.neighbours

theorem ofWires_joined : EntityList.OfWires Joined where
  apart id a first b second away back := by
    have there : ⟨id, b⟩ ∉ first.neighbours := fun mem =>
      away (Entity.mem_associations_of_neighbour mem)
    have here : ⟨id, a⟩ ∉ second.neighbours := fun mem =>
      back (Entity.mem_associations_of_neighbour mem)
    exact ⟨iff_of_false there here, fun _ => there⟩
  congr id a first later b second last sameA sameB joined :=
    ⟨by rw [sameA.neighbours, sameB.neighbours]; exact joined.both,
      by rw [sameA.neighbours]; exact joined.apart⟩
  copy id new a first b second ownA ownB joined :=
    ⟨by rw [Entity.mem_neighbours_rescope ownA, Entity.mem_neighbours_rescope ownB]
        exact joined.both,
      by rw [Entity.mem_neighbours_rescope ownA]; exact joined.apart⟩

namespace EntityList

variable {list after : EntityList} {table : PrototypeTable}

/-- No neighbour list has a repetition, only poles have neighbours, and every neighbour is an entity
or is gone for good. -/
structure PolesOnly (table : PrototypeTable) (list : EntityList) : Prop where
  nodup : ∀ key entity, list.entity? key = some entity → entity.neighbours.Nodup
  poles : ∀ key entity, list.entity? key = some entity → entity.neighbours ≠ [] →
    entity.kind table = .electricPole
  leads : ∀ key entity, list.entity? key = some entity → ∀ neighbour ∈ entity.neighbours,
    (list.entity? neighbour.target).isSome ∨ list.arena.Spent neighbour.target

/-- Whatever leads to an entity leads to one that is there later, or to one that is gone for good. -/
theorem Altered.lasts {merge : Bool} {given : Entity → Prop} {taken : List Key}
    (altered : Altered merge given taken list after) {key : Key}
    (made : (list.entity? key).isSome ∨ list.arena.Spent key) :
    (after.entity? key).isSome ∨ after.arena.Spent key := by
  rcases made with here | gone
  · obtain ⟨entity, stored⟩ := Option.isSome_iff_exists.mp here
    obtain ⟨placed, found, isEntity⟩ := Option.bind_eq_some_iff.mp stored
    by_cases out : key ∈ taken
    · exact .inr (altered.ages.spent_of_get?_eq_none (Option.isSome_of_eq_some found)
        (altered.gone key out))
    · obtain ⟨others, -, still⟩ := altered.kept key out placed found
      refine .inl ?_
      rw [entity?, still, Option.bind_some, Placed.entity?_mapEntity, isEntity]
      rfl
  · exact .inr (altered.ages.spent key gone)

theorem Revised.lasts {edit : Key → Entity → Entity} (revised : Revised edit list after) {key : Key}
    (made : (list.entity? key).isSome ∨ list.arena.Spent key) :
    (after.entity? key).isSome ∨ after.arena.Spent key := by
  rw [revised.entity?_eq, Option.isSome_map]
  exact made.imp_right (revised.ages.spent key)

namespace PolesOnly

theorem empty (table : PrototypeTable) (id : ListId) : (EntityList.empty id).PolesOnly table :=
  ⟨every_empty _ id, every_empty _ id, every_empty _ id⟩

/-- Entities without wires may come in, and any may be taken out. -/
theorem altered {merge : Bool} {given : Entity → Prop} {taken : List Key}
    (only : list.PolesOnly table) (altered : Altered merge given taken list after)
    (unwired : ∀ entity, given entity → entity.Unwired) : after.PolesOnly table := by
  have quiet := altered.quiet unwired
  constructor
  · intro key entity stored
    rcases quiet.entities key entity stored with ⟨old, before, same⟩ | ⟨-, bare⟩
    · rw [same.neighbours]
      exact only.nodup key old before
    · rw [bare.neighbours]
      exact List.nodup_nil
  · intro key entity stored some
    rcases quiet.entities key entity stored with ⟨old, before, same⟩ | ⟨-, bare⟩
    · rw [Entity.kind_of_fixed same.fixed]
      exact only.poles key old before (same.neighbours ▸ some)
    · exact absurd bare.neighbours some
  · intro key entity stored neighbour mem
    rcases quiet.entities key entity stored with ⟨old, before, same⟩ | ⟨-, bare⟩
    · exact altered.lasts (only.leads key old before neighbour (same.neighbours ▸ mem))
    · rw [bare.neighbours] at mem
      contradiction

/-- Neighbours may be taken away. -/
theorem filtered {edit : Key → Entity → Entity} (only : list.PolesOnly table)
    (revised : Revised edit list after) (fixed : ∀ key entity, (edit key entity).fixed = entity.fixed)
    (fewer : ∀ key entity, (edit key entity).neighbours.Sublist entity.neighbours) :
    after.PolesOnly table := by
  constructor
  · intro key entity stored
    rw [revised.entity?_eq] at stored
    obtain ⟨old, before, rfl⟩ := Option.map_eq_some_iff.mp stored
    exact (only.nodup key old before).sublist (fewer key old)
  · intro key entity stored some
    rw [revised.entity?_eq] at stored
    obtain ⟨old, before, rfl⟩ := Option.map_eq_some_iff.mp stored
    rw [Entity.kind_of_fixed (fixed key old)]
    exact only.poles key old before fun none => some (List.sublist_nil.mp (none ▸ fewer key old))
  · intro key entity stored neighbour mem
    rw [revised.entity?_eq] at stored
    obtain ⟨old, before, rfl⟩ := Option.map_eq_some_iff.mp stored
    exact revised.lasts (only.leads key old before neighbour ((fewer key old).subset mem))

/-- Two poles may be joined. -/
theorem linked (only : list.PolesOnly table) {a b : Key} {first second : Entity}
    (storedA : list.entity? a = some first) (storedB : list.entity? b = some second)
    (isPoleA : first.kind table = .electricPole) (isPoleB : second.kind table = .electricPole)
    (revised : Revised (Entity.linkBoth list.id a b) list after) : after.PolesOnly table := by
  constructor
  · intro key entity stored
    rw [revised.entity?_eq] at stored
    obtain ⟨old, before, rfl⟩ := Option.map_eq_some_iff.mp stored
    exact Entity.nodup_neighbours_linkBoth (only.nodup key old before)
  · intro key entity stored some
    rw [revised.entity?_eq] at stored
    obtain ⟨old, before, rfl⟩ := Option.map_eq_some_iff.mp stored
    rw [Entity.kind_of_fixed Entity.fixed_linkBoth]
    obtain ⟨neighbour, mem⟩ := List.exists_mem_of_ne_nil _ some
    rcases Entity.mem_neighbours_linkBoth.mp mem with here | ⟨rfl, -⟩ | ⟨rfl, -⟩
    · exact only.poles key old before (List.ne_nil_of_mem here)
    · exact Option.some.inj (before.symm.trans storedA) ▸ isPoleA
    · exact Option.some.inj (before.symm.trans storedB) ▸ isPoleB
  · intro key entity stored neighbour mem
    rw [revised.entity?_eq] at stored
    obtain ⟨old, before, rfl⟩ := Option.map_eq_some_iff.mp stored
    rcases Entity.mem_neighbours_linkBoth.mp mem with here | ⟨-, rfl⟩ | ⟨-, rfl⟩
    · exact revised.lasts (only.leads key old before neighbour here)
    · exact revised.lasts (.inl (Option.isSome_of_eq_some storedB))
    · exact revised.lasts (.inl (Option.isSome_of_eq_some storedA))

theorem duplicate (only : list.PolesOnly table) (anchored : list.Anchored)
    (known : PrototypeTable) (id : ListId) : (list.duplicate known id).PolesOnly table := by
  have own {key : Key} {entity : Entity} (stored : list.entity? key = some entity) :
      ∀ association ∈ entity.associations, association.list = list.id :=
    fun association mem => (anchored key entity stored association mem).1
  constructor
  · intro key entity stored
    rw [entity?_duplicate] at stored
    obtain ⟨old, before, rfl⟩ := Option.map_eq_some_iff.mp stored
    exact Entity.nodup_neighbours_rescope (own before) (only.nodup key old before)
  · intro key entity stored some
    rw [entity?_duplicate] at stored
    obtain ⟨old, before, rfl⟩ := Option.map_eq_some_iff.mp stored
    exact only.poles key old before fun none => some (congrArg (List.map _) none)
  · intro key entity stored neighbour mem
    rw [entity?_duplicate] at stored
    obtain ⟨old, before, rfl⟩ := Option.map_eq_some_iff.mp stored
    obtain ⟨one, here, rfl⟩ := List.mem_map.mp mem
    have made := only.leads key old before one here
    rw [Association.rescope, if_pos (own before one (Entity.mem_associations_of_neighbour here)),
      entity?_duplicate, Option.isSome_map]
    exact made.imp_right ((list.arena.ages_map _).spent _)

end PolesOnly
end EntityList

namespace Blueprint

variable {blueprint : Blueprint} {table : PrototypeTable}

/-! ### Calls -/

theorem paired_addPower (paired : blueprint.entities.Paired Joined) (a b : Key) :
    (blueprint.addPower a b).1.entities.Paired Joined := by
  rcases blueprint.addPower_cases a b with same | ⟨first, second, checked, revised⟩
  · rw [same]
    exact paired
  · refine .of_revised revised fun x y one two beforeX beforeY => ?_
    have before := paired x y one two beforeX beforeY
    constructor
    · simp only [Entity.mem_neighbours_linkBoth, Association.mk.injEq, true_and]
      rw [before.both]
      tauto
    · intro here mem
      rcases Entity.mem_neighbours_linkBoth.mp mem with old | ⟨atA, toB⟩ | ⟨atB, toA⟩
      · exact before.apart here old
      · exact checked.apart (atA.symm.trans (here.trans (Association.mk.inj toB).2))
      · exact checked.apart ((Association.mk.inj toA).2.symm.trans (here.symm.trans atB))

theorem paired_removePower (paired : blueprint.entities.Paired Joined) (a b : Key) :
    (blueprint.removePower a b).1.entities.Paired Joined := by
  rcases blueprint.removePower_cases a b with same | revised
  · rw [same]
    exact paired
  · refine .of_revised revised fun x y one two beforeX beforeY => ?_
    have before := paired x y one two beforeX beforeY
    constructor
    · simp only [Entity.mem_neighbours_unlinkBoth]
      rw [before.both]
      tauto
    · intro here mem
      exact before.apart here (Entity.mem_neighbours_unlinkBoth.mp mem).1

/-- The loop over the neighbours meets none that is there and is no entity. -/
theorem revised_removeAllPower (only : blueprint.entities.PolesOnly table) (key : Key) :
    (blueprint.removeAllPower key).1 = blueprint ∨
      ∃ entity, blueprint.entities.entity? key = some entity ∧
        EntityList.Revised (Entity.isolate blueprint.entities.id entity.neighbours key)
          blueprint.entities (blueprint.removeAllPower key).1.entities := by
  rcases blueprint.removeAllPower_cases key with ⟨-, same⟩ |
    ⟨entity, stored, ⟨-, revised⟩ | ⟨-, done, group, rest, list, here, none, -⟩⟩
  · exact .inl (congrArg Prod.fst same)
  · exact .inr ⟨entity, stored, revised⟩
  · have listed : blueprint.entities.associate group ∈ entity.neighbours := by simp [list]
    rcases only.leads key entity stored _ listed with isEntity | spent
    · rw [EntityList.associate, none] at isEntity
      contradiction
    · rw [EntityList.associate] at spent
      rw [EntityList.get?, spent.get?_eq_none] at here
      contradiction

theorem paired_removeAllPower (only : blueprint.entities.PolesOnly table)
    (paired : blueprint.entities.Paired Joined) (key : Key) :
    (blueprint.removeAllPower key).1.entities.Paired Joined := by
  rcases revised_removeAllPower only key with same | ⟨entity, stored, revised⟩
  · rw [same]
    exact paired
  · refine .of_revised revised fun x y one two beforeX beforeY => ?_
    have before := paired x y one two beforeX beforeY
    constructor
    · simp only [Entity.mem_neighbours_isolate]
      -- Whoever lists the pole is listed by it, and so told of.
      by_cases atX : x = key
      · subst atX
        obtain rfl := Option.some.inj (beforeX.symm.trans stored)
        have both := before.both
        tauto
      · by_cases atY : y = key
        · subst atY
          obtain rfl := Option.some.inj (beforeY.symm.trans stored)
          have both := before.both
          tauto
        · simp only [atX, atY, and_false, not_false_eq_true, ne_eq, and_true]
          exact before.both
    · intro here mem
      exact before.apart here (Entity.mem_neighbours_isolate.mp mem).1

/-- The calls that add and remove copper wires between poles. -/
def PowerWiring (_ : Blueprint) : Operation → Prop
  | .addPower .. | .removePower .. | .removeAllPower _ => True
  | _ => False

theorem polesOnly_wire (only : blueprint.entities.PolesOnly blueprint.table) {operation : Operation}
    (power : PowerWiring blueprint operation) :
    (operation.apply blueprint).entities.PolesOnly blueprint.table := by
  cases operation with
  | addPower a b =>
    rcases blueprint.addPower_cases a b with same | ⟨first, second, checked, revised⟩
    · rw [Operation.apply, same]
      exact only
    · exact only.linked checked.storedA checked.storedB checked.isPoleA checked.isPoleB revised
  | removePower a b =>
    rcases blueprint.removePower_cases a b with same | revised
    · rw [Operation.apply, same]
      exact only
    · exact only.filtered revised (fun _ _ => Entity.fixed_unlinkBoth)
        fun _ _ => Entity.neighbours_unlinkBoth_sublist
  | removeAllPower key =>
    rcases revised_removeAllPower only key with same | ⟨entity, stored, revised⟩
    · rw [Operation.apply, same]
      exact only
    · exact only.filtered revised (fun _ _ => Entity.fixed_isolate)
        fun _ _ => Entity.neighbours_isolate_sublist
  | _ => exact power.elim

theorem paired_wire (only : blueprint.entities.PolesOnly table)
    (paired : blueprint.entities.Paired Joined) {operation : Operation}
    (power : PowerWiring blueprint operation) :
    (operation.apply blueprint).entities.Paired Joined := by
  cases operation with
  | addPower a b => exact paired_addPower paired a b
  | removePower a b => exact paired_removePower paired a b
  | removeAllPower key => exact paired_removeAllPower only paired key
  | _ => exact power.elim

/-! ### Runs -/

/-- What holds of a blueprint that tame calls and wires between poles have led to. -/
structure Poled (table : PrototypeTable) (blueprint : Blueprint) : Prop where
  tamed : Tamed Joined table blueprint
  only : blueprint.entities.PolesOnly table

theorem Poled.step (poled : Poled table blueprint) {operation : Operation}
    (tame : Tame PowerWiring blueprint operation) : Poled table (operation.apply blueprint) := by
  obtain ⟨tamed, only⟩ := poled
  refine ⟨tamed.step ofWires_joined tame fun _ => paired_wire only tamed.paired, ?_⟩
  cases tame with
  | plain plain =>
    rw [entities_apply_of_plain operation plain]
    exact only
  | alters alters unwired => exact only.altered (altered_apply tamed.coherent operation alters) unwired
  | @replaces list items unwired =>
    rcases setEntities_cases tamed.coherent list items with ⟨-, same⟩ | ⟨-, altered⟩
    · rw [Operation.apply, same]
      exact only
    · exact (EntityList.PolesOnly.empty table list).altered altered unwired
  | copies list => exact only.duplicate tamed.anchored blueprint.table list
  | wires wires power =>
    obtain rfl := tamed.table
    exact polesOnly_wire only power

theorem Run.poled {list : ListId} (run : Run (Tame PowerWiring) (empty table list) blueprint) :
    Poled table blueprint := by
  induction run with
  | start =>
    exact ⟨⟨rfl, (blank_empty table list).coherent, EntityList.anchored_empty list,
      EntityList.paired_empty Joined list⟩, .empty table list⟩
  | step operation _ tame ih => exact ih.step tame

/-- Copper wires between poles are a symmetric relation: no neighbour list has a repetition or names
its own entity, only poles have neighbours, and each of two entities lists the other if the other
lists it. -/
structure PolesMutual (blueprint : Blueprint) : Prop where
  nodup : ∀ key entity, blueprint.entities.entity? key = some entity → entity.neighbours.Nodup
  apart : ∀ key entity, blueprint.entities.entity? key = some entity →
    ∀ neighbour ∈ entity.neighbours, neighbour.target ≠ key
  poles : ∀ key entity, blueprint.entities.entity? key = some entity → entity.neighbours ≠ [] →
    entity.kind blueprint.table = .electricPole
  both : ∀ a b first second, blueprint.entities.entity? a = some first →
    blueprint.entities.entity? b = some second →
    (blueprint.entities.associate b ∈ first.neighbours ↔
      blueprint.entities.associate a ∈ second.neighbours)

/-- Copper wires between poles stay mutual, whatever is added and removed and whatever is refused. -/
theorem Run.poles_mutual {list : ListId}
    (run : Run (Tame PowerWiring) (empty table list) blueprint) : blueprint.PolesMutual := by
  obtain ⟨⟨rfl, -, anchored, paired⟩, only⟩ := run.poled
  refine ⟨only.nodup, fun key entity stored neighbour mem same => ?_, only.poles,
    fun a b first second storedA storedB => (paired a b first second storedA storedB).both⟩
  have own := (anchored key entity stored neighbour (Entity.mem_associations_of_neighbour mem)).1
  obtain ⟨_, target⟩ := neighbour
  obtain rfl := own
  obtain rfl : target = key := same
  exact (paired target target entity entity stored stored).apart rfl mem

/-! ### Two poles -/

/-- A table that knows a pole. -/
def poleTable : PrototypeTable :=
  PrototypeTable.empty.putEntity
    { EntityPrototype.building "small-electric-pole" .electricPole (.square 0.15) with
      copperReach := some 7.5 }

/-- A pole at the given place. -/
def poleAt (x : Binary64) : Entity := .plain "small-electric-pole" ⟨x, 0.5⟩

/-- A blueprint with two poles. -/
def twoPoles : Blueprint := ((empty poleTable ⟨0⟩).append (poleAt 0.5)).append (poleAt 4.5)

theorem run_twoPoles (wiring : Blueprint → Operation → Prop) :
    Run (Tame wiring) (empty poleTable ⟨0⟩) twoPoles :=
  have initial : Initial (empty poleTable ⟨0⟩) := .empty poleTable ⟨0⟩
  (Run.start.append initial (.addEntity ⟨rfl, rfl⟩) (by decide) (by decide +kernel)).append initial
    (.addEntity ⟨rfl, rfl⟩) (by decide) (by decide +kernel)

/-- The two poles joined. -/
def joinedPoles : Blueprint := (twoPoles.addPower ⟨0, 0⟩ ⟨1, 0⟩).1

theorem run_joinedPoles : Run (Tame PowerWiring) (empty poleTable ⟨0⟩) joinedPoles :=
  (run_twoPoles PowerWiring).step (.addPower ⟨0, 0⟩ ⟨1, 0⟩) (.wires trivial trivial)

theorem poles_mutual_joined : Run (Tame PowerWiring) (empty poleTable ⟨0⟩) joinedPoles ∧
    joinedPoles.PolesMutual ∧
    (joinedPoles.entities.entity? ⟨0, 0⟩).map (·.neighbours) = some [⟨⟨0⟩, ⟨1, 0⟩⟩] :=
  ⟨run_joinedPoles, run_joinedPoles.poles_mutual, by decide +kernel⟩

end Blueprint
end FactoryBlueprint
