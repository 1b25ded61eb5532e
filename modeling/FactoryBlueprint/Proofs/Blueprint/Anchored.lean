import FactoryBlueprint.Proofs.Blueprint.Wiring

/-! # Wires between two entities

Where a blueprint starts empty and only entities without wires come in, every association leads into
its own list, to an object that is there or is gone for good (`EntityList.Anchored`). So no wire waits
for an object to come, and what holds of two entities because of the wires between them only needs a
proof for the calls that wire (`Run.paired`).
-/

namespace FactoryBlueprint

namespace Entity

theorem name_of_fixed {entity later : Entity} (same : later.fixed = entity.fixed) :
    later.name = entity.name := by
  have name := congrArg Entity.name same
  exact name

theorem position_of_fixed {entity later : Entity} (same : later.fixed = entity.fixed) :
    later.position = entity.position := by
  have position := congrArg Entity.position same
  exact position

theorem kind_of_fixed {entity later : Entity} (same : later.fixed = entity.fixed)
    (table : PrototypeTable) : later.kind table = entity.kind table := by
  rw [kind, name_of_fixed same, kind]

/-- The entity has no wires and no neighbours. -/
structure Unwired (entity : Entity) : Prop where
  connections : entity.connections = .empty
  neighbours : entity.neighbours = []

/-- The entities have the same wires and differ in nothing that merging keeps. -/
structure SameWires (entity other : Entity) : Prop where
  connections : other.connections = entity.connections
  neighbours : other.neighbours = entity.neighbours
  fixed : other.fixed = entity.fixed

namespace SameWires

variable {entity other third : Entity}

theorem refl (entity : Entity) : entity.SameWires entity := ⟨rfl, rfl, rfl⟩

theorem trans (first : entity.SameWires other) (second : other.SameWires third) :
    entity.SameWires third where
  connections := second.connections.trans first.connections
  neighbours := second.neighbours.trans first.neighbours
  fixed := second.fixed.trans first.fixed

theorem associations (same : entity.SameWires other) : other.associations = entity.associations := by
  rw [Entity.associations, same.connections, same.neighbours, Entity.associations]

end SameWires

theorem Unwired.associations {entity : Entity} (unwired : entity.Unwired) :
    entity.associations = [] := by
  rw [Entity.associations, unwired.connections, unwired.neighbours]
  rfl

theorem Unwired.of_sameWires {entity other : Entity} (unwired : entity.Unwired)
    (same : entity.SameWires other) : other.Unwired :=
  ⟨same.connections.trans unwired.connections, same.neighbours.trans unwired.neighbours⟩

/-- Entities without wires bring none into another. -/
theorem sameWires_absorb {others : List Entity} (unwired : ∀ other ∈ others, other.Unwired)
    (entity : Entity) : entity.SameWires (entity.absorb others) := by
  induction others generalizing entity with
  | nil => exact .refl entity
  | cons other others ih =>
    obtain ⟨here, later⟩ := List.forall_mem_cons.mp unwired
    refine SameWires.trans ⟨?_, ?_, entity.fixed_merge other⟩ (ih later (entity.merge other))
    · rw [merge, here.connections]
      rfl
    · rw [merge, here.neighbours]
      rfl

theorem mem_associations_mapAssociations {entity : Entity} {f : Association → Association}
    {association : Association} : association ∈ (entity.mapAssociations f).associations ↔
      ∃ old ∈ entity.associations, f old = association := by
  simp only [associations, mapAssociations, List.mem_append, Connections.mem_targets_iff,
    Connections.circuit_mapTargets, Connections.copper_mapTargets, List.mem_map]
  constructor
  · rintro ((⟨side, color, _, ⟨far, mem, rfl⟩, rfl⟩ | ⟨side, _, ⟨far, mem, rfl⟩, rfl⟩) |
      ⟨old, mem, rfl⟩)
    · exact ⟨far.target, .inl (.inl ⟨side, color, far, mem, rfl⟩), rfl⟩
    · exact ⟨far.target, .inl (.inr ⟨side, far, mem, rfl⟩), rfl⟩
    · exact ⟨old, .inr mem, rfl⟩
  · rintro ⟨_, (⟨side, color, far, mem, rfl⟩ | ⟨side, far, mem, rfl⟩) | mem, rfl⟩
    · exact .inl (.inl ⟨side, color, _, ⟨far, mem, rfl⟩, rfl⟩)
    · exact .inl (.inr ⟨side, _, ⟨far, mem, rfl⟩, rfl⟩)
    · exact .inr ⟨_, mem, rfl⟩

end Entity

namespace EntityList

/-- What a list has become while no wire was touched: its entities are those that were there, with
their wires, or came in without any. -/
structure Quiet (list after : EntityList) : Prop where
  id : after.id = list.id
  entities : ∀ key entity, after.entity? key = some entity →
    (∃ old, list.entity? key = some old ∧ old.SameWires entity) ∨
      list.get? key = none ∧ entity.Unwired
  ages : list.arena.Ages after.arena

variable {list after : EntityList}

theorem Quiet.refl (list : EntityList) : list.Quiet list where
  id := rfl
  entities _ entity stored := .inl ⟨entity, stored, .refl entity⟩
  ages := .refl _

theorem Altered.quiet {merge : Bool} {given : Entity → Prop} {taken : List Key}
    (altered : Altered merge given taken list after)
    (unwired : ∀ entity, given entity → entity.Unwired) : list.Quiet after where
  id := altered.id
  entities key entity stored := by
    cases found : list.get? key with
    | none =>
      obtain ⟨first, others, isGiven, areGiven, rfl⟩ := altered.made key entity found stored
      refine .inr ⟨rfl, (unwired first isGiven).of_sameWires ?_⟩
      exact first.sameWires_absorb fun other mem => unwired other (areGiven other mem)
    | some placed =>
      have kept : key ∉ taken := fun out => by
        rw [entity?, altered.gone key out] at stored
        contradiction
      obtain ⟨others, areGiven, here⟩ := altered.kept key kept placed found
      rw [entity?, here, Option.bind_some, Placed.entity?_mapEntity] at stored
      obtain ⟨old, isEntity, rfl⟩ := Option.map_eq_some_iff.mp stored
      refine .inl ⟨old, by rw [entity?, found]; exact isEntity, ?_⟩
      exact old.sameWires_absorb fun other mem => unwired other (areGiven other mem).2
  ages := altered.ages

/-- Every association of an entity was made in the list, for an object that is there or is gone for
good. -/
def Anchored (list : EntityList) : Prop :=
  ∀ key entity, list.entity? key = some entity → ∀ association ∈ entity.associations,
    association.list = list.id ∧
      ((list.get? association.target).isSome ∨ list.arena.Spent association.target)

namespace Anchored

theorem quiet (anchored : list.Anchored) (quiet : list.Quiet after) : after.Anchored := by
  intro key entity stored association mem
  rcases quiet.entities key entity stored with ⟨old, before, same⟩ | ⟨-, unwired⟩
  · rw [same.associations] at mem
    obtain ⟨own, made⟩ := anchored key old before association mem
    exact ⟨own.trans quiet.id.symm, Arena.Issued.later made quiet.ages⟩
  · rw [unwired.associations] at mem
    contradiction

theorem rewired (anchored : list.Anchored) (rewired : list.Rewired after) : after.Anchored := by
  obtain ⟨edit, wiring, revised⟩ := rewired
  intro key entity stored association mem
  rw [revised.entity?_eq] at stored
  obtain ⟨old, before, rfl⟩ := Option.map_eq_some_iff.mp stored
  rcases (wiring key).targets old association mem with here | ⟨target, isEntity, rfl⟩
  · obtain ⟨own, made⟩ := anchored key old before association here
    exact ⟨own.trans revised.id.symm, Arena.Issued.later made revised.ages⟩
  · obtain ⟨entity, found⟩ := Option.isSome_iff_exists.mp isEntity
    obtain ⟨placed, at_, -⟩ := Option.bind_eq_some_iff.mp found
    have issued : list.arena.Issued target := .inl (Option.isSome_of_eq_some at_)
    exact ⟨revised.id.symm, issued.later revised.ages⟩

theorem duplicate (anchored : list.Anchored) (table : PrototypeTable) (id : ListId) :
    (list.duplicate table id).Anchored := by
  intro key entity stored association mem
  rw [entity?_duplicate] at stored
  obtain ⟨old, before, rfl⟩ := Option.map_eq_some_iff.mp stored
  obtain ⟨one, here, rfl⟩ := Entity.mem_associations_mapAssociations.mp mem
  obtain ⟨own, made⟩ := anchored key old before one here
  rw [Association.rescope, if_pos own]
  exact ⟨rfl, Arena.Issued.later made (list.arena.ages_map _)⟩

end Anchored

/-! ### Pairs -/

/-- The property holds of every two entities of the list. -/
def Paired (property : ListId → Key → Entity → Key → Entity → Prop) (list : EntityList) : Prop :=
  ∀ a b first second, list.entity? a = some first → list.entity? b = some second →
    property list.id a first b second

/-- A property of two entities that speaks of the wires between them. -/
structure OfWires (property : ListId → Key → Entity → Key → Entity → Prop) : Prop where
  /-- It holds where neither leads to the other. -/
  apart : ∀ id a first b second, ⟨id, b⟩ ∉ first.associations → ⟨id, a⟩ ∉ second.associations →
    property id a first b second
  /-- It needs nothing but the wires and what merging keeps. -/
  congr : ∀ id a {first later : Entity} b {second last : Entity}, first.SameWires later →
    second.SameWires last → property id a first b second → property id a later b last
  /-- It is carried over to a copy of both. -/
  copy : ∀ id new a {first : Entity} b {second : Entity},
    (∀ association ∈ first.associations, association.list = id) →
    (∀ association ∈ second.associations, association.list = id) →
    property id a first b second → property new a (first.mapAssociations (·.rescope id new)) b
      (second.mapAssociations (·.rescope id new))

namespace Paired

variable {property : ListId → Key → Entity → Key → Entity → Prop}

/-- In a list that was edited, it is to hold of every two entities with their edits. -/
theorem of_revised {edit : Key → Entity → Entity} (revised : Revised edit list after)
    (holds : ∀ a b first second, list.entity? a = some first → list.entity? b = some second →
      property list.id a (edit a first) b (edit b second)) : after.Paired property := by
  intro a b _ _ here there
  rw [revised.entity?_eq] at here there
  obtain ⟨first, storedA, rfl⟩ := Option.map_eq_some_iff.mp here
  obtain ⟨second, storedB, rfl⟩ := Option.map_eq_some_iff.mp there
  exact revised.id.symm ▸ holds a b first second storedA storedB

/-- No wire leads to an object that has just come in. -/
theorem not_mem_of_new (anchored : list.Anchored) (quiet : list.Quiet after) {a b : Key}
    {first second : Entity} (here : after.entity? a = some first)
    (there : after.entity? b = some second) (new : list.get? b = none) :
    ⟨after.id, b⟩ ∉ first.associations := by
  intro mem
  rcases quiet.entities a first here with ⟨old, before, same⟩ | ⟨-, unwired⟩
  · rw [same.associations] at mem
    rcases (anchored a old before _ mem).2 with stored | spent
    · rw [new] at stored
      contradiction
    · rw [entity?, get?, (quiet.ages.spent b spent).get?_eq_none] at there
      contradiction
  · rw [unwired.associations] at mem
    contradiction

theorem quiet (paired : list.Paired property) (laws : OfWires property)
    (anchored : list.Anchored) (quiet : list.Quiet after) : after.Paired property := by
  intro a b first second here there
  have bare {entity : Entity} {other : Key} (unwired : entity.Unwired) :
      ⟨after.id, other⟩ ∉ entity.associations := by
    rw [unwired.associations]
    exact List.not_mem_nil
  rcases quiet.entities a first here with ⟨oldA, beforeA, sameA⟩ | ⟨newA, bareA⟩
  · rcases quiet.entities b second there with ⟨oldB, beforeB, sameB⟩ | ⟨newB, bareB⟩
    · exact quiet.id ▸ laws.congr _ a b sameA sameB (paired a b oldA oldB beforeA beforeB)
    · exact laws.apart _ a first b second (not_mem_of_new anchored quiet here there newB)
        (bare bareB)
  · exact laws.apart _ a first b second (bare bareA)
      (not_mem_of_new anchored quiet there here newA)

theorem duplicate (paired : list.Paired property) (laws : OfWires property)
    (anchored : list.Anchored) (table : PrototypeTable) (id : ListId) :
    (list.duplicate table id).Paired property := by
  intro a b first second here there
  rw [entity?_duplicate] at here there
  obtain ⟨oldA, beforeA, rfl⟩ := Option.map_eq_some_iff.mp here
  obtain ⟨oldB, beforeB, rfl⟩ := Option.map_eq_some_iff.mp there
  exact laws.copy list.id id a b (fun association mem => (anchored a oldA beforeA _ mem).1)
    (fun association mem => (anchored b oldB beforeB _ mem).1) (paired a b _ _ beforeA beforeB)

end Paired

theorem anchored_empty (id : ListId) : (EntityList.empty id).Anchored := by
  intro key entity stored
  simp [entity?, get?, EntityList.empty] at stored

theorem paired_empty (property : ListId → Key → Entity → Key → Entity → Prop) (id : ListId) :
    (EntityList.empty id).Paired property := by
  intro a b first second stored
  simp [entity?, get?, EntityList.empty] at stored

end EntityList

namespace Blueprint

/-- A call that brings in no wires, and touches wires only as is allowed. -/
inductive Tame (wiring : Blueprint → Operation → Prop) (blueprint : Blueprint) :
    Operation → Prop
  | plain {operation : Operation} (plain : operation.Plain) : Tame wiring blueprint operation
  | alters {operation : Operation} (alters : operation.Alters)
      (unwired : ∀ entity ∈ operation.entities, entity.Unwired) : Tame wiring blueprint operation
  | replaces (list : ListId) {items : List Item}
      (unwired : ∀ entity ∈ Item.entitiesOfAll items, entity.Unwired) :
      Tame wiring blueprint (.setEntities list items)
  | copies (list : ListId) : Tame wiring blueprint (.duplicate list)
  | wires {operation : Operation} (wires : operation.Wires)
      (allowed : wiring blueprint operation) : Tame wiring blueprint operation

/-- An entity without wires may come in. -/
theorem Tame.addEntity {wiring : Blueprint → Operation → Prop} {blueprint : Blueprint}
    {entity : Entity} (unwired : entity.Unwired) :
    Tame wiring blueprint (.addEntity (.entity entity) false) := by
  refine .alters trivial fun other mem => ?_
  obtain rfl : other = entity := by
    simpa [Operation.entities, Operation.items, Item.entitiesOfAll, Item.entities] using mem
  exact unwired

/-- What holds of a blueprint that tame calls have led to. -/
structure Tamed (property : ListId → Key → Entity → Key → Entity → Prop) (table : PrototypeTable)
    (blueprint : Blueprint) : Prop where
  table : blueprint.table = table
  coherent : blueprint.Coherent
  anchored : blueprint.entities.Anchored
  paired : blueprint.entities.Paired property

variable {property : ListId → Key → Entity → Key → Entity → Prop} {table : PrototypeTable}
  {wiring : Blueprint → Operation → Prop} {blueprint : Blueprint}

theorem Tamed.quiet (tamed : Tamed property table blueprint) (laws : EntityList.OfWires property)
    {operation : Operation} (quiet : blueprint.entities.Quiet (operation.apply blueprint).entities) :
    Tamed property table (operation.apply blueprint) where
  table := (table_apply operation blueprint).trans tamed.table
  coherent := Changes.coherent (changes_apply operation False.elim) tamed.coherent
  anchored := tamed.anchored.quiet quiet
  paired := tamed.paired.quiet laws tamed.anchored quiet

/-- Only calls that wire need a proof of their own. -/
theorem Tamed.step (tamed : Tamed property table blueprint) (laws : EntityList.OfWires property)
    {operation : Operation} (tame : Tame wiring blueprint operation)
    (wired : operation.Wires → wiring blueprint operation →
      (operation.apply blueprint).entities.Paired property) :
    Tamed property table (operation.apply blueprint) := by
  cases tame with
  | plain plain =>
    refine tamed.quiet laws ?_
    rw [entities_apply_of_plain operation plain]
    exact .refl _
  | alters alters unwired =>
    exact tamed.quiet laws ((altered_apply tamed.coherent operation alters).quiet unwired)
  | @replaces list items unwired =>
    rcases setEntities_cases tamed.coherent list items with ⟨-, same⟩ | ⟨-, altered⟩
    · refine tamed.quiet laws ?_
      rw [Operation.apply, same]
      exact .refl _
    · -- All that was there is gone, and what came in has no wires.
      have quiet := altered.quiet unwired
      exact ⟨(table_apply (.setEntities list items) blueprint).trans tamed.table,
        Changes.coherent (changes_apply (.setEntities list items) False.elim) tamed.coherent,
        (EntityList.anchored_empty list).quiet quiet,
        (EntityList.paired_empty property list).quiet laws (EntityList.anchored_empty list) quiet⟩
  | copies list =>
    exact ⟨tamed.table, Changes.coherent (changes_apply (.duplicate list) False.elim) tamed.coherent,
      tamed.anchored.duplicate blueprint.table list,
      tamed.paired.duplicate laws tamed.anchored blueprint.table list⟩
  | wires wires allowed =>
    exact ⟨(table_apply operation blueprint).trans tamed.table,
      Changes.coherent (changes_apply operation False.elim) tamed.coherent,
      tamed.anchored.rewired (rewired_apply operation wires), wired wires allowed⟩

/-- A property of pairs that the allowed calls keep holds along every run of tame calls. -/
theorem Run.tamed (laws : EntityList.OfWires property) {list : ListId}
    (wired : ∀ blueprint operation, Tamed property table blueprint → operation.Wires →
      wiring blueprint operation → (operation.apply blueprint).entities.Paired property)
    (run : Run (Tame wiring) (empty table list) blueprint) : Tamed property table blueprint := by
  induction run with
  | start =>
    exact ⟨rfl, (blank_empty table list).coherent, EntityList.anchored_empty list,
      EntityList.paired_empty property list⟩
  | step operation _ tame ih => exact ih.step laws tame (wired _ operation ih)

end Blueprint
end FactoryBlueprint
