import FactoryBlueprint.Proofs.Blueprint.CircuitWires
import FactoryBlueprint.Proofs.Blueprint.References
import FactoryBlueprint.Proofs.Blueprint.Restoration
import FactoryBlueprint.Proofs.Blueprint.WiringRefusal
import FactoryBlueprint.Proofs.Number.Extremes
import FactoryBlueprint.Proofs.Store.Twins

/-! # Red and green wires added and removed

A wire that is added or removed is edited at both ends: at two entities, or at the two terminals of
one. So removing a wire that was new takes both edits back, adding it twice does no more than adding
it once, and it does not matter which end is named first (`Reachable.circuit_undone`).
-/

namespace FactoryBlueprint

/-! ### Edits in place -/

namespace EntityList

variable {table : PrototypeTable} {list middle after one two : EntityList}
  {edit next : Key → Entity → Entity} {key : Key} {f : Entity → Entity}

/-- Entities have been edited where they stand, and the rest is as it was. -/
structure InPlace (table : PrototypeTable) (edit : Key → Entity → Entity)
    (list after : EntityList) : Prop extends Revised edit list after where
  members : after.members = list.members
  tenancies : list.arena.SameTenancies after.arena
  coherent : list.Coherent table → after.Coherent table
  filed : list.Coherent table → list.index.Filed → after.index.Filed

namespace InPlace

theorem refl (table : PrototypeTable) (list : EntityList) :
    InPlace table (fun _ entity => entity) list list where
  toRevised := .of_same list fun _ _ _ => rfl
  members := rfl
  tenancies := ⟨rfl, fun _ => rfl⟩
  coherent coherent := coherent
  filed _ filed := filed

theorem trans (first : InPlace table edit list middle) (second : InPlace table next middle after) :
    InPlace table (fun key entity => next key (edit key entity)) list after where
  toRevised := first.toRevised.trans second.toRevised
  members := second.members.trans first.members
  tenancies := first.tenancies.trans second.tenancies
  coherent coherent := second.coherent (first.coherent coherent)
  filed coherent filed := second.filed (first.coherent coherent) (first.filed coherent filed)

theorem congr (edited : InPlace table edit list after)
    (same : ∀ key entity, list.entity? key = some entity → edit key entity = next key entity) :
    InPlace table next list after :=
  { edited with toRevised := edited.toRevised.congr same }

theorem of_modify? (modified : list.modify? table key f = some after) :
    InPlace table (editAt key f) list after where
  toRevised := revised_of_modify? modified
  members := (members_of_modify? modified).2
  tenancies := by
    obtain ⟨site, entity, -, rfl⟩ := modify?_eq_some_iff.mp modified
    exact .of_modify list.arena key _
  coherent coherent := coherent.modify? modified
  filed coherent filed := filed_modify? filed coherent modified

/-- The same edits leave the same, but for the order of the keys in the cells of the index. -/
theorem unique (first : InPlace table edit list one) (second : InPlace table edit list two)
    (coherent : list.Coherent table) (filed : list.index.Filed) :
    two = { one with index := two.index } ∧ one.index.Restored two.index := by
  have objects (key : Key) : two.get? key = one.get? key := by rw [second.objects, first.objects]
  have arena : two.arena = one.arena :=
    (first.tenancies.symm.trans second.tenancies).eq objects
  have restored := (first.coherent coherent).restored (first.filed coherent filed)
    (second.coherent coherent) (second.filed coherent filed) (second.id.trans first.id.symm)
    (second.members.trans first.members.symm) objects
  refine ⟨?_, restored.index⟩
  obtain ⟨id, _, members, _⟩ := two
  obtain rfl : id = one.id := restored.id
  obtain rfl : members = one.members := restored.members
  obtain rfl : _ = one.arena := arena
  rfl

end InPlace
end EntityList

/-! ### Lengths -/

/-- A distance is the same from both ends. -/
theorem Point.distance_comm (p q : Point) : p.distance q = q.distance p := by
  have square (x y : Binary64) : (x - y) * (x - y) = (y - x) * (y - x) := by
    rw [← Binary64.abs_mul_abs_self, Binary64.abs_sub_comm, Binary64.abs_mul_abs_self]
  rw [distance, distance, square, square p.y]

/-! ### The edits of one end -/

namespace Entity

variable {entity : Entity} {color : WireColor} {side other : CircuitSide}
  {far near : WireEnd Association} {key : Key} {terminal : Option Nat}

/-- The entity with a wire more. -/
def wire (side : CircuitSide) (color : WireColor) (far : WireEnd Association) (entity : Entity) :
    Entity :=
  { entity with connections := entity.connections.addCircuit side color far }

/-- The entity without the wires of a colour from one terminal to another. -/
def unwire (side : CircuitSide) (color : WireColor) (key : Key) (terminal : Option Nat)
    (entity : Entity) : Entity :=
  { entity with connections := entity.connections.removeCircuit side color key terminal }

theorem wire_wire (side : CircuitSide) (color : WireColor) (far : WireEnd Association)
    (entity : Entity) : wire side color far (wire side color far entity) = wire side color far entity :=
  congrArg (fun connections => { entity with connections := connections })
    (Connections.addCircuit_addCircuit far)

theorem wire_comm (apart : side ≠ other) (entity : Entity) :
    wire other color near (wire side color far entity) =
      wire side color far (wire other color near entity) :=
  congrArg (fun connections => { entity with connections := connections })
    (Connections.modifyCircuit_comm (fun same => apart same.1) _ _)

theorem unwire_wire_comm (apart : side ≠ other) (entity : Entity) :
    unwire other color key terminal (wire side color far entity) =
      wire side color far (unwire other color key terminal entity) :=
  congrArg (fun connections => { entity with connections := connections })
    (Connections.modifyCircuit_comm (fun same => apart same.1) _ _)

theorem unwire_wire (new : far ∉ entity.connections.circuit side color)
    (own : ∀ association ∈ entity.associations, association.list = far.target.list) :
    unwire side color far.target.target far.terminal (wire side color far entity) = entity :=
  congrArg (fun connections => { entity with connections := connections })
    (Connections.removeCircuit_addCircuit new fun _ mem => own _ (mem_associations_of_circuit mem))

end Entity

namespace Blueprint

variable {blueprint once after : Blueprint} {color : WireColor} {a b key : Key}
  {sideA sideB : CircuitSide} {toA toB : WireEnd Association} {entity first second : Entity}
  {warnings : List Warning} {f g : Entity → Entity} {edit : Key → Entity → Entity}

/-! ### The edits of both ends -/

/-- The edits of both ends can be exchanged, as they are of different terminals. -/
theorem joinEdit_comm (apart : ¬(a = b ∧ sideA = sideB)) (key : Key) (entity : Entity) :
    joinEdit color b a sideB sideA toA toB key entity =
      joinEdit color a b sideA sideB toB toA key entity :=
  EntityList.editAt_comm (fun same => Entity.wire_comm fun side => apart ⟨same.symm, side.symm⟩)
    key entity

theorem joinEdit_joinEdit (apart : ¬(a = b ∧ sideA = sideB)) (key : Key) (entity : Entity) :
    joinEdit color a b sideA sideB toB toA key (joinEdit color a b sideA sideB toB toA key entity) =
      joinEdit color a b sideA sideB toB toA key entity := by
  let atA := EntityList.editAt a (Entity.wire sideA color toB) key
  let atB := EntityList.editAt b (Entity.wire sideB color toA) key
  have onceA (entity : Entity) : atA (atA entity) = atA entity := by
    simp only [atA, EntityList.editAt_editAt, Entity.wire_wire]
  have onceB (entity : Entity) : atB (atB entity) = atB entity := by
    simp only [atB, EntityList.editAt_editAt, Entity.wire_wire]
  have exchanged (entity : Entity) : atA (atB entity) = atB (atA entity) :=
    joinEdit_comm apart key entity
  calc atB (atA (atB (atA entity)))
    _ = atB (atB (atA (atA entity))) := by rw [exchanged]
    _ = atB (atA entity) := by rw [onceB, onceA]

/-- Both edits are taken back if neither end had recorded the wire. -/
theorem partEdit_joinEdit {id : ListId} {terminalA terminalB : Option Nat}
    (apart : ¬(a = b ∧ sideA = sideB))
    (own : ∀ association ∈ entity.associations, association.list = id)
    (newB : key = a → ⟨⟨id, b⟩, terminalB⟩ ∉ entity.connections.circuit sideA color)
    (newA : key = b → ⟨⟨id, a⟩, terminalA⟩ ∉ entity.connections.circuit sideB color) :
    partEdit color a b sideA sideB terminalB terminalA key
      (joinEdit color a b sideA sideB ⟨⟨id, b⟩, terminalB⟩ ⟨⟨id, a⟩, terminalA⟩ key entity) =
        entity := by
  let joinA := EntityList.editAt a (Entity.wire sideA color ⟨⟨id, b⟩, terminalB⟩) key
  let joinB := EntityList.editAt b (Entity.wire sideB color ⟨⟨id, a⟩, terminalA⟩) key
  let partA := EntityList.editAt a (Entity.unwire sideA color b terminalB) key
  let partB := EntityList.editAt b (Entity.unwire sideB color a terminalA) key
  have exchanged (entity : Entity) : partA (joinB entity) = joinB (partA entity) :=
    EntityList.editAt_comm (fun same => Entity.unwire_wire_comm fun side =>
      apart ⟨same.symm, side.symm⟩) key entity
  have backA : partA (joinA entity) = entity := by
    simp only [partA, joinA, EntityList.editAt_editAt]
    exact EntityList.editAt_eq_self fun here => Entity.unwire_wire (newB here) own
  have backB : partB (joinB entity) = entity := by
    simp only [partB, joinB, EntityList.editAt_editAt]
    exact EntityList.editAt_eq_self fun here => Entity.unwire_wire (newA here) own
  calc partB (partA (joinB (joinA entity)))
    _ = partB (joinB entity) := by rw [exchanged, backA]
    _ = entity := backB

/-! ### Calls that succeed -/

/-- Two entities that are there are edited in place, and both keys are filed again. -/
theorem exists_inPlace_modifyBoth (storedA : blueprint.entities.entity? a = some first)
    (storedB : blueprint.entities.entity? b = some second) (f g : Entity → Entity) :
    ∃ after, blueprint.modifyBoth a b f g = ({ blueprint with entities := after }, .ok ()) ∧
      EntityList.InPlace blueprint.table
        (fun key entity => EntityList.editAt b g key (EntityList.editAt a f key entity))
        blueprint.entities after ∧
      ∃ boxA boxB, after.index = (blueprint.entities.index.add a boxA).add b boxB := by
  obtain ⟨middle, after, edited, again, same⟩ := modifyBoth_of_stored storedA storedB f g
  refine ⟨after, same, (EntityList.InPlace.of_modify? edited).trans (.of_modify? again), ?_⟩
  obtain ⟨_, _, -, rfl⟩ := EntityList.modify?_eq_some_iff.mp edited
  obtain ⟨_, _, -, rfl⟩ := EntityList.modify?_eq_some_iff.mp again
  exact ⟨_, _, rfl⟩

/-- A wire that passes the check has been added at both ends. -/
structure Joins (blueprint : Blueprint) (color : WireColor) (a b : Key) (sideA sideB : CircuitSide)
    (toB toA : WireEnd Association) (warnings : List Warning) (joined : EntityList) : Prop where
  checked : blueprint.checkCircuit a b sideA sideB = .ok (toB, toA, warnings)
  added : blueprint.addCircuit color a b sideA sideB =
    ({ blueprint with entities := joined }, .ok warnings)
  inPlace : EntityList.InPlace blueprint.table (joinEdit color a b sideA sideB toB toA)
    blueprint.entities joined
  filed : ∃ boxA boxB, joined.index = (blueprint.entities.index.add a boxA).add b boxB

theorem exists_joins (color : WireColor)
    (checked : blueprint.checkCircuit a b sideA sideB = .ok (toB, toA, warnings)) :
    ∃ joined, blueprint.Joins color a b sideA sideB toB toA warnings joined := by
  obtain ⟨first, second, ends⟩ := circuitChecked_of_checkCircuit checked
  obtain ⟨joined, edited, inPlace, boxes⟩ := exists_inPlace_modifyBoth ends.storedA ends.storedB
    (Entity.wire sideA color toB) (Entity.wire sideB color toA)
  refine ⟨joined, checked, ?_, inPlace, boxes⟩
  unfold addCircuit
  rw [checked]
  exact congrArg (fun edited => (edited.1, edited.2.map fun _ => warnings)) edited

theorem exists_joins_of_addCircuit
    (added : blueprint.addCircuit color a b sideA sideB = (once, .ok warnings)) :
    ∃ toB toA joined, once = { blueprint with entities := joined } ∧
      blueprint.Joins color a b sideA sideB toB toA warnings joined := by
  cases found : blueprint.checkCircuit a b sideA sideB with
  | error error =>
    rw [addCircuit, found] at added
    obtain ⟨-, refused⟩ := Prod.mk.inj added
    contradiction
  | ok ends =>
    obtain ⟨toB, toA, own⟩ := ends
    obtain ⟨joined, joins⟩ := exists_joins color found
    obtain ⟨rfl, outcome⟩ := Prod.mk.inj (added.symm.trans joins.added)
    obtain rfl := Except.ok.inj outcome
    exact ⟨toB, toA, joined, rfl, joins⟩

/-- Wires between entities that are there are removed. -/
theorem removeCircuit_of_stored (storedA : blueprint.entities.entity? a = some first)
    (storedB : blueprint.entities.entity? b = some second) (color : WireColor)
    (sideA sideB : CircuitSide) :
    ∃ after, blueprint.removeCircuit color a b sideA sideB =
        ({ blueprint with entities := after }, .ok ()) ∧
      EntityList.InPlace blueprint.table
        (partEdit color a b sideA sideB (second.told blueprint.table sideB)
          (first.told blueprint.table sideA)) blueprint.entities after := by
  obtain ⟨after, edited, inPlace, -⟩ := exists_inPlace_modifyBoth storedA storedB
    (Entity.unwire sideA color b (second.told blueprint.table sideB))
    (Entity.unwire sideB color a (first.told blueprint.table sideA))
  obtain ⟨worldA, placedA⟩ := exists_worldPosition storedA
  obtain ⟨worldB, placedB⟩ := exists_worldPosition storedB
  have atA : blueprint.endpoint a = .ok ⟨a, first, worldA⟩ :=
    endpoint_eq_ok_iff.mpr ⟨rfl, storedA, placedA⟩
  have atB : blueprint.endpoint b = .ok ⟨b, second, worldB⟩ :=
    endpoint_eq_ok_iff.mpr ⟨rfl, storedB, placedB⟩
  refine ⟨after, ?_, inPlace⟩
  unfold removeCircuit
  rw [atA, atB]
  exact edited

/-! ### The check again -/

theorem circuitReach_congr {later : Entity} (same : later.fixed = entity.fixed)
    (entities : EntityList) (side : CircuitSide) :
    circuitReach { blueprint with entities := entities } later side =
      blueprint.circuitReach entity side := by
  simp only [circuitReach, refuse, Entity.name_of_fixed same]

/-- The check looks at nothing that is rewired. -/
theorem checkCircuit_of_revised {entities : EntityList}
    (revised : EntityList.Revised edit blueprint.entities entities)
    (fixed : ∀ key entity, (edit key entity).fixed = entity.fixed)
    (checked : blueprint.checkCircuit a b sideA sideB = .ok (toB, toA, warnings)) :
    checkCircuit { blueprint with entities := entities } a b sideA sideB =
      .ok (toB, toA, warnings) := by
  have position (key : Key) : entities.worldPosition? key =
      blueprint.entities.worldPosition? key := by
    rw [EntityList.worldPosition?, EntityList.worldPosition?, revised.objects, Option.map_map]
    refine Option.map_congr fun placed _ => ?_
    obtain ⟨site, content⟩ := placed
    cases content with
    | entity entity =>
      exact congrArg (site.offset + ·) (Entity.position_of_fixed (fixed key entity))
    | group id position => rfl
  have edited {key : Key} {endpoint : Endpoint} (found : blueprint.endpoint key = .ok endpoint) :
      Blueprint.endpoint { blueprint with entities := entities } key =
        .ok { endpoint with entity := edit key endpoint.entity } := by
    obtain ⟨named, stored, world⟩ := endpoint_eq_ok_iff.mp found
    refine endpoint_eq_ok_iff.mpr ⟨named, ?_, (position key).trans world⟩
    rw [revised.entity?_eq, stored]
    rfl
  obtain ⟨first, second, atA, atB, apart, reachA, bothA, reachB, bothB, knownA, knownB, length,
    rfl, rfl⟩ := checkCircuit_eq_ok_iff.mp checked
  refine checkCircuit_eq_ok_iff.mpr ⟨_, _, edited atA, edited atB, apart, reachA, bothA, reachB,
    bothB, ?_, ?_, length, ?_, ?_⟩
  · rw [circuitReach_congr (fixed a first.entity), knownA]
  · rw [circuitReach_congr (fixed b second.entity), knownB]
  · rw [EntityList.associate, EntityList.associate, revised.id]
  · rw [EntityList.associate, EntityList.associate, revised.id]

theorem lengthWarnings_comm (p q : Point) (reach : Binary64) :
    blueprint.lengthWarnings p q reach = blueprint.lengthWarnings q p reach := by
  rw [lengthWarnings, lengthWarnings, Point.distance_comm]

/-- The check does not depend on which end is named first. -/
theorem checkCircuit_exchanged
    (checked : blueprint.checkCircuit a b sideA sideB = .ok (toB, toA, warnings)) :
    blueprint.checkCircuit b a sideB sideA = .ok (toA, toB, warnings) := by
  obtain ⟨first, second, atA, atB, apart, reachA, bothA, reachB, bothB, knownA, knownB, length,
    rfl, rfl⟩ := checkCircuit_eq_ok_iff.mp checked
  rw [lengthWarnings_comm, Binary64.min_comm] at length
  exact checkCircuit_eq_ok_iff.mpr ⟨second, first, atB, atA,
    fun same => apart ⟨same.1.symm, same.2.symm⟩, reachB, bothB, reachA, bothA, knownB, knownA,
    length, rfl, rfl⟩

/-! ### Wires undone -/

/-- The blueprints differ in no more than the order of the keys in the cells of the index. -/
structure Coincides (blueprint after : Blueprint) : Prop where
  rest : after = { blueprint with
    entities := { blueprint.entities with index := after.entities.index } }
  index : blueprint.entities.index.Restored after.entities.index

theorem Coincides.toDocument (coincides : blueprint.Coincides after) :
    after.toDocument = blueprint.toDocument := by
  rw [coincides.rest]
  exact toDocument_congr rfl rfl fun _ => rfl

/-- Associations of entities are all of the blueprint's own list. -/
def OwnAssociations (blueprint : Blueprint) : Prop :=
  ∀ key entity, blueprint.entities.entity? key = some entity →
    ∀ association ∈ entity.associations, association.list = blueprint.entities.id

/-- Neither end has the wire yet. -/
def Unrecorded (blueprint : Blueprint) (color : WireColor) (a b : Key)
    (sideA sideB : CircuitSide) : Prop :=
  ∀ first second, blueprint.entities.entity? a = some first →
    blueprint.entities.entity? b = some second →
    ⟨blueprint.entities.associate b, second.told blueprint.table sideB⟩ ∉
      first.connections.circuit sideA color ∧
    ⟨blueprint.entities.associate a, first.told blueprint.table sideA⟩ ∉
      second.connections.circuit sideB color

/-- Edits that come to the same leave blueprints that coincide. -/
theorem coincides_of_inPlace {one two : EntityList}
    (coherent : blueprint.entities.Coherent blueprint.table)
    (filed : blueprint.entities.index.Filed)
    (first : EntityList.InPlace blueprint.table edit blueprint.entities one)
    (second : EntityList.InPlace blueprint.table edit blueprint.entities two) :
    Coincides { blueprint with entities := one } { blueprint with entities := two } := by
  obtain ⟨same, index⟩ := first.unique second coherent filed
  exact ⟨congrArg (fun entities => { blueprint with entities := entities }) same, index⟩

namespace Joins

variable {joined : EntityList}

/-- Right after a wire was added that neither end had, its removal leaves all as it was before. -/
theorem removed (joins : blueprint.Joins color a b sideA sideB toB toA warnings joined)
    (coherent : blueprint.entities.Coherent blueprint.table)
    (filed : blueprint.entities.index.Filed) (own : blueprint.OwnAssociations)
    (new : blueprint.Unrecorded color a b sideA sideB) :
    ∃ after, removeCircuit { blueprint with entities := joined } color a b sideA sideB =
      (after, .ok ()) ∧ blueprint.Coincides after := by
  obtain ⟨first, second, ends⟩ := circuitChecked_of_checkCircuit joins.checked
  have storedA : joined.entity? a = some (joinEdit color a b sideA sideB toB toA a first) := by
    rw [joins.inPlace.entity?_eq, ends.storedA]
    rfl
  have storedB : joined.entity? b = some (joinEdit color a b sideA sideB toB toA b second) := by
    rw [joins.inPlace.entity?_eq, ends.storedB]
    rfl
  obtain ⟨parted, removed, later⟩ := @removeCircuit_of_stored
    { blueprint with entities := joined } _ _ _ _ storedA storedB color sideA sideB
  simp only [Entity.told_of_fixed fixed_joinEdit] at later
  refine ⟨_, removed, coincides_of_inPlace coherent filed (.refl _ _)
    ((joins.inPlace.trans later).congr fun key entity stored => ?_)⟩
  obtain ⟨newB, newA⟩ := new first second ends.storedA ends.storedB
  rw [ends.toB, ends.toA]
  refine partEdit_joinEdit ends.apart (own key entity stored) ?_ ?_
  · rintro rfl
    obtain rfl := Option.some.inj (stored.symm.trans ends.storedA)
    exact newB
  · rintro rfl
    obtain rfl := Option.some.inj (stored.symm.trans ends.storedB)
    exact newA

/-- Added again, the wire is still there once, and both keys are last where they were last. -/
theorem again (joins : blueprint.Joins color a b sideA sideB toB toA warnings joined)
    (coherent : blueprint.entities.Coherent blueprint.table)
    (filed : blueprint.entities.index.Filed) :
    ∃ twice, addCircuit { blueprint with entities := joined } color a b sideA sideB =
      (twice, .ok warnings) ∧ Coincides { blueprint with entities := joined } twice ∧
      ∀ cell, twice.entities.index.cell cell = joined.index.cell cell := by
  obtain ⟨first, second, ends⟩ := circuitChecked_of_checkCircuit joins.checked
  obtain ⟨again, later⟩ := exists_joins color
    (checkCircuit_of_revised joins.inPlace.toRevised (fun _ _ => fixed_joinEdit) joins.checked)
  have twice := coincides_of_inPlace coherent filed joins.inPlace
    ((joins.inPlace.trans later.inPlace).congr
      fun key entity _ => joinEdit_joinEdit ends.apart key entity)
  obtain ⟨boxA, boxB, filedOnce⟩ := joins.filed
  obtain ⟨laterA, laterB, filedTwice⟩ := later.filed
  obtain ⟨_, foundA, -⟩ := Option.bind_eq_some_iff.mp ends.storedA
  obtain ⟨_, foundB, -⟩ := Option.bind_eq_some_iff.mp ends.storedB
  have rooms : blueprint.entities.index.RoomFor [a, b] :=
    SpatialIndex.roomFor_of_get? coherent.vacant (List.forall_mem_cons.mpr
      ⟨Option.ne_none_iff_exists'.mpr ⟨_, foundA⟩,
        List.forall_mem_singleton.mpr (Option.ne_none_iff_exists'.mpr ⟨_, foundB⟩)⟩)
  exact ⟨_, later.added, twice, filed.cell_add_again rooms filedOnce filedTwice twice.index.boxes⟩

/-- Named the other way round, the same ends get the same wire. -/
theorem exchanged (joins : blueprint.Joins color a b sideA sideB toB toA warnings joined)
    (coherent : blueprint.entities.Coherent blueprint.table)
    (filed : blueprint.entities.index.Filed) :
    ∃ exchanged, blueprint.addCircuit color b a sideB sideA = (exchanged, .ok warnings) ∧
      Coincides { blueprint with entities := joined } exchanged := by
  obtain ⟨first, second, ends⟩ := circuitChecked_of_checkCircuit joins.checked
  obtain ⟨other, otherwise⟩ := exists_joins color (checkCircuit_exchanged joins.checked)
  exact ⟨_, otherwise.added, coincides_of_inPlace coherent filed joins.inPlace
    (otherwise.inPlace.congr fun key entity _ => joinEdit_comm ends.apart key entity)⟩

end Joins

/-- Right after a wire was added that neither end had, the removal that names the same ends leaves
every entity as it was. Adding the wire again leaves what adding it once does, the order of keys in
the index included. So does adding it with its ends exchanged, but for that order; and the warnings
are the same. -/
theorem Reachable.circuit_undone {allowed : Blueprint → Operation → Prop}
    (reachable : Reachable allowed blueprint) (own : blueprint.OwnAssociations)
    (added : blueprint.addCircuit color a b sideA sideB = (once, .ok warnings))
    (new : blueprint.Unrecorded color a b sideA sideB) :
    (∃ after, once.removeCircuit color a b sideA sideB = (after, .ok ()) ∧
      blueprint.Coincides after) ∧
    (∃ twice, once.addCircuit color a b sideA sideB = (twice, .ok warnings) ∧
      once.Coincides twice ∧
      ∀ cell, twice.entities.index.cell cell = once.entities.index.cell cell) ∧
    ∃ exchanged, blueprint.addCircuit color b a sideB sideA = (exchanged, .ok warnings) ∧
      once.Coincides exchanged ∧ exchanged.toDocument = once.toDocument := by
  have coherent := reachable.coherent.entities
  have filed := reachable.filed
  obtain ⟨toB, toA, joined, rfl, joins⟩ := exists_joins_of_addCircuit added
  obtain ⟨exchanged, otherwise, coincides⟩ := joins.exchanged coherent filed
  exact ⟨joins.removed coherent filed own new, joins.again coherent filed, exchanged, otherwise,
    coincides, coincides.toDocument⟩

/-! ### A combinator wired to itself -/

/-- Wiring makes associations of the own list only. -/
theorem OwnAssociations.apply (own : blueprint.OwnAssociations) {operation : Operation}
    (wires : operation.Wires) : (operation.apply blueprint).OwnAssociations := by
  obtain ⟨edit, wiring, revised⟩ := blueprint.rewired_apply operation wires
  intro key entity stored association mem
  rw [revised.entity?_eq] at stored
  obtain ⟨old, before, rfl⟩ := Option.map_eq_some_iff.mp stored
  rw [revised.id]
  rcases (wiring key).targets old association mem with here | ⟨target, -, rfl⟩
  · exact own key old before association here
  · rfl

/-- A table that knows combinators, which take wires at an input and at an output. -/
def combinatorTable : PrototypeTable :=
  PrototypeTable.empty.putEntity
    { EntityPrototype.building "decider-combinator" .deciderCombinator (.square 0.35) with
      circuitReach := some 9 }

def loneCombinator : Blueprint :=
  (empty combinatorTable ⟨0⟩).append (.plain "decider-combinator" ⟨0.5, 0.5⟩)

/-- A combinator with a green wire from its output to its input. -/
def loopedCombinator : Blueprint :=
  (loneCombinator.addCircuit .green ⟨0, 0⟩ ⟨0, 0⟩ .output .input).1

theorem reachable_loopedCombinator : Reachable (fun _ _ => True) loopedCombinator := by
  have placed : Run (fun _ _ => True) (empty combinatorTable ⟨0⟩) loneCombinator :=
    Run.start.append (.empty combinatorTable ⟨0⟩) trivial (by decide) (by decide +kernel)
  exact ⟨_, .empty combinatorTable ⟨0⟩,
    placed.step (.addCircuit .green ⟨0, 0⟩ ⟨0, 0⟩ .output .input) trivial⟩

theorem ownAssociations_loopedCombinator : loopedCombinator.OwnAssociations := by
  have lone : loneCombinator.OwnAssociations := by
    intro key entity stored association mem
    obtain ⟨placed, found, isEntity⟩ := Option.bind_eq_some_iff.mp stored
    rw [loneCombinator, get?_append] at found
    split at found
    · obtain rfl := Option.some.inj found
      obtain rfl := Option.some.inj isEntity
      exact nomatch mem
    · exact nomatch (Arena.get?_empty key).symm.trans found
  exact @OwnAssociations.apply _ lone (.addCircuit .green ⟨0, 0⟩ ⟨0, 0⟩ .output .input) trivial

/-- The green wire does not count as a red one. -/
theorem unrecorded_loopedCombinator :
    loopedCombinator.Unrecorded .red ⟨0, 0⟩ ⟨0, 0⟩ .input .output := by
  have wires : (loopedCombinator.entities.entity? ⟨0, 0⟩).map (·.connections) =
      some ((Connections.empty.addCircuit .input .green ⟨⟨⟨0⟩, ⟨0, 0⟩⟩, some 2⟩).addCircuit .output
        .green ⟨⟨⟨0⟩, ⟨0, 0⟩⟩, some 1⟩) := by
    decide +kernel
  intro first second storedA storedB
  rw [storedA, Option.map_some, Option.some.injEq] at wires
  obtain rfl := Option.some.inj (storedA.symm.trans storedB)
  rw [wires]
  exact ⟨List.not_mem_nil, List.not_mem_nil⟩

theorem circuit_undone_loopedCombinator : Reachable (fun _ _ => True) loopedCombinator ∧
    loopedCombinator.OwnAssociations ∧
    loopedCombinator.Unrecorded .red ⟨0, 0⟩ ⟨0, 0⟩ .input .output ∧
    ∃ once warnings after,
      loopedCombinator.addCircuit .red ⟨0, 0⟩ ⟨0, 0⟩ .input .output = (once, .ok warnings) ∧
      once.removeCircuit .red ⟨0, 0⟩ ⟨0, 0⟩ .input .output = (after, .ok ()) ∧
      loopedCombinator.Coincides after := by
  have succeeds : (loopedCombinator.addCircuit .red ⟨0, 0⟩ ⟨0, 0⟩ .input .output).2.isOk = true := by
    decide +kernel
  generalize result : loopedCombinator.addCircuit .red ⟨0, 0⟩ ⟨0, 0⟩ .input .output = added
    at succeeds
  obtain ⟨once, outcome⟩ := added
  obtain ⟨warnings, rfl⟩ := exists_ok_of_isOk succeeds
  obtain ⟨⟨after, removed, coincides⟩, -⟩ := reachable_loopedCombinator.circuit_undone
    ownAssociations_loopedCombinator result unrecorded_loopedCombinator
  exact ⟨reachable_loopedCombinator, ownAssociations_loopedCombinator, unrecorded_loopedCombinator,
    once, warnings, after, rfl, removed, coincides⟩

end Blueprint
end FactoryBlueprint
