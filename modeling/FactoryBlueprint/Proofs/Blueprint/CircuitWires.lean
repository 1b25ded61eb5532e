import FactoryBlueprint.Proofs.Blueprint.Anchored
import FactoryBlueprint.Proofs.Blueprint.Appending

/-! # Both ends of red and green wires

A wire is added at both ends, and each end tells the terminal at the other (`Answered`). It is removed
at both ends if the call names terminals that the entities have. So along every run of such calls each
point leads to a point that leads back (`Run.circuits_mutual`). A removal that names an output where
there is none takes one end away and leaves the other (`halved_circuit`).
-/

namespace FactoryBlueprint

/-- The terminal that the far end of a wire is at: the input where none is told. -/
def WireEnd.side? (far : WireEnd Association) : Option CircuitSide :=
  far.terminal.elim (some .input) CircuitSide.ofCode?

namespace Entity

variable {entity later : Entity} {table : PrototypeTable} {side other : CircuitSide}

theorem hasSide_of_fixed (same : later.fixed = entity.fixed) :
    later.HasSide table side ↔ entity.HasSide table side := by
  rw [HasSide, kind_of_fixed same, HasSide]

theorem told_of_fixed (same : later.fixed = entity.fixed) (side : CircuitSide) :
    later.told table side = entity.told table side := by
  rw [told, kind_of_fixed same, told]

/-- What is told of a terminal tells which it is. -/
theorem side?_told (has : entity.HasSide table side) (target : Association) :
    WireEnd.side? ⟨target, entity.told table side⟩ = some side := by
  unfold told
  cases both : (entity.kind table).hasOutputSide with
  | true => cases side <;> rfl
  | false =>
    cases side with
    | input => rfl
    | output => exact absurd (has rfl) (by simp [both])

theorem eq_of_told_eq (has : entity.HasSide table side) (hasOther : entity.HasSide table other)
    (same : entity.told table side = entity.told table other) : side = other := by
  have named := side?_told has default
  rw [same, side?_told hasOther default] at named
  exact (Option.some.inj named).symm

theorem mem_associations_of_circuit {color : WireColor} {far : WireEnd Association}
    (mem : far ∈ entity.connections.circuit side color) : far.target ∈ entity.associations :=
  List.mem_append_left _ (Connections.mem_targets_iff.mpr (.inl ⟨side, color, far, mem, rfl⟩))

end Entity

/-- Every red or green wire from the first entity to the second is at a terminal that the first has,
and tells a terminal of the second at which the wire is too. -/
def Answered (table : PrototypeTable) (id : ListId) (a : Key) (first : Entity) (b : Key)
    (second : Entity) : Prop :=
  ∀ side color, ∀ far ∈ first.connections.circuit side color, far.target = ⟨id, b⟩ →
    first.HasSide table side ∧ ∃ other, second.HasSide table other ∧
      far.terminal = second.told table other ∧
      ⟨⟨id, a⟩, first.told table side⟩ ∈ second.connections.circuit other color

theorem ofWires_answered (table : PrototypeTable) : EntityList.OfWires (Answered table) where
  apart id a first b second away _ side color far mem target :=
    absurd (target ▸ Entity.mem_associations_of_circuit mem) away
  congr id a first later b second last sameA sameB answered side color far mem target := by
    rw [sameA.connections] at mem
    obtain ⟨has, other, hasOther, terminal, back⟩ := answered side color far mem target
    refine ⟨(Entity.hasSide_of_fixed sameA.fixed).mpr has, other,
      (Entity.hasSide_of_fixed sameB.fixed).mpr hasOther, ?_, ?_⟩
    · rw [terminal, Entity.told_of_fixed sameB.fixed]
    · rw [Entity.told_of_fixed sameA.fixed, sameB.connections]
      exact back
  copy id new a first b second ownA ownB answered side color far mem target := by
    rw [Entity.mapAssociations, Connections.circuit_mapTargets] at mem
    obtain ⟨old, here, rfl⟩ := List.mem_map.mp mem
    have own : old.target.list = id := ownA _ (Entity.mem_associations_of_circuit here)
    rw [Association.rescope, if_pos own, Association.mk.injEq] at target
    have there : old.target = ⟨id, b⟩ := by rw [← own, ← target.2]
    obtain ⟨has, other, hasOther, terminal, back⟩ := answered side color old here there
    refine ⟨has, other, hasOther, terminal, ?_⟩
    rw [Entity.mapAssociations, Connections.circuit_mapTargets]
    exact List.mem_map.mpr ⟨_, back, by rw [Association.rescope, if_pos rfl]; rfl⟩

namespace Blueprint

variable {blueprint : Blueprint} {a b key : Key} {sideA sideB side : CircuitSide}
  {color wire : WireColor} {toA toB far : WireEnd Association} {entity : Entity}

/-! ### Adding -/

/-- The edits by which a wire is added at both ends. -/
def joinEdit (color : WireColor) (a b : Key) (sideA sideB : CircuitSide)
    (toB toA : WireEnd Association) (key : Key) (entity : Entity) : Entity :=
  EntityList.editAt b
    (fun entity => { entity with connections := entity.connections.addCircuit sideB color toA }) key
    (EntityList.editAt a
      (fun entity => { entity with connections := entity.connections.addCircuit sideA color toB })
      key entity)

theorem mem_editAt_addCircuit : far ∈ (EntityList.editAt a (fun entity : Entity =>
      { entity with connections := entity.connections.addCircuit sideA color toB })
      key entity).connections.circuit side wire ↔
    far ∈ entity.connections.circuit side wire ∨
      key = a ∧ side = sideA ∧ wire = color ∧ far = toB := by
  unfold EntityList.editAt
  split
  · rename_i here
    simp only [here, true_and, Connections.mem_circuit_addCircuit]
  · rename_i elsewhere
    simp only [elsewhere, false_and, or_false]

theorem mem_joinEdit :
    far ∈ (joinEdit color a b sideA sideB toB toA key entity).connections.circuit side wire ↔
      far ∈ entity.connections.circuit side wire ∨
        (key = a ∧ side = sideA ∧ wire = color ∧ far = toB) ∨
        (key = b ∧ side = sideB ∧ wire = color ∧ far = toA) := by
  rw [joinEdit, mem_editAt_addCircuit, mem_editAt_addCircuit, or_assoc]

theorem fixed_joinEdit :
    (joinEdit color a b sideA sideB toB toA key entity).fixed = entity.fixed := by
  unfold joinEdit
  rw [EntityList.fixed_editAt, EntityList.fixed_editAt] <;> exact fun _ => rfl

theorem addCircuit_cases (color : WireColor) (a b : Key) (sideA sideB : CircuitSide) :
    (blueprint.addCircuit color a b sideA sideB).1 = blueprint ∨ ∃ toB toA first second,
      blueprint.CircuitChecked a b sideA sideB toB toA first second ∧
      EntityList.Revised (joinEdit color a b sideA sideB toB toA) blueprint.entities
        (blueprint.addCircuit color a b sideA sideB).1.entities := by
  simp only [addCircuit]
  split
  · exact .inl rfl
  · rename_i toB toA warnings found
    obtain ⟨first, second, checked⟩ := circuitChecked_of_checkCircuit found
    rcases blueprint.modifyBoth_cases a b _ _ with ⟨-, same⟩ | revised
    · exact .inl same
    · exact .inr ⟨toB, toA, first, second, checked, revised⟩

theorem paired_addCircuit {table : PrototypeTable} (tabled : blueprint.table = table)
    (paired : blueprint.entities.Paired (Answered table)) (color : WireColor) (a b : Key)
    (sideA sideB : CircuitSide) :
    (blueprint.addCircuit color a b sideA sideB).1.entities.Paired (Answered table) := by
  subst tabled
  rcases blueprint.addCircuit_cases color a b sideA sideB with
    same | ⟨toB, toA, first, second, checked, revised⟩
  · rw [same]
    exact paired
  · refine .of_revised revised fun x y one two beforeX beforeY side wire far mem target => ?_
    simp only [Entity.hasSide_of_fixed fixed_joinEdit, Entity.told_of_fixed fixed_joinEdit,
      mem_joinEdit]
    rcases mem_joinEdit.mp mem with old | ⟨rfl, rfl, rfl, rfl⟩ | ⟨rfl, rfl, rfl, rfl⟩
    · obtain ⟨has, other, hasOther, terminal, back⟩ :=
        paired x y one two beforeX beforeY side wire far old target
      exact ⟨has, other, hasOther, terminal, .inl back⟩
    · rw [checked.toB, EntityList.associate, Association.mk.injEq] at target
      obtain ⟨-, rfl⟩ := target
      obtain rfl := Option.some.inj (beforeX.symm.trans checked.storedA)
      obtain rfl := Option.some.inj (beforeY.symm.trans checked.storedB)
      exact ⟨checked.hasA, sideB, checked.hasB, by rw [checked.toB],
        .inr (.inr ⟨rfl, rfl, rfl, checked.toA.symm⟩)⟩
    · rw [checked.toA, EntityList.associate, Association.mk.injEq] at target
      obtain ⟨-, rfl⟩ := target
      obtain rfl := Option.some.inj (beforeX.symm.trans checked.storedB)
      obtain rfl := Option.some.inj (beforeY.symm.trans checked.storedA)
      exact ⟨checked.hasB, sideA, checked.hasA, by rw [checked.toA],
        .inr (.inl ⟨rfl, rfl, rfl, checked.toB.symm⟩)⟩

/-! ### Removing -/

variable {targetA targetB : Key} {terminalA terminalB : Option Nat}

/-- The edits by which a wire is removed at both ends. -/
def partEdit (color : WireColor) (a b : Key) (sideA sideB : CircuitSide)
    (terminalB terminalA : Option Nat) (key : Key) (entity : Entity) : Entity :=
  EntityList.editAt b
    (fun entity =>
      { entity with connections := entity.connections.removeCircuit sideB color a terminalA }) key
    (EntityList.editAt a
      (fun entity =>
        { entity with connections := entity.connections.removeCircuit sideA color b terminalB })
      key entity)

theorem mem_editAt_removeCircuit : far ∈ (EntityList.editAt a (fun entity : Entity =>
      { entity with connections := entity.connections.removeCircuit sideA color b terminalB })
      key entity).connections.circuit side wire ↔
    far ∈ entity.connections.circuit side wire ∧
      ¬(key = a ∧ side = sideA ∧ wire = color ∧ far.target.target = b ∧
        far.terminal = terminalB) := by
  unfold EntityList.editAt
  split
  · rename_i here
    simp only [here, true_and, Connections.mem_circuit_removeCircuit]
  · rename_i elsewhere
    simp only [elsewhere, false_and, not_false_eq_true, and_true]

theorem mem_partEdit : far ∈ (partEdit color a b sideA sideB terminalB terminalA key
      entity).connections.circuit side wire ↔
    far ∈ entity.connections.circuit side wire ∧
      ¬(key = a ∧ side = sideA ∧ wire = color ∧ far.target.target = b ∧
        far.terminal = terminalB) ∧
      ¬(key = b ∧ side = sideB ∧ wire = color ∧ far.target.target = a ∧
        far.terminal = terminalA) := by
  rw [partEdit, mem_editAt_removeCircuit, mem_editAt_removeCircuit, and_assoc]

theorem fixed_partEdit :
    (partEdit color a b sideA sideB terminalB terminalA key entity).fixed = entity.fixed := by
  unfold partEdit
  rw [EntityList.fixed_editAt, EntityList.fixed_editAt] <;> exact fun _ => rfl

/-- The terminals that a removal names are there. -/
structure NamesSides (blueprint : Blueprint) (a b : Key) (sideA sideB : CircuitSide) : Prop where
  hasA : ∀ first, blueprint.entities.entity? a = some first → first.HasSide blueprint.table sideA
  hasB : ∀ second, blueprint.entities.entity? b = some second →
    second.HasSide blueprint.table sideB

theorem removeCircuit_cases (color : WireColor) (a b : Key) (sideA sideB : CircuitSide) :
    (blueprint.removeCircuit color a b sideA sideB).1 = blueprint ∨ ∃ first second,
      blueprint.entities.entity? a = some first ∧ blueprint.entities.entity? b = some second ∧
      EntityList.Revised (partEdit color a b sideA sideB (second.told blueprint.table sideB)
          (first.told blueprint.table sideA))
        blueprint.entities (blueprint.removeCircuit color a b sideA sideB).1.entities := by
  simp only [removeCircuit]
  split
  · exact .inl rfl
  · rename_i first second found
    obtain ⟨_, atA, found⟩ := bind_eq_ok_iff.mp found
    obtain ⟨_, atB, found⟩ := bind_eq_ok_iff.mp found
    obtain ⟨rfl, rfl⟩ := Prod.mk.inj (Except.ok.inj found)
    rcases blueprint.modifyBoth_cases a b _ _ with ⟨-, same⟩ | revised
    · exact .inl same
    · exact .inr ⟨_, _, entity?_of_endpoint atA, entity?_of_endpoint atB, revised⟩

theorem paired_removeCircuit {table : PrototypeTable} (tabled : blueprint.table = table)
    (paired : blueprint.entities.Paired (Answered table)) (color : WireColor) {a b : Key}
    {sideA sideB : CircuitSide} (names : blueprint.NamesSides a b sideA sideB) :
    (blueprint.removeCircuit color a b sideA sideB).1.entities.Paired (Answered table) := by
  subst tabled
  rcases blueprint.removeCircuit_cases color a b sideA sideB with
    same | ⟨first, second, storedA, storedB, revised⟩
  · rw [same]
    exact paired
  · have hasA := names.hasA first storedA
    have hasB := names.hasB second storedB
    refine .of_revised revised fun x y one two beforeX beforeY side wire far mem target => ?_
    simp only [Entity.hasSide_of_fixed fixed_partEdit, Entity.told_of_fixed fixed_partEdit,
      mem_partEdit]
    obtain ⟨old, keptA, keptB⟩ := mem_partEdit.mp mem
    obtain ⟨has, other, hasOther, terminal, back⟩ :=
      paired x y one two beforeX beforeY side wire far old target
    refine ⟨has, other, hasOther, terminal, back, ?_, ?_⟩
    -- If the point back were taken away at one end, this one would have been at the other.
    · rintro ⟨rfl, rfl, rfl, rfl, same⟩
      obtain rfl := Option.some.inj (beforeX.symm.trans storedB)
      obtain rfl := Option.some.inj (beforeY.symm.trans storedA)
      exact keptB ⟨rfl, Entity.eq_of_told_eq has hasB same, rfl, by rw [target], terminal⟩
    · rintro ⟨rfl, rfl, rfl, rfl, same⟩
      obtain rfl := Option.some.inj (beforeX.symm.trans storedA)
      obtain rfl := Option.some.inj (beforeY.symm.trans storedB)
      exact keptA ⟨rfl, Entity.eq_of_told_eq has hasA same, rfl, by rw [target], terminal⟩

/-! ### Runs -/

/-- True of calls that add or remove a red or green wire. -/
def TouchesCircuits (_ : Blueprint) : Operation → Prop
  | .addCircuit .. | .removeCircuit .. => True
  | _ => False

/-- Red and green wires are added at will, and removed at terminals that are there. -/
def CircuitWiring (blueprint : Blueprint) : Operation → Prop
  | .addCircuit .. => True
  | .removeCircuit _ a b sideA sideB => blueprint.NamesSides a b sideA sideB
  | _ => False

/-- Every point that leads from an entity to an entity is answered: there, at the terminal that the
point tells, a point of the colour leads back, and tells the terminal where there are two. -/
def CircuitsMutual (blueprint : Blueprint) : Prop :=
  ∀ a b first second, blueprint.entities.entity? a = some first →
    blueprint.entities.entity? b = some second →
    ∀ side color, ∀ far ∈ first.connections.circuit side color,
      far.target = blueprint.entities.associate b → ∃ other, far.side? = some other ∧
        ⟨blueprint.entities.associate a,
          told (first.kind blueprint.table).hasOutputSide side⟩ ∈
            second.connections.circuit other color

theorem circuitsMutual_of_paired
    (paired : blueprint.entities.Paired (Answered blueprint.table)) : blueprint.CircuitsMutual := by
  intro a b first second here there side color far mem target
  obtain ⟨-, other, has, terminal, back⟩ := paired a b first second here there side color far mem target
  refine ⟨other, ?_, back⟩
  rw [WireEnd.side?, terminal]
  exact Entity.side?_told has far.target

/-- Red and green wires stay mutual as long as no removal names an output that is not there. -/
theorem Run.circuits_mutual {table : PrototypeTable} {list : ListId}
    (run : Run (Tame CircuitWiring) (empty table list) blueprint) : blueprint.CircuitsMutual := by
  have tamed := run.tamed (ofWires_answered table) fun before operation tamed wires allowed => by
    cases operation with
    | addCircuit color a b sideA sideB =>
      exact paired_addCircuit tamed.table tamed.paired color a b sideA sideB
    | removeCircuit color a b sideA sideB =>
      exact paired_removeCircuit tamed.table tamed.paired color allowed
    | _ => exact allowed.elim
  exact circuitsMutual_of_paired (tamed.table.symm ▸ tamed.paired)

/-! ### Two chests -/

/-- A table that knows chests, which take red and green wires at an input only. -/
def chestTable : PrototypeTable :=
  PrototypeTable.empty.putEntity
    { EntityPrototype.building "wooden-chest" .container (.square 0.35) with circuitReach := some 9 }

def leftChest : Entity := .plain "wooden-chest" ⟨0.5, 0.5⟩

def rightChest : Entity := .plain "wooden-chest" ⟨2.5, 0.5⟩

/-- A blueprint with two chests. -/
def twoChests : Blueprint := ((empty chestTable ⟨0⟩).append leftChest).append rightChest

theorem run_twoChests (wiring : Blueprint → Operation → Prop) :
    Run (Tame wiring) (empty chestTable ⟨0⟩) twoChests :=
  have initial : Initial (empty chestTable ⟨0⟩) := .empty chestTable ⟨0⟩
  (Run.start.append initial (.addEntity ⟨rfl, rfl⟩) (by decide) (by decide +kernel)).append initial
    (.addEntity ⟨rfl, rfl⟩) (by decide) (by decide +kernel)

/-- The chests joined by a red wire. -/
def joinedChests : Blueprint := (twoChests.addCircuit .red ⟨0, 0⟩ ⟨1, 0⟩ .input .input).1

theorem run_joinedChests {wiring : Blueprint → Operation → Prop}
    (allowed : wiring twoChests (.addCircuit .red ⟨0, 0⟩ ⟨1, 0⟩ .input .input)) :
    Run (Tame wiring) (empty chestTable ⟨0⟩) joinedChests :=
  (run_twoChests wiring).step (.addCircuit .red ⟨0, 0⟩ ⟨1, 0⟩ .input .input)
    (.wires trivial allowed)

theorem circuits_mutual_joined : Run (Tame CircuitWiring) (empty chestTable ⟨0⟩) joinedChests ∧
    joinedChests.CircuitsMutual :=
  ⟨run_joinedChests trivial, (run_joinedChests trivial).circuits_mutual⟩

/-- The wire removed, with the second chest named at the output that it has not. -/
def halfJoined : Blueprint := (joinedChests.removeCircuit .red ⟨0, 0⟩ ⟨1, 0⟩ .input .output).1

/-- One end of the wire is gone and the other is still there. -/
theorem halved_circuit : Run (Tame TouchesCircuits) (empty chestTable ⟨0⟩) halfJoined ∧
    ¬ halfJoined.CircuitsMutual := by
  refine ⟨(run_joinedChests trivial).step (.removeCircuit .red ⟨0, 0⟩ ⟨1, 0⟩ .input .output)
    (.wires trivial trivial), fun answered => ?_⟩
  have left : (halfJoined.entities.entity? ⟨0, 0⟩).map (·.connections) = some .empty := by
    decide +kernel
  have right : (halfJoined.entities.entity? ⟨1, 0⟩).map (·.connections) =
      some (Connections.empty.addCircuit .input .red ⟨⟨⟨0⟩, ⟨0, 0⟩⟩, none⟩) := by decide +kernel
  obtain ⟨first, atLeft, bare⟩ := Option.map_eq_some_iff.mp left
  obtain ⟨second, atRight, wired⟩ := Option.map_eq_some_iff.mp right
  obtain ⟨other, -, back⟩ := answered ⟨1, 0⟩ ⟨0, 0⟩ second first atRight atLeft .input .red
    ⟨⟨⟨0⟩, ⟨0, 0⟩⟩, none⟩ (by rw [wired]; exact List.mem_singleton_self _) rfl
  rw [bare] at back
  cases other <;> exact absurd back List.not_mem_nil

end Blueprint
end FactoryBlueprint
