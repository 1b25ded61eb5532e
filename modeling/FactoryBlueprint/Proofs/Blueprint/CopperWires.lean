import FactoryBlueprint.Proofs.Blueprint.Anchored
import FactoryBlueprint.Proofs.Blueprint.Appending

/-! # Both ends of copper wires at power switches

A pole lists the copper wires that lead to it from power switches with the terminals that they come
from (`Fed`). Wires are added at both ends. A removal takes every wire of the switch from the list of
the pole, whatever its terminal, so both ends agree as long as no other terminal of the switch is wired
to the pole (`Run.coppers_mutual`), and not beyond (`halved_copper`).
-/

namespace FactoryBlueprint

theorem CopperSide.code_inj {side other : CopperSide} : side.code = other.code ↔ side = other := by
  cases side <;> cases other <;> decide

theorem Entity.mem_associations_of_copper {entity : Entity} {side : CopperSide}
    {far : WireEnd Association} (mem : far ∈ entity.connections.copper side) :
    far.target ∈ entity.associations :=
  List.mem_append_left _ (Connections.mem_targets_iff.mpr (.inr ⟨side, far, mem, rfl⟩))

/-- From a power switch to a pole: copper wires lead there from the terminals that the pole lists for
the switch. -/
def Fed (table : PrototypeTable) (id : ListId) (a : Key) (first : Entity) (b : Key)
    (second : Entity) : Prop :=
  (first.kind table).hasCopperTerminals = true → second.kind table = .electricPole → ∀ side,
    (∃ far ∈ first.connections.copper side, far.target = ⟨id, b⟩) ↔
      ∃ back ∈ second.connections.copper .left,
        back.target = ⟨id, a⟩ ∧ back.terminal = some side.code

theorem ofWires_fed (table : PrototypeTable) : EntityList.OfWires (Fed table) where
  apart id a first b second away back _ _ side := by
    constructor
    · rintro ⟨far, mem, target⟩
      exact absurd (target ▸ Entity.mem_associations_of_copper mem) away
    · rintro ⟨far, mem, target, -⟩
      exact absurd (target ▸ Entity.mem_associations_of_copper mem) back
  congr id a first later b second last sameA sameB fed := by
    rw [Fed, Entity.kind_of_fixed sameA.fixed, Entity.kind_of_fixed sameB.fixed, sameA.connections,
      sameB.connections]
    exact fed
  copy id new a first b second ownA ownB fed isSwitch isPole side := by
    have moved {entity : Entity} (own : ∀ association ∈ entity.associations, association.list = id)
        {terminal : CopperSide} {far : WireEnd Association} {key : Key}
        (mem : far ∈ entity.connections.copper terminal) :
        far.target.rescope id new = ⟨new, key⟩ ↔ far.target = ⟨id, key⟩ := by
      have here := own _ (Entity.mem_associations_of_copper mem)
      obtain ⟨⟨list, target⟩, told⟩ := far
      obtain rfl : list = id := here
      simp [Association.rescope]
    have before := fed isSwitch isPole side
    simp only [Entity.mapAssociations, Connections.copper_mapTargets, List.mem_map,
      exists_exists_and_eq_and]
    constructor
    · rintro ⟨far, mem, target⟩
      obtain ⟨back, there, points, terminal⟩ := before.mp ⟨far, mem, (moved ownA mem).mp target⟩
      exact ⟨back, there, (moved ownB there).mpr points, terminal⟩
    · rintro ⟨back, there, points, terminal⟩
      obtain ⟨far, mem, target⟩ := before.mpr ⟨back, there, (moved ownB there).mp points, terminal⟩
      exact ⟨far, mem, (moved ownA mem).mpr target⟩

namespace Blueprint

variable {blueprint : Blueprint} {switch pole key : Key} {side other : CopperSide}
  {toPole toSwitch far : WireEnd Association} {entity : Entity}

/-! ### Adding -/

/-- The edits by which a copper wire is added at both ends. -/
def feedEdit (switch : Key) (side : CopperSide) (pole : Key) (toPole toSwitch : WireEnd Association)
    (key : Key) (entity : Entity) : Entity :=
  EntityList.editAt pole
    (fun entity => { entity with connections := entity.connections.addCopper .left toSwitch }) key
    (EntityList.editAt switch
      (fun entity => { entity with connections := entity.connections.addCopper side toPole })
      key entity)

theorem mem_editAt_addCopper : far ∈ (EntityList.editAt switch (fun entity : Entity =>
      { entity with connections := entity.connections.addCopper side toPole })
      key entity).connections.copper other ↔
    far ∈ entity.connections.copper other ∨ key = switch ∧ other = side ∧ far = toPole := by
  unfold EntityList.editAt
  split
  · rename_i here
    simp only [here, true_and, Connections.mem_copper_addCopper]
  · rename_i elsewhere
    simp only [elsewhere, false_and, or_false]

theorem mem_feedEdit :
    far ∈ (feedEdit switch side pole toPole toSwitch key entity).connections.copper other ↔
      far ∈ entity.connections.copper other ∨ (key = switch ∧ other = side ∧ far = toPole) ∨
        (key = pole ∧ other = .left ∧ far = toSwitch) := by
  rw [feedEdit, mem_editAt_addCopper, mem_editAt_addCopper, or_assoc]

theorem fixed_feedEdit :
    (feedEdit switch side pole toPole toSwitch key entity).fixed = entity.fixed := by
  unfold feedEdit
  rw [EntityList.fixed_editAt, EntityList.fixed_editAt] <;> exact fun _ => rfl

theorem addCopper_cases (switch : Key) (side : CopperSide) (pole : Key) :
    (blueprint.addCopper switch side pole).1 = blueprint ∨ ∃ first second,
      blueprint.CopperChecked switch pole first second ∧
      EntityList.Revised (feedEdit switch side pole
          ⟨blueprint.entities.associate pole, some CopperSide.left.code⟩
          ⟨blueprint.entities.associate switch, some side.code⟩)
        blueprint.entities (blueprint.addCopper switch side pole).1.entities := by
  simp only [addCopper]
  split
  · exact .inl rfl
  · rename_i found
    obtain ⟨first, second, checked⟩ := copperChecked_of_checkCopper found
    rcases blueprint.modifyBoth_cases switch pole _ _ with ⟨-, same⟩ | revised
    · exact .inl same
    · exact .inr ⟨first, second, checked, revised⟩

/-- No entity is both a power switch and a pole. -/
theorem not_pole_of_terminals {kind : Kind} (terminals : kind.hasCopperTerminals = true) :
    kind ≠ .electricPole := by
  rintro rfl
  contradiction

theorem paired_addCopper {table : PrototypeTable} (tabled : blueprint.table = table)
    (paired : blueprint.entities.Paired (Fed table)) (switch : Key) (side : CopperSide)
    (pole : Key) :
    (blueprint.addCopper switch side pole).1.entities.Paired (Fed table) := by
  subst tabled
  rcases blueprint.addCopper_cases switch side pole with same | ⟨first, second, checked, revised⟩
  · rw [same]
    exact paired
  · refine .of_revised revised fun x y one two beforeX beforeY isSwitch isPole terminal => ?_
    rw [Entity.kind_of_fixed fixed_feedEdit] at isSwitch isPole
    have before := paired x y one two beforeX beforeY isSwitch isPole terminal
    have notPole : x ≠ pole := by
      rintro rfl
      obtain rfl := Option.some.inj (beforeX.symm.trans checked.storedPole)
      exact not_pole_of_terminals isSwitch checked.isPole
    have notSwitch : y ≠ switch := by
      rintro rfl
      obtain rfl := Option.some.inj (beforeY.symm.trans checked.storedSwitch)
      exact not_pole_of_terminals checked.terminals isPole
    simp only [mem_feedEdit, notPole, notSwitch, false_and, or_false, false_or]
    constructor
    · rintro ⟨far, old | ⟨rfl, rfl, rfl⟩, target⟩
      · obtain ⟨back, mem, points⟩ := before.mp ⟨far, old, target⟩
        exact ⟨back, .inl mem, points⟩
      · obtain ⟨-, rfl⟩ := Association.mk.inj target
        exact ⟨_, .inr ⟨rfl, trivial, rfl⟩, rfl, rfl⟩
    · rintro ⟨back, old | ⟨rfl, -, rfl⟩, target, told⟩
      · obtain ⟨far, mem, points⟩ := before.mpr ⟨back, old, target, told⟩
        exact ⟨far, .inl mem, points⟩
      · obtain ⟨-, rfl⟩ := Association.mk.inj target
        obtain rfl := CopperSide.code_inj.mp (Option.some.inj told)
        exact ⟨_, .inr ⟨rfl, rfl, rfl⟩, rfl⟩

/-! ### Removing -/

/-- The edits by which a copper wire is removed at both ends. -/
def cutEdit (switch : Key) (side : CopperSide) (pole : Key) (key : Key) (entity : Entity) : Entity :=
  EntityList.editAt pole
    (fun entity => { entity with connections := entity.connections.removeCopper .left switch }) key
    (EntityList.editAt switch
      (fun entity => { entity with connections := entity.connections.removeCopper side pole })
      key entity)

theorem mem_editAt_removeCopper : far ∈ (EntityList.editAt switch (fun entity : Entity =>
      { entity with connections := entity.connections.removeCopper side pole })
      key entity).connections.copper other ↔
    far ∈ entity.connections.copper other ∧
      ¬(key = switch ∧ other = side ∧ far.target.target = pole) := by
  unfold EntityList.editAt
  split
  · rename_i here
    simp only [here, true_and, Connections.mem_copper_removeCopper]
  · rename_i elsewhere
    simp only [elsewhere, false_and, not_false_eq_true, and_true]

theorem mem_cutEdit : far ∈ (cutEdit switch side pole key entity).connections.copper other ↔
    far ∈ entity.connections.copper other ∧
      ¬(key = switch ∧ other = side ∧ far.target.target = pole) ∧
      ¬(key = pole ∧ other = .left ∧ far.target.target = switch) := by
  rw [cutEdit, mem_editAt_removeCopper, mem_editAt_removeCopper, and_assoc]

theorem fixed_cutEdit : (cutEdit switch side pole key entity).fixed = entity.fixed := by
  unfold cutEdit
  rw [EntityList.fixed_editAt, EntityList.fixed_editAt] <;> exact fun _ => rfl

/-- A terminal of a power switch has a copper wire to the object under a key. -/
def Feeds (blueprint : Blueprint) (switch : Key) (side : CopperSide) (key : Key) : Prop :=
  ∃ first, blueprint.entities.entity? switch = some first ∧
    (first.kind blueprint.table).hasCopperTerminals = true ∧
    ∃ far ∈ first.connections.copper side, far.target = blueprint.entities.associate key

/-- No terminal but the one that is named has a wire to the pole, and the switch is not named as the
pole. -/
structure NamesWire (blueprint : Blueprint) (switch : Key) (side : CopperSide) (pole : Key) :
    Prop where
  only : ∀ other, blueprint.Feeds switch other pole → other = side
  ordered : ∀ other, ¬ blueprint.Feeds pole other switch

theorem paired_removeCopper {table : PrototypeTable} (tabled : blueprint.table = table)
    (paired : blueprint.entities.Paired (Fed table)) {switch : Key} {side : CopperSide} {pole : Key}
    (names : blueprint.NamesWire switch side pole) :
    (blueprint.removeCopper switch side pole).1.entities.Paired (Fed table) := by
  subst tabled
  rcases blueprint.modifyBoth_cases switch pole _ _ with ⟨-, same⟩ | revised
  · exact congrArg Blueprint.entities same ▸ paired
  · replace revised : EntityList.Revised (cutEdit switch side pole) blueprint.entities
      (blueprint.removeCopper switch side pole).1.entities := revised
    refine .of_revised revised fun x y one two beforeX beforeY isSwitch isPole terminal => ?_
    rw [Entity.kind_of_fixed fixed_cutEdit] at isSwitch isPole
    have before := paired x y one two beforeX beforeY isSwitch isPole terminal
    have feeds {far : WireEnd Association} (mem : far ∈ one.connections.copper terminal)
        (target : far.target = ⟨blueprint.entities.id, y⟩) : blueprint.Feeds x terminal y :=
      ⟨one, beforeX, isSwitch, far, mem, target⟩
    simp only [mem_cutEdit]
    constructor
    · rintro ⟨far, ⟨mem, kept, -⟩, target⟩
      obtain ⟨back, old, points, told⟩ := before.mp ⟨far, mem, target⟩
      refine ⟨back, ⟨old, ?_, ?_⟩, points, told⟩
      · rintro ⟨rfl, -, leads⟩
        rw [points] at leads
        obtain rfl : x = pole := leads
        exact names.ordered terminal (feeds mem target)
      · rintro ⟨rfl, -, leads⟩
        rw [points] at leads
        obtain rfl : x = switch := leads
        exact kept ⟨rfl, names.only terminal (feeds mem target), by rw [target]⟩
    · rintro ⟨back, ⟨old, -, kept⟩, points, told⟩
      obtain ⟨far, mem, target⟩ := before.mpr ⟨back, old, points, told⟩
      refine ⟨far, ⟨mem, ?_, ?_⟩, target⟩
      · rintro ⟨rfl, -, leads⟩
        rw [target] at leads
        exact kept ⟨leads, trivial, by rw [points]⟩
      · rintro ⟨rfl, -, leads⟩
        rw [target] at leads
        obtain rfl : y = switch := leads
        exact names.ordered terminal (feeds mem target)

/-! ### Runs -/

/-- True of calls that add or remove a copper wire at a power switch. -/
def TouchesCoppers (_ : Blueprint) : Operation → Prop
  | .addCopper .. | .removeCopper .. => True
  | _ => False

/-- Copper wires are added at will, and removed where no other terminal leads to the pole. -/
def CopperWiring (blueprint : Blueprint) : Operation → Prop
  | .addCopper .. => True
  | .removeCopper switch side pole => blueprint.NamesWire switch side pole
  | _ => False

/-- A terminal of a power switch has a copper wire to a pole if and only if the pole lists a wire to
the switch with the number of the terminal. -/
def CoppersMutual (blueprint : Blueprint) : Prop :=
  ∀ switch pole first second, blueprint.entities.entity? switch = some first →
    blueprint.entities.entity? pole = some second →
    (first.kind blueprint.table).hasCopperTerminals = true →
    second.kind blueprint.table = .electricPole → ∀ side,
      (∃ far ∈ first.connections.copper side, far.target = blueprint.entities.associate pole) ↔
        ∃ back ∈ second.connections.copper .left,
          back.target = blueprint.entities.associate switch ∧ back.terminal = some side.code

/-- Copper wires at power switches stay mutual as long as each removal names the only terminal of the
switch that is wired to the pole. -/
theorem Run.coppers_mutual {table : PrototypeTable} {list : ListId}
    (run : Run (Tame CopperWiring) (empty table list) blueprint) : blueprint.CoppersMutual := by
  have tamed := run.tamed (ofWires_fed table) fun before operation tamed wires allowed => by
    cases operation with
    | addCopper switch side pole =>
      exact paired_addCopper tamed.table tamed.paired switch side pole
    | removeCopper switch side pole => exact paired_removeCopper tamed.table tamed.paired allowed
    | _ => exact allowed.elim
  have fed : blueprint.entities.Paired (Fed blueprint.table) := tamed.table.symm ▸ tamed.paired
  exact fed

/-! ### A switch and a pole -/

/-- A table that knows a power switch and a pole. -/
def switchTable : PrototypeTable :=
  (PrototypeTable.empty.putEntity (.building "power-switch" .powerSwitch (.square 0.7))).putEntity
    (.building "small-electric-pole" .electricPole (.square 0.15))

def powerSwitch : Entity := .plain "power-switch" ⟨1, 1⟩

def smallPole : Entity := .plain "small-electric-pole" ⟨4.5, 0.5⟩

/-- A blueprint with a power switch and a pole. -/
def switchAndPole : Blueprint := ((empty switchTable ⟨0⟩).append powerSwitch).append smallPole

theorem run_switchAndPole (wiring : Blueprint → Operation → Prop) :
    Run (Tame wiring) (empty switchTable ⟨0⟩) switchAndPole :=
  have initial : Initial (empty switchTable ⟨0⟩) := .empty switchTable ⟨0⟩
  (Run.start.append initial (.addEntity ⟨rfl, rfl⟩) (by decide) (by decide +kernel)).append initial
    (.addEntity ⟨rfl, rfl⟩) (by decide) (by decide +kernel)

/-- Both terminals of the switch joined to the pole. -/
def fedTwice : Blueprint :=
  ((switchAndPole.addCopper ⟨0, 0⟩ .left ⟨1, 0⟩).1.addCopper ⟨0, 0⟩ .right ⟨1, 0⟩).1

theorem run_fedTwice {wiring : Blueprint → Operation → Prop}
    (allowed : ∀ blueprint side, wiring blueprint (.addCopper ⟨0, 0⟩ side ⟨1, 0⟩)) :
    Run (Tame wiring) (empty switchTable ⟨0⟩) fedTwice :=
  ((run_switchAndPole wiring).step (.addCopper ⟨0, 0⟩ .left ⟨1, 0⟩)
    (.wires trivial (allowed _ _))).step (.addCopper ⟨0, 0⟩ .right ⟨1, 0⟩)
      (.wires trivial (allowed _ _))

theorem coppers_mutual_twice :
    Run (Tame CopperWiring) (empty switchTable ⟨0⟩) fedTwice ∧ fedTwice.CoppersMutual :=
  ⟨run_fedTwice fun _ _ => trivial, (run_fedTwice fun _ _ => trivial).coppers_mutual⟩

/-- One of the two wires removed. -/
def fedOnce : Blueprint := (fedTwice.removeCopper ⟨0, 0⟩ .left ⟨1, 0⟩).1

/-- The wire at the other terminal is still there at the switch, and no longer at the pole. -/
theorem halved_copper : Run (Tame TouchesCoppers) (empty switchTable ⟨0⟩) fedOnce ∧
    ¬ fedOnce.CoppersMutual := by
  refine ⟨(run_fedTwice fun _ _ => trivial).step (.removeCopper ⟨0, 0⟩ .left ⟨1, 0⟩)
    (.wires trivial trivial), fun fed => ?_⟩
  have right : (fedOnce.entities.entity? ⟨0, 0⟩).map
      (fun entity => (entity.kind fedOnce.table, entity.connections.copper .right)) =
        some (.powerSwitch, [⟨⟨⟨0⟩, ⟨1, 0⟩⟩, some 0⟩]) := by decide +kernel
  have listed : (fedOnce.entities.entity? ⟨1, 0⟩).map
      (fun entity => (entity.kind fedOnce.table, entity.connections.copper .left)) =
        some (.electricPole, []) := by decide +kernel
  obtain ⟨first, atSwitch, wired⟩ := Option.map_eq_some_iff.mp right
  obtain ⟨second, atPole, bare⟩ := Option.map_eq_some_iff.mp listed
  obtain ⟨isSwitch, wired⟩ := Prod.mk.inj wired
  obtain ⟨isPole, bare⟩ := Prod.mk.inj bare
  have led : ∃ far ∈ first.connections.copper .right,
      far.target = fedOnce.entities.associate ⟨1, 0⟩ :=
    ⟨_, wired.symm ▸ List.mem_singleton_self _, rfl⟩
  obtain ⟨back, mem, -⟩ := (fed ⟨0, 0⟩ ⟨1, 0⟩ first second atSwitch atPole (by rw [isSwitch]; rfl)
    isPole .right).mp led
  rw [bare] at mem
  contradiction

end Blueprint
end FactoryBlueprint
