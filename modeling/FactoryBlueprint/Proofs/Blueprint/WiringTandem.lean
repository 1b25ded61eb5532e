import FactoryBlueprint.Proofs.Blueprint.Tandem

/-! # Wiring twins in tandem

Wires that are added to twins alike lead to the same keys, each in its own list, and wires that are
removed alike are the same on both sides.
-/

namespace FactoryBlueprint.Blueprint

variable {rename : Equiv.Perm ListId} {blueprint other : Blueprint}

/-- The endpoint as it is in a twin. -/
def Endpoint.relist (rename : Equiv.Perm ListId) (endpoint : Endpoint) : Endpoint :=
  ⟨endpoint.key, endpoint.entity.relist rename, endpoint.position⟩

/-! ### Edits of wires -/

/-- The entity with its wires edited. -/
def rewire (f : Connections → Connections) (entity : Entity) : Entity :=
  { entity with connections := f entity.connections }

/-- The entity with its neighbours edited. -/
def relink (f : List Association → List Association) (entity : Entity) : Entity :=
  { entity with neighbours := f entity.neighbours }

theorem relist_rewire (f g : Connections → Connections)
    (same : ∀ connections, (f connections).relist rename = g (connections.relist rename))
    (entity : Entity) :
    (rewire f entity).relist rename = rewire g (entity.relist rename) :=
  congrArg (fun wires => { entity.relist rename with connections := wires }) (same _)

theorem relist_relink (f g : List Association → List Association)
    (same : ∀ neighbours, (f neighbours).map (·.relist rename) =
      g (neighbours.map (·.relist rename))) (entity : Entity) :
    (relink f entity).relist rename = relink g (entity.relist rename) :=
  congrArg (fun poles => { entity.relist rename with neighbours := poles }) (same _)

namespace Twins

theorem endpoint (twins : Twins rename blueprint other) (key : Key) :
    OutcomesAlike Eq (fun endpoint left => left = endpoint.relist rename) (blueprint.endpoint key)
      (other.endpoint key) := by
  rw [Blueprint.endpoint, Blueprint.endpoint, twins.entities.entity?,
    twins.entities.worldPosition?]
  cases blueprint.entities.entity? key with
  | none => exact .error rfl
  | some entity =>
    cases blueprint.entities.worldPosition? key with
    | none => exact .error rfl
    | some position => exact .ok rfl

theorem modifyBoth (twins : Twins rename blueprint other) (a b : Key)
    {f g f' g' : Entity → Entity}
    (first : ∀ entity, (f entity).relist rename = f' (entity.relist rename))
    (second : ∀ entity, (g entity).relist rename = g' (entity.relist rename)) :
    InTandem rename Eq Eq (blueprint.modifyBoth a b f g) (other.modifyBoth a b f' g') := by
  obtain ⟨list, tiles, listTwins, -, rfl⟩ := id twins.parts
  have modified := listTwins.modify? blueprint.table a first
  rw [Blueprint.modifyBoth, Blueprint.modifyBoth]
  dsimp only
  generalize blueprint.entities.modify? blueprint.table a f = one at modified ⊢
  generalize list.modify? blueprint.table a f' = another at modified ⊢
  cases modified with
  | none => exact twins.refused _
  | @some middle otherMiddle edited =>
    have again := edited.modify? blueprint.table b second
    dsimp only
    generalize middle.modify? blueprint.table b g = one at again ⊢
    generalize otherMiddle.modify? blueprint.table b g' = another at again ⊢
    cases again with
    | none => exact ⟨twins.withEntities edited rfl, .error rfl⟩
    | some edited => exact ⟨twins.withEntities edited rfl, .ok rfl⟩

theorem lengthWarnings (twins : Twins rename blueprint other) (a b : Point) (reach : Binary64) :
    OutcomesAlike Eq Eq (blueprint.lengthWarnings a b reach) (other.lengthWarnings a b reach) := by
  rw [Blueprint.lengthWarnings, Blueprint.lengthWarnings, twins.mode]
  exact .refl (fun _ => rfl) (fun _ => rfl) _

/-! ### Circuits -/

theorem circuitReach (twins : Twins rename blueprint other) (entity : Entity) (side : CircuitSide) :
    OutcomesAlike Eq Eq (blueprint.circuitReach entity side)
      (other.circuitReach (entity.relist rename) side) := by
  have same : other.circuitReach (entity.relist rename) side = blueprint.circuitReach entity side := by
    rw [Blueprint.circuitReach, Blueprint.circuitReach, twins.table]
    rfl
  rw [same]
  exact .refl (fun _ => rfl) (fun _ => rfl) _

theorem checkCircuit (twins : Twins rename blueprint other) (a b : Key)
    (sideA sideB : CircuitSide) :
    OutcomesAlike Eq
      (fun checked left => left = (checked.1.relist rename, checked.2.1.relist rename, checked.2.2))
      (blueprint.checkCircuit a b sideA sideB) (other.checkCircuit a b sideA sideB) := by
  refine (twins.endpoint a).bind ?_
  rintro first _ rfl
  refine (twins.endpoint b).bind ?_
  rintro second _ rfl
  by_cases itself : a = b ∧ sideA = sideB
  · simp only [if_pos itself]
    exact .error rfl
  · simp only [if_neg itself]
    refine (twins.circuitReach first.entity sideA).bind ?_
    rintro ⟨reachA, bothA⟩ _ rfl
    refine (twins.circuitReach second.entity sideB).bind ?_
    rintro ⟨reachB, bothB⟩ _ rfl
    refine (twins.lengthWarnings first.position second.position _).bind ?_
    rintro warnings _ rfl
    refine .ok ?_
    rw [twins.entities.associate, twins.entities.associate]
    rfl

theorem addCircuit (twins : Twins rename blueprint other) (color : WireColor) (a b : Key)
    (sideA sideB : CircuitSide) :
    InTandem rename Eq Eq (blueprint.addCircuit color a b sideA sideB)
      (other.addCircuit color a b sideA sideB) := by
  have checked := twins.checkCircuit a b sideA sideB
  rw [Blueprint.addCircuit, Blueprint.addCircuit]
  generalize blueprint.checkCircuit a b sideA sideB = first at checked ⊢
  generalize other.checkCircuit a b sideA sideB = second at checked ⊢
  cases checked with
  | error alike => exact ⟨twins, .error alike⟩
  | @ok checked _ same =>
    subst same
    obtain ⟨toB, toA, warnings⟩ := checked
    have wired := twins.modifyBoth a b
      (relist_rewire (·.addCircuit sideA color toB) (·.addCircuit sideA color (toB.relist rename))
        fun wires => wires.relist_addCircuit sideA color toB)
      (relist_rewire (·.addCircuit sideB color toA) (·.addCircuit sideB color (toA.relist rename))
        fun wires => wires.relist_addCircuit sideB color toA)
    exact ⟨wired.twins, wired.outcomes.map fun _ _ _ => rfl⟩

theorem removeCircuit (twins : Twins rename blueprint other) (color : WireColor) (a b : Key)
    (sideA sideB : CircuitSide) :
    InTandem rename Eq Eq (blueprint.removeCircuit color a b sideA sideB)
      (other.removeCircuit color a b sideA sideB) := by
  have found : OutcomesAlike Eq
      (fun ends left => left = (ends.1.relist rename, ends.2.relist rename))
      (do pure (← blueprint.endpoint a, ← blueprint.endpoint b))
      (do pure (← other.endpoint a, ← other.endpoint b)) := by
    refine (twins.endpoint a).bind ?_
    rintro first _ rfl
    refine (twins.endpoint b).bind ?_
    rintro second _ rfl
    exact .ok rfl
  rw [Blueprint.removeCircuit, Blueprint.removeCircuit, twins.table]
  dsimp only
  generalize (do pure (← blueprint.endpoint a, ← blueprint.endpoint b)) = ends at found ⊢
  generalize (do pure (← other.endpoint a, ← other.endpoint b)) = otherEnds at found ⊢
  cases found with
  | error alike => exact ⟨twins, .error alike⟩
  | @ok ends _ same =>
    subst same
    have cut (side : CircuitSide) (key : Key) (far : Option Nat) (entity : Entity) :
        (rewire (·.removeCircuit side color key far) entity).relist rename =
          rewire (·.removeCircuit side color key far) (entity.relist rename) :=
      relist_rewire _ _ (fun wires => wires.relist_removeCircuit side color key far) entity
    exact twins.modifyBoth a b (cut sideA b _) (cut sideB a _)

/-! ### Copper between poles -/

theorem poleReach (twins : Twins rename blueprint other) (entity : Entity) :
    OutcomesAlike Eq Eq (blueprint.poleReach entity) (other.poleReach (entity.relist rename)) := by
  have same : other.poleReach (entity.relist rename) = blueprint.poleReach entity := by
    rw [Blueprint.poleReach, Blueprint.poleReach, twins.table]
    rfl
  rw [same]
  exact .refl (fun _ => rfl) (fun _ => rfl) _

theorem checkPower (twins : Twins rename blueprint other) (a b : Key) :
    OutcomesAlike Eq Eq (blueprint.checkPower a b) (other.checkPower a b) := by
  refine (twins.endpoint a).bind ?_
  rintro first _ rfl
  refine (twins.endpoint b).bind ?_
  rintro second _ rfl
  by_cases itself : a = b
  · simp only [if_pos itself]
    exact .error rfl
  · simp only [if_neg itself]
    refine (twins.poleReach first.entity).bind ?_
    rintro reachA _ rfl
    refine (twins.poleReach second.entity).bind ?_
    rintro reachB _ rfl
    exact twins.lengthWarnings first.position second.position _

theorem neighbourWarnings (twins : Twins rename blueprint other) (key : Key) :
    OutcomesAlike Eq Eq (blueprint.neighbourWarnings key) (other.neighbourWarnings key) := by
  have same : other.neighbourWarnings key = blueprint.neighbourWarnings key := by
    rw [Blueprint.neighbourWarnings, Blueprint.neighbourWarnings, twins.entities.entity?, twins.mode]
    cases blueprint.entities.entity? key with
    | none => rfl
    | some entity =>
      have length : (entity.relist rename).neighbours.length = entity.neighbours.length :=
        List.length_map _
      simp only [Option.map_some, length, Entity.name_relist]
  rw [same]
  exact .refl (fun _ => rfl) (fun _ => rfl) _

theorem addPower (twins : Twins rename blueprint other) (a b : Key) :
    InTandem rename Eq Eq (blueprint.addPower a b) (other.addPower a b) := by
  have checked := twins.checkPower a b
  rw [Blueprint.addPower, Blueprint.addPower]
  generalize blueprint.checkPower a b = first at checked ⊢
  generalize other.checkPower a b = second at checked ⊢
  cases checked with
  | error alike => exact ⟨twins, .error alike⟩
  | @ok warnings _ same =>
    subst same
    have link (key : Key) := relist_relink (Distinct.add · (blueprint.entities.associate key))
      (Distinct.add · (other.entities.associate key)) fun neighbours => by
        rw [twins.entities.associate]
        exact Distinct.add_map (Association.relist_injective rename) neighbours _
    have joined := twins.modifyBoth a b (link b) (link a)
    refine ⟨joined.twins, joined.outcomes.bind fun _ _ _ => ?_⟩
    refine (joined.twins.neighbourWarnings a).bind ?_
    rintro first _ rfl
    refine (joined.twins.neighbourWarnings b).bind ?_
    rintro second _ rfl
    exact .ok rfl

theorem relist_unlink (key : Key) (entity : Entity) :
    (unlink key entity).relist rename = unlink key (entity.relist rename) :=
  relist_relink (·.filter (!·.pointsTo key)) (·.filter (!·.pointsTo key)) (fun neighbours => by
    rw [List.filter_map]
    rfl) entity

theorem removePower (twins : Twins rename blueprint other) (a b : Key) :
    InTandem rename Eq Eq (blueprint.removePower a b) (other.removePower a b) :=
  twins.modifyBoth a b (relist_unlink b) (relist_unlink a)

theorem unlinkAll (key : Key) (associations : List Association) {blueprint other : Blueprint}
    (twins : Twins rename blueprint other) :
    InTandem rename Eq Eq (blueprint.unlinkAll key associations)
      (other.unlinkAll key (associations.map (·.relist rename))) := by
  induction associations generalizing blueprint other with
  | nil => exact ⟨twins, .ok rfl⟩
  | cons association rest ih =>
    obtain ⟨list, tiles, listTwins, -, rfl⟩ := id twins.parts
    have modified := listTwins.modify? blueprint.table association.target
      (relist_unlink key)
    rw [Blueprint.unlinkAll, List.map_cons, Blueprint.unlinkAll, listTwins.holds]
    split
    · dsimp only [Association.relist]
      generalize blueprint.entities.modify? blueprint.table association.target _ = first
        at modified ⊢
      generalize list.modify? blueprint.table association.target _ = second at modified ⊢
      cases modified with
      | none => exact twins.refused _
      | some edited => exact ih (twins.withEntities edited rfl)
    · exact ih twins

theorem removeAllPower (twins : Twins rename blueprint other) (key : Key) :
    InTandem rename Eq Eq (blueprint.removeAllPower key) (other.removeAllPower key) := by
  rw [Blueprint.removeAllPower, Blueprint.removeAllPower, twins.entities.entity?]
  cases blueprint.entities.entity? key with
  | none => exact twins.refused _
  | some entity =>
    obtain ⟨twins, outcomes⟩ := twins.unlinkAll key entity.neighbours
    have neighbours : (entity.relist rename).neighbours =
        entity.neighbours.map (·.relist rename) := rfl
    dsimp only [Option.map_some]
    rw [neighbours]
    generalize blueprint.unlinkAll key entity.neighbours = first at twins outcomes ⊢
    generalize other.unlinkAll key (entity.neighbours.map (·.relist rename)) = second
      at twins outcomes ⊢
    obtain ⟨left, leftOutcome⟩ := first
    obtain ⟨right, rightOutcome⟩ := second
    cases outcomes with
    | error alike => exact ⟨twins, .error alike⟩
    | ok =>
      replace twins : Twins rename left right := twins
      obtain ⟨list, tiles, listTwins, -, rfl⟩ := id twins.parts
      have modified := listTwins.modify? left.table key
        (f := fun entity => { entity with neighbours := [] })
        (g := fun entity => { entity with neighbours := [] }) fun _ => rfl
      dsimp only
      generalize left.entities.modify? left.table key _ = one at modified ⊢
      generalize list.modify? left.table key _ = another at modified ⊢
      cases modified with
      | none => exact twins.refused _
      | some edited => exact ⟨twins.withEntities edited rfl, .ok rfl⟩

/-! ### Copper at power switches -/

theorem checkCopper (twins : Twins rename blueprint other) (switch pole : Key) :
    OutcomesAlike Eq Eq (blueprint.checkCopper switch pole) (other.checkCopper switch pole) := by
  refine (twins.endpoint switch).bind ?_
  rintro first _ rfl
  refine (twins.endpoint pole).bind ?_
  rintro second _ rfl
  have same : other.table = blueprint.table := twins.table
  simp only [same]
  exact .refl (fun _ => rfl) (fun _ => rfl) _

theorem addCopper (twins : Twins rename blueprint other) (switch : Key) (side : CopperSide)
    (pole : Key) :
    InTandem rename Eq Eq (blueprint.addCopper switch side pole)
      (other.addCopper switch side pole) := by
  have checked := twins.checkCopper switch pole
  rw [Blueprint.addCopper, Blueprint.addCopper, twins.entities.associate, twins.entities.associate]
  generalize blueprint.checkCopper switch pole = first at checked ⊢
  generalize other.checkCopper switch pole = second at checked ⊢
  cases checked with
  | error alike => exact ⟨twins, .error alike⟩
  | ok =>
    have add (side : CopperSide) (far : WireEnd Association) := relist_rewire
      (·.addCopper side far) (·.addCopper side (far.relist rename))
      fun wires => wires.relist_addCopper side far
    exact twins.modifyBoth switch pole (add side _) (add .left _)

theorem removeCopper (twins : Twins rename blueprint other) (switch : Key) (side : CopperSide)
    (pole : Key) :
    InTandem rename Eq Eq (blueprint.removeCopper switch side pole)
      (other.removeCopper switch side pole) := by
  have remove (side : CopperSide) (key : Key) (entity : Entity) :
      (rewire (·.removeCopper side key) entity).relist rename =
        rewire (·.removeCopper side key) (entity.relist rename) :=
    relist_rewire _ _ (fun wires => wires.relist_removeCopper side key) entity
  exact twins.modifyBoth switch pole (remove side pole) (remove .left switch)

end Twins
end FactoryBlueprint.Blueprint
