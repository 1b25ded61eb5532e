import FactoryBlueprint.Proofs.Blueprint.Reading

/-! # Reading wires that were written

The numbers that wires are written with are those of entities, so they can be read wherever there
are as many entities (`exists_resolveConnections`). Far ends that differ are written with
different numbers, so none is dropped (`distinct_of_connectionsRecord?`).
-/

namespace FactoryBlueprint

/-- Related lists have no repetitions together, where the relation leads from one to one. -/
theorem nodup_of_forall₂ {α β : Type} {R : α → β → Prop}
    (oneToOne : ∀ a b a' b', R a b → R a' b' → (a = a' ↔ b = b')) {as : List α} {bs : List β}
    (paired : List.Forall₂ R as bs) (nodup : as.Nodup) : bs.Nodup := by
  induction paired with
  | nil => exact List.nodup_nil
  | @cons a b as bs here later ih =>
    obtain ⟨fresh, rest⟩ := List.nodup_cons.mp nodup
    refine List.nodup_cons.mpr ⟨fun mem => ?_, ih rest⟩
    obtain ⟨a', inRest, also⟩ := exists_of_mem_right later mem
    exact fresh ((oneToOne a b a' b here also).mpr rfl ▸ inRest)

theorem exists_forall₂ {α β : Type} {R : α → β → Prop} {bs : List β}
    (each : ∀ b ∈ bs, ∃ a, R a b) : ∃ as, List.Forall₂ R as bs := by
  induction bs with
  | nil => exact ⟨[], .nil⟩
  | cons b bs ih =>
    obtain ⟨⟨a, here⟩, later⟩ := List.forall_mem_cons.mp each
    obtain ⟨as, paired⟩ := ih later
    exact ⟨a :: as, .cons here paired⟩

/-- The number of one of so many entities. -/
structure IsNumber (count number : Nat) : Prop where
  positive : 0 < number
  bound : number ≤ count

/-- Every far end is one of so many entities. -/
structure ConnectionsRecord.Numbered (record : ConnectionsRecord) (count : Nat) : Prop where
  circuit : ∀ side color, ∀ far ∈ record.circuitEnds side color, IsNumber count far.target
  copper : ∀ side, ∀ far ∈ record.copperEnds side, IsNumber count far.target

namespace Numbering

variable {numbering : Numbering}

theorem Names.isNumber {number : Nat} {association : Association}
    (names : numbering.Names number association) : IsNumber numbering.keys.length number := by
  obtain ⟨bound, -⟩ := List.getElem?_eq_some_iff.mp names.target
  have positive := names.positive
  exact ⟨positive, by omega⟩

theorem exists_names {number : Nat} (here : IsNumber numbering.keys.length number) :
    ∃ association, numbering.Names number association := by
  have bound : number - 1 < numbering.keys.length := Nat.lt_of_lt_of_le
    (Nat.sub_lt here.positive Nat.zero_lt_one) here.bound
  exact ⟨⟨numbering.list, numbering.keys[number - 1]⟩, rfl, here.positive,
    List.getElem?_eq_getElem bound⟩

theorem exists_resolveAll (path : String) {numbers : List Nat}
    (each : ∀ number ∈ numbers, IsNumber numbering.keys.length number) :
    ∃ associations, numbering.resolveAll path numbers = .ok associations := by
  obtain ⟨associations, named⟩ := exists_forall₂ fun number mem => exists_names (each number mem)
  exact ⟨associations, resolveAll_eq_ok_iff.mpr named.flip⟩

/-- Wires can be read if all their numbers stand for something. -/
theorem exists_resolveConnections (path : String) {record : ConnectionsRecord}
    (numbered : record.Numbered numbering.keys.length) :
    ∃ connections, numbering.resolveConnections path record = .ok connections := by
  have ends : ∀ points : List (WireEnd Nat),
      (∀ far ∈ points, IsNumber numbering.keys.length far.target) →
        ∃ all, List.Forall₂ numbering.NamesEnd all points := by
    intro points each
    refine exists_forall₂ fun far mem => ?_
    obtain ⟨association, names⟩ := exists_names (each far mem)
    exact ⟨⟨association, far.terminal⟩, names, rfl⟩
  have circuit := fun side color => ends _ (numbered.circuit side color)
  have copper := fun side => ends _ (numbered.copper side)
  choose circuit circuitNamed using circuit
  choose copper copperNamed using copper
  exact ⟨.ofEnds circuit copper, resolveConnections_eq_ok_iff.mpr
    ⟨fun side color => ⟨_, circuitNamed side color, Connections.circuit_ofEnds ..⟩,
      fun side => ⟨_, copperNamed side, Connections.copper_ofEnds ..⟩⟩⟩

/-! ### Wires that were written -/

/-- What is told of wires by the record that they are written as. -/
structure Written (numbering : Numbering) (connections : Connections) (record : ConnectionsRecord) :
    Prop where
  circuit : ∀ side color, List.Forall₂ numbering.NamesEnd (connections.circuit side color)
    (record.circuitEnds side color)
  copper : ∀ side, List.Forall₂ numbering.NamesEnd (connections.copper side)
    (record.copperEnds side)

theorem written_of_connectionsRecord? (nodup : numbering.keys.Nodup) {connections : Connections}
    {record : ConnectionsRecord} (given : numbering.connectionsRecord? connections = some record) :
    numbering.Written connections record := by
  obtain ⟨circuit, copper, circuits, coppers, rfl⟩ := connectionsRecord?_eq_some_iff.mp given
  refine ⟨fun side color => ?_, fun side => ?_⟩
  · rw [ConnectionsRecord.circuitEnds_ofPoints]
    exact (numberEnds?_eq_some_iff nodup).mp (circuits side color)
  · rw [ConnectionsRecord.copperEnds_ofPoints]
    exact (numberEnds?_eq_some_iff nodup).mp (coppers side)

variable {connections : Connections} {record : ConnectionsRecord}

theorem Written.numbered (written : numbering.Written connections record) :
    record.Numbered numbering.keys.length where
  circuit side color far mem := by
    obtain ⟨_, -, names⟩ := exists_of_mem_right (written.circuit side color) mem
    exact names.target.isNumber
  copper side far mem := by
    obtain ⟨_, -, names⟩ := exists_of_mem_right (written.copper side) mem
    exact names.target.isNumber

theorem smallEnds_of_namesEnd {ends : List (WireEnd Association)} {points : List (WireEnd Nat)}
    (named : List.Forall₂ numbering.NamesEnd ends points) (fits : FarEndsFit ends)
    (bound : numbering.keys.length < 2 ^ 64) : SmallEnds points := by
  intro point mem
  obtain ⟨far, inEnds, names⟩ := exists_of_mem_right named mem
  refine ⟨Nat.lt_of_le_of_lt names.target.isNumber.bound bound, fun terminal given => ?_⟩
  rw [names.terminal] at given
  exact fits far inEnds terminal given

theorem Written.small (written : numbering.Written connections record) (fits : connections.Fits)
    (bound : numbering.keys.length < 2 ^ 64) : record.Small where
  circuit side color :=
    smallEnds_of_namesEnd (written.circuit side color) (fits.circuit side color) bound
  copper side := smallEnds_of_namesEnd (written.copper side) (fits.copper side) bound

/-- No far end is dropped from wires that list none twice. -/
theorem distinct_of_connectionsRecord? (nodup : numbering.keys.Nodup) (once : connections.Once)
    (given : numbering.connectionsRecord? connections = some record) : record.distinct = record := by
  have written := written_of_connectionsRecord? nodup given
  obtain ⟨circuit, copper, -, -, rfl⟩ := connectionsRecord?_eq_some_iff.mp given
  rw [ConnectionsRecord.distinct]
  congr 1
  · funext side color
    have named := written.circuit side color
    rw [ConnectionsRecord.circuitEnds_ofPoints] at named ⊢
    exact Distinct.addAll_nil_of_nodup
      (nodup_of_forall₂ (namesEnd_unique nodup) named (once.circuit side color))
  · funext side
    have named := written.copper side
    rw [ConnectionsRecord.copperEnds_ofPoints] at named ⊢
    exact Distinct.addAll_nil_of_nodup
      (nodup_of_forall₂ (namesEnd_unique nodup) named (once.copper side))

end Numbering
end FactoryBlueprint
