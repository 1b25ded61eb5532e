import FactoryBlueprint.Proofs.Connections.Strays

/-! # Wires on paper and in memory

Whatever wires were put together and taken apart, no far end is listed twice at a terminal
(`Connections.built_iff`). So writing wires and reading them are inverse to each other, but for
repetitions and empty lists on paper, and reading fails only at numbers that are no entity's
(`Numbering.writing_inverts_reading`).
-/

namespace FactoryBlueprint

namespace Distinct

variable {α : Type} [DecidableEq α]

/-- What is added in turn comes after what was there, without what was there, each at its first
place. -/
theorem addAll_eq_append (as others : List α) :
    addAll as others = as ++ (others.filter (· ∉ as)).eraseDups := by
  induction others generalizing as with
  | nil => simp [addAll]
  | cons a rest ih =>
    have step : addAll as (a :: rest) = addAll (add as a) rest := rfl
    rw [step, add]
    split
    · rename_i mem
      rw [ih, List.filter_cons_of_neg (by simpa using mem)]
    · rename_i fresh
      have later : rest.filter (· ∉ as ++ [a]) = (rest.filter (· ∉ as)).filter (!· == a) := by
        rw [List.filter_filter]
        refine List.filter_congr fun b _ => ?_
        by_cases same : b = a <;> simp [same]
      rw [ih, List.filter_cons_of_pos (by simpa using fresh), List.eraseDups_cons, later,
        List.append_assoc, List.singleton_append]

theorem addAll_nil (others : List α) : addAll [] others = others.eraseDups := by
  simp [addAll_eq_append]

end Distinct

namespace Connections

variable {connections others : Connections}

/-- Wires that were put together and taken apart one after the other. -/
inductive Built : Connections → Prop
  | empty : Built .empty
  | addCircuit {connections : Connections} (built : Built connections) (side : CircuitSide)
    (color : WireColor) (far : WireEnd Association) : Built (connections.addCircuit side color far)
  | removeCircuit {connections : Connections} (built : Built connections) (side : CircuitSide)
    (color : WireColor) (target : Key) (terminal : Option Nat) :
    Built (connections.removeCircuit side color target terminal)
  | addCopper {connections : Connections} (built : Built connections) (side : CopperSide)
    (far : WireEnd Association) : Built (connections.addCopper side far)
  | removeCopper {connections : Connections} (built : Built connections) (side : CopperSide)
    (target : Key) : Built (connections.removeCopper side target)
  | merge {connections others : Connections} (built : Built connections) (also : Built others) :
    Built (connections.merge others)

theorem nodup_remove {entry : WireEntry} (nodup : entry.ends.Nodup)
    (leaves : WireEnd Association → Bool) : (entry.remove leaves).ends.Nodup := by
  rw [WireEntry.ends_remove]
  exact nodup.filter _

theorem Built.once (built : connections.Built) : connections.Once := by
  induction built with
  | empty =>
    refine ⟨fun side color => ?_, fun side => ?_⟩
    · cases side <;> cases color <;> exact List.nodup_nil
    · cases side <;> exact List.nodup_nil
  | addCircuit _ side color far ih =>
    exact ih.modifyCircuit side color fun _ nodup => Distinct.nodup_add nodup far
  | removeCircuit _ side color _ _ ih =>
    exact ih.modifyCircuit side color fun _ nodup => nodup_remove nodup _
  | addCopper _ side far ih => exact ih.modifyCopper side fun _ nodup => Distinct.nodup_add nodup far
  | removeCopper _ side _ ih => exact ih.modifyCopper side fun _ nodup => nodup_remove nodup _
  | merge _ _ ih => exact ih.merge _

theorem Built.addAllCircuit (built : connections.Built) (side : CircuitSide) (color : WireColor)
    (fars : List (WireEnd Association)) :
    (connections.modifyCircuit side color (·.addAll fars)).Built := by
  rw [← foldl_addCircuit]
  induction fars generalizing connections with
  | nil => exact built
  | cons far rest ih => exact ih (built.addCircuit side color far)

theorem Built.addAllCopper (built : connections.Built) (side : CopperSide)
    (fars : List (WireEnd Association)) :
    (connections.modifyCopper side (·.addAll fars)).Built := by
  rw [← foldl_addCopper]
  induction fars generalizing connections with
  | nil => exact built
  | cons far rest ih => exact ih (built.addCopper side far)

/-- Wires can be built if and only if no far end is listed twice: those at each terminal are added one
after the other. -/
theorem built_iff : connections.Built ↔ connections.Once := by
  refine ⟨Built.once, fun once => ?_⟩
  have all : (ofEnds connections.circuit connections.copper).Built :=
    (((((Built.empty.addAllCircuit .input .red _).addAllCircuit .input .green _).addAllCircuit
      .output .red _).addAllCircuit .output .green _).addAllCopper .left _).addAllCopper .right _
  have same : ofEnds connections.circuit connections.copper = connections := by
    refine eq_of_ends (fun side color => ?_) fun side => ?_
    · rw [circuit_ofEnds, Distinct.addAll_nil_of_nodup (once.circuit side color)]
    · rw [copper_ofEnds, Distinct.addAll_nil_of_nodup (once.copper side)]
  exact same ▸ all

end Connections

/-! ### Records without repetition -/

/-- The record tells the same far ends as another, each once and at its first place, and leaves out
lists and terminals without any. -/
structure ConnectionsRecord.Tidies (written record : ConnectionsRecord) : Prop where
  circuit : ∀ side color,
    written.circuitEnds side color = (record.circuitEnds side color).eraseDups
  copper : ∀ side, written.copperEnds side = (record.copperEnds side).eraseDups
  terminals : ∀ side, written.circuit side ≠ some .empty
  colors : ∀ side circuit, written.circuit side = some circuit →
    ∀ color, circuit.points color ≠ some []
  coppers : ∀ side, written.copper side ≠ some []

theorem Numbering.unlessEmpty_ne_some_nil {α : Type} (as : List α) : unlessEmpty as ≠ some [] := by
  cases as <;> simp [unlessEmpty]

/-- A terminal is told only where it has far ends, and then only the colours that have some. -/
theorem CircuitRecord.tidy_of_ofPoints? {points : WireColor → List (WireEnd Nat)}
    {circuit : CircuitRecord} (told : ofPoints? points = some circuit) :
    circuit ≠ .empty ∧ ∀ color, circuit.points color ≠ some [] := by
  rw [ofPoints?] at told
  split at told
  · contradiction
  · rename_i some
    obtain rfl := Option.some.inj told
    refine ⟨some, fun color => ?_⟩
    cases color <;> exact Numbering.unlessEmpty_ne_some_nil _

namespace ConnectionsRecord

variable (circuit : CircuitSide → WireColor → List (WireEnd Nat))
  (copper : CopperSide → List (WireEnd Nat))

theorem circuit_ofPoints (side : CircuitSide) :
    (ofPoints circuit copper).circuit side = CircuitRecord.ofPoints? (circuit side) := by
  cases side <;> rfl

theorem copper_ofPoints (side : CopperSide) :
    (ofPoints circuit copper).copper side = Numbering.unlessEmpty (copper side) := by
  cases side <;> rfl

theorem tidies_distinct (record : ConnectionsRecord) : record.distinct.Tidies record where
  circuit side color := by rw [distinct, circuitEnds_ofPoints, Distinct.addAll_nil]
  copper side := by rw [distinct, copperEnds_ofPoints, Distinct.addAll_nil]
  terminals side told := by
    rw [distinct, circuit_ofPoints] at told
    exact (CircuitRecord.tidy_of_ofPoints? told).1 rfl
  colors side circuit told := by
    rw [distinct, circuit_ofPoints] at told
    exact (CircuitRecord.tidy_of_ofPoints? told).2
  coppers side := by
    rw [distinct, copper_ofPoints]
    exact Numbering.unlessEmpty_ne_some_nil _

end ConnectionsRecord

namespace Numbering

variable {numbering : Numbering}

/-- Wires to entities that have numbers can be written, and are read as they were. -/
theorem resolve_of_once (distinct : numbering.keys.Nodup) {connections : Connections}
    (once : connections.Once)
    (known : ∀ far ∈ connections.targets, far.list = numbering.list ∧ far.target ∈ numbering.keys) :
    ∃ record, numbering.connectionsRecord? connections = some record ∧
      ∀ path, numbering.resolveConnections path record = .ok connections := by
  have numbered : (numbering.connectionsRecord? connections).isSome := by
    refine connectionsRecord?_isSome_iff.mpr ⟨fun side color far mem => ?_, fun side far mem => ?_⟩
    · exact number?_isSome_iff.mpr
        (known _ (Connections.mem_targets_iff.mpr (.inl ⟨side, color, far, mem, rfl⟩)))
    · exact number?_isSome_iff.mpr
        (known _ (Connections.mem_targets_iff.mpr (.inr ⟨side, far, mem, rfl⟩)))
  obtain ⟨record, given⟩ := Option.isSome_iff_exists.mp numbered
  have written := written_of_connectionsRecord? distinct given
  refine ⟨record, given, fun path => resolveConnections_eq_ok_iff.mpr
    ⟨fun side color => ⟨_, written.circuit side color, ?_⟩,
      fun side => ⟨_, written.copper side, ?_⟩⟩⟩
  · exact (Distinct.addAll_nil_of_nodup (once.circuit side color)).symm
  · exact (Distinct.addAll_nil_of_nodup (once.copper side)).symm

theorem once_of_resolve {path : String} {record : ConnectionsRecord} {connections : Connections}
    (resolved : numbering.resolveConnections path record = .ok connections) :
    connections.Once := by
  obtain ⟨circuits, coppers⟩ := resolveConnections_eq_ok_iff.mp resolved
  constructor
  · intro side color
    obtain ⟨all, -, same⟩ := circuits side color
    exact same ▸ Distinct.nodup_addAll List.nodup_nil all
  · intro side
    obtain ⟨all, -, same⟩ := coppers side
    exact same ▸ Distinct.nodup_addAll List.nodup_nil all

/-- Where every entity has one number, wires that were put together in memory are written and read back
as they were. A record can be read if and only if its numbers are those of entities; then it is written
again without repetitions and empty lists, and otherwise the first number that is no entity's is
reported with its place. Wires never hold an empty list or a repetition, and are empty if there is
none. -/
theorem writing_inverts_reading (numbering : Numbering) (distinct : numbering.keys.Nodup) :
    (∀ connections : Connections, connections.Built →
      (∀ far ∈ connections.targets, far.list = numbering.list ∧ far.target ∈ numbering.keys) →
      ∃ record, numbering.connectionsRecord? connections = some record ∧
        ∀ path, numbering.resolveConnections path record = .ok connections) ∧
    (∀ record path,
      ((∃ connections, numbering.resolveConnections path record = .ok connections) ↔
        ∀ entry ∈ record.numbers, IsNumber numbering.keys.length entry.2) ∧
      (∀ connections, numbering.resolveConnections path record = .ok connections →
        connections.Built ∧ ∃ written,
          numbering.connectionsRecord? connections = some written ∧ written.Tidies record) ∧
      ∀ before place number after, record.numbers = before ++ (place, number) :: after →
        (∀ entry ∈ before, IsNumber numbering.keys.length entry.2) →
        ¬ IsNumber numbering.keys.length number →
        numbering.resolveConnections path record =
          .error (.located (path ++ place) (.noSuchEntity number numbering.keys.length))) ∧
    ∀ connections : Connections, connections.Built →
      (∀ entry ∈ connections.circuitEntries, entry.2.2 ≠ [] ∧ entry.2.2.Nodup) ∧
      (∀ entry ∈ connections.copperEntries, entry.2 ≠ [] ∧ entry.2.Nodup) ∧
      (connections.isEmpty = true ↔ (∀ side color, connections.circuit side color = []) ∧
        ∀ side, connections.copper side = []) := by
  refine ⟨fun connections built => resolve_of_once distinct built.once, fun record path => ?_,
    fun connections built => ?_⟩
  · have reports := numbering.reports_resolveConnections path record
    refine ⟨reports.exists_ok_iff, fun connections resolved => ?_,
      fun before place number after same known stray => ?_⟩
    · exact ⟨Connections.built_iff.mpr (once_of_resolve resolved), _,
        connectionsRecord?_of_resolve distinct resolved, record.tidies_distinct⟩
    · rw [same] at reports
      exact reports.eq_error (stray?_of_first known stray)
  · exact ⟨fun _ => built.once.circuitEntries, fun _ => built.once.copperEntries,
      Connections.isEmpty_iff⟩

/-- A numbering of two entities. -/
def twoEntities : Numbering := ⟨⟨0⟩, [⟨0, 0⟩, ⟨1, 0⟩]⟩

/-- Wires to both entities, one of them told twice, and an empty list. -/
def repeatingRecord : ConnectionsRecord where
  input := some ⟨some [⟨2, none⟩, ⟨1, some 2⟩, ⟨2, none⟩], some []⟩
  output := some .empty
  copperLeft := none
  copperRight := some [⟨1, none⟩]

/-- The same with two numbers that are no entity's. -/
def strayRecord : ConnectionsRecord :=
  { repeatingRecord with
    output := some ⟨none, some [⟨1, none⟩, ⟨3, none⟩]⟩
    copperLeft := some [⟨0, none⟩] }

/-- A record with a repetition and an empty list can be read and is written without them; of two numbers
that are no entity's, the first is reported. -/
theorem writing_inverts_reading_twoEntities : twoEntities.keys.Nodup ∧
    (∃ connections written,
      twoEntities.resolveConnections "wires" repeatingRecord = .ok connections ∧
      twoEntities.connectionsRecord? connections = some written ∧
      written.circuitEnds .input .red = [⟨2, none⟩, ⟨1, some 2⟩] ∧ written.output ≠ some .empty) ∧
    twoEntities.resolveConnections "wires" strayRecord =
      .error (.located "wires.2.green[1]" (.noSuchEntity 3 2)) := by
  have distinct : twoEntities.keys.Nodup := by decide
  obtain ⟨-, read, -⟩ := writing_inverts_reading twoEntities distinct
  obtain ⟨readable, rewritten, -⟩ := read repeatingRecord "wires"
  obtain ⟨-, -, reported⟩ := read strayRecord "wires"
  obtain ⟨connections, resolved⟩ := readable.mpr (by decide +kernel)
  obtain ⟨-, written, told, tidies⟩ := rewritten connections resolved
  refine ⟨distinct, ⟨connections, written, resolved, told, ?_, tidies.terminals .output⟩, ?_⟩
  · rw [tidies.circuit]
    decide +kernel
  · exact reported [(".1.red[0]", 2), (".1.red[1]", 1), (".1.red[2]", 2), (".2.green[0]", 1)]
      ".2.green[1]" 3 [(".Cu0[0]", 0), (".Cu1[0]", 1)] (by decide +kernel) (by decide +kernel)
      (by decide +kernel)

end Numbering
end FactoryBlueprint
