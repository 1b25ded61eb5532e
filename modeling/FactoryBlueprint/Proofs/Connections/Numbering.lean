import FactoryBlueprint.Connections.Numbering
import FactoryBlueprint.Proofs.Connections.Terminals
import FactoryBlueprint.Proofs.Document.Written
import FactoryBlueprint.Proofs.Outcome
import Mathlib.Data.List.Nodup

/-! # Numbers and what they stand for

A number stands for the association to the entity at its place (`Numbering.Names`). Where no key is
listed twice, an association is written as the one number that stands for it, and reading leads back
from that number.
-/

namespace FactoryBlueprint

namespace Numbering

variable {numbering : Numbering}

/-- The number stands for the association: its target is the key at that place. -/
structure Names (numbering : Numbering) (number : Nat) (association : Association) : Prop where
  list : association.list = numbering.list
  positive : 0 < number
  target : numbering.keys[number - 1]? = some association.target

theorem number?_eq_some_iff (nodup : numbering.keys.Nodup) {association : Association}
    {number : Nat} :
    numbering.number? association = some number ↔ numbering.Names number association := by
  unfold number?
  split
  · rename_i here
    rw [Option.map_eq_some_iff]
    constructor
    · rintro ⟨i, found, rfl⟩
      obtain ⟨bound, same, -⟩ := List.idxOf?_eq_some_iff.mp found
      refine ⟨here, Nat.succ_pos i, ?_⟩
      rw [Nat.add_sub_cancel, List.getElem?_eq_getElem bound, same]
    · rintro ⟨-, positive, target⟩
      obtain ⟨bound, same⟩ := List.getElem?_eq_some_iff.mp target
      refine ⟨number - 1, List.idxOf?_eq_some_iff.mpr ⟨bound, same, ?_⟩, by omega⟩
      intro j before again
      have equal := nodup.getElem_inj_iff.mp (again.trans same.symm)
      omega
  · rename_i elsewhere
    exact ⟨nofun, fun names => absurd names.list elsewhere⟩

/-- An association has a number if it leads to a key of this list. -/
theorem number?_isSome_iff {association : Association} :
    (numbering.number? association).isSome ↔
      association.list = numbering.list ∧ association.target ∈ numbering.keys := by
  unfold number?
  split
  · rename_i here
    simp [here]
  · rename_i elsewhere
    simp [elsewhere]

theorem association?_eq_some_iff {number : Nat} {association : Association} :
    numbering.association? number = some association ↔ numbering.Names number association := by
  unfold association?
  split
  · rename_i zero
    exact ⟨nofun, fun names => absurd zero (Nat.ne_of_gt names.positive)⟩
  · rename_i nonzero
    rw [Option.map_eq_some_iff]
    constructor
    · rintro ⟨key, found, rfl⟩
      exact ⟨rfl, Nat.pos_of_ne_zero nonzero, found⟩
    · rintro ⟨list, -, target⟩
      exact ⟨association.target, target, by rw [← list]⟩

/-! ### Far ends -/

/-- A far end as it is written, the target by its number. -/
structure NamesEnd (numbering : Numbering) (far : WireEnd Association) (written : WireEnd Nat) :
    Prop where
  target : numbering.Names written.target far.target
  terminal : written.terminal = far.terminal

theorem numberEnds?_eq_some_iff (nodup : numbering.keys.Nodup) {ends : List (WireEnd Association)}
    {written : List (WireEnd Nat)} :
    numbering.numberEnds? ends = some written ↔
      List.Forall₂ numbering.NamesEnd ends written := by
  have each : ∀ (far : WireEnd Association) (point : WireEnd Nat),
      (numbering.number? far.target).map (⟨·, far.terminal⟩) = some point ↔
        numbering.NamesEnd far point := by
    intro far point
    rw [Option.map_eq_some_iff]
    constructor
    · rintro ⟨number, found, rfl⟩
      exact ⟨(number?_eq_some_iff nodup).mp found, rfl⟩
    · rintro ⟨target, terminal⟩
      exact ⟨point.target, (number?_eq_some_iff nodup).mpr target, by rw [← terminal]⟩
  rw [numberEnds?, option_mapM_eq_some_iff]
  exact ⟨fun paired => paired.imp fun far point => (each far point).mp,
    fun paired => paired.imp fun far point => (each far point).mpr⟩

theorem length_numberEnds? {ends : List (WireEnd Association)} {written : List (WireEnd Nat)}
    (numbered : numbering.numberEnds? ends = some written) : ends.length = written.length :=
  (option_mapM_eq_some_iff.mp numbered).length_eq

theorem numberEnds?_isSome_iff {ends : List (WireEnd Association)} :
    (numbering.numberEnds? ends).isSome ↔
      ∀ far ∈ ends, (numbering.number? far.target).isSome := by
  simp [numberEnds?, option_mapM_isSome_iff]

/-- A list that is left out when it is empty. -/
def unlessEmpty {α : Type} (as : List α) : Option (List α) := if as.isEmpty then none else some as

theorem unlessEmpty_getD {α : Type} (as : List α) : (unlessEmpty as).getD [] = as := by
  cases as <;> rfl

theorem unlessEmpty_eq_none_iff {α : Type} {as : List α} : unlessEmpty as = none ↔ as = [] := by
  cases as <;> simp [unlessEmpty]

theorem eq_of_mem_unlessEmpty {α : Type} {as told : List α} (mem : told ∈ unlessEmpty as) :
    told = as := by
  cases as with
  | nil => exact nomatch mem
  | cons a rest => exact (Option.some.inj mem).symm

/-- An entry is written where there are far ends. -/
theorem numberEntry?_eq_some_iff {entry : WireEntry} {written : Option (List (WireEnd Nat))} :
    numbering.numberEntry? entry = some written ↔
      ∃ points, numbering.numberEnds? entry.ends = some points ∧ written = unlessEmpty points := by
  unfold numberEntry?
  split
  · rename_i none
    rw [WireEntry.ends?_eq_none_iff.mp none]
    constructor
    · rintro ⟨⟩
      exact ⟨[], rfl, rfl⟩
    · rintro ⟨points, numbered, rfl⟩
      cases numbered
      rfl
  · rename_i fars some
    obtain ⟨any, rfl⟩ := WireEntry.ends?_eq_some_iff.mp some
    rw [Option.map_eq_some_iff]
    refine exists_congr fun points => and_congr_right fun numbered => ?_
    have told : points ≠ [] := fun none => any <| List.length_eq_zero_iff.mp <|
      (length_numberEnds? numbered).trans (by rw [none]; rfl)
    rw [unlessEmpty, if_neg (by simpa using told), eq_comm]

/-- Whether it is left out or not, an empty list has no items. -/
theorem items_unlessEmpty {α : Type} (as : List α) (write : α → Document) :
    ((unlessEmpty as).map fun as => (Document.array (as.map write)).items).getD [] =
      as.map write := by
  cases as <;> rfl

end Numbering

theorem WireEnd.field?_write_target {key : String} (other : "entity_id" ≠ key)
    (far : WireEnd Nat) : (far.write key).field? "entity_id" = some (.ofNat far.target) := by
  have optional := Fields.lookup_overwrite_optionalField
    (Fields.insert "entity_id" (.ofNat far.target) []) key "entity_id" Document.ofNat far.terminal
  rw [if_neg other, Fields.lookup_insert, if_pos rfl] at optional
  exact optional

/-! ### All wires of an entity -/

open FactoryBlueprint.Numbering

/-- The key of a terminal for red and green wires. -/
def CircuitSide.key : CircuitSide → String
  | .input => "1"
  | .output => "2"

/-- The key of a terminal for copper wires. -/
def CopperSide.key : CopperSide → String
  | .left => "Cu0"
  | .right => "Cu1"

namespace CircuitRecord

/-- The record of the far ends at one terminal, none where there are no far ends. -/
def ofPoints? (points : WireColor → List (WireEnd Nat)) : Option CircuitRecord :=
  let record : CircuitRecord := ⟨unlessEmpty (points .red), unlessEmpty (points .green)⟩
  if record = .empty then none else some record

theorem ofPoints?_eq_none_iff {points : WireColor → List (WireEnd Nat)} :
    ofPoints? points = none ↔ ∀ color, points color = [] := by
  have empty : (⟨unlessEmpty (points .red), unlessEmpty (points .green)⟩ : CircuitRecord) = .empty ↔
      ∀ color, points color = [] := by
    simp only [CircuitRecord.empty, CircuitRecord.mk.injEq, unlessEmpty_eq_none_iff]
    constructor
    · rintro ⟨red, green⟩ color
      cases color with
      | red => exact red
      | green => exact green
    · exact fun each => ⟨each .red, each .green⟩
  rw [← empty, ofPoints?]
  simp

theorem itemsAt_ofPoints? (points : WireColor → List (WireEnd Nat)) (color : WireColor) :
    ((ofPoints? points).map (·.write.itemsAt [color.name])).getD [] =
      (points color).map (·.write "circuit_id") := by
  have held : ((ofPoints? points).map (·.write.itemsAt [color.name])).getD [] =
      (write ⟨unlessEmpty (points .red), unlessEmpty (points .green)⟩).itemsAt [color.name] := by
    rw [ofPoints?]
    split
    · rename_i none
      rw [none]
      cases color <;> rfl
    · rfl
  rw [held, Document.itemsAt_cons, ← items_unlessEmpty]
  cases color with
  | red => simp [write, WireColor.name, Fields.overwrite_append, Function.comp_def]
  | green => simp [write, WireColor.name, Fields.overwrite_append, Function.comp_def]

end CircuitRecord

namespace ConnectionsRecord

/-- The record of the far ends at every terminal. -/
def ofPoints (circuit : CircuitSide → WireColor → List (WireEnd Nat))
    (copper : CopperSide → List (WireEnd Nat)) : ConnectionsRecord where
  input := CircuitRecord.ofPoints? (circuit .input)
  output := CircuitRecord.ofPoints? (circuit .output)
  copperLeft := unlessEmpty (copper .left)
  copperRight := unlessEmpty (copper .right)

theorem eq_empty_of_isEmpty {record : ConnectionsRecord} (none : record.isEmpty = true) :
    record = .empty := by
  obtain ⟨input, output, left, right⟩ := record
  simp only [isEmpty, Bool.and_eq_true, Option.isNone_iff_eq_none] at none
  obtain ⟨⟨⟨rfl, rfl⟩, rfl⟩, rfl⟩ := none
  rfl

variable (circuit : CircuitSide → WireColor → List (WireEnd Nat))
  (copper : CopperSide → List (WireEnd Nat))

/-- The record is empty if it is of no far ends. -/
theorem ofPoints_isEmpty_iff : (ofPoints circuit copper).isEmpty = true ↔
    (∀ side color, circuit side color = []) ∧ ∀ side, copper side = [] := by
  simp only [isEmpty, ofPoints, Bool.and_eq_true, Option.isNone_iff_eq_none,
    CircuitRecord.ofPoints?_eq_none_iff, unlessEmpty_eq_none_iff]
  constructor
  · rintro ⟨⟨⟨input, output⟩, left⟩, right⟩
    refine ⟨fun side => ?_, fun side => ?_⟩
    · cases side with
      | input => exact input
      | output => exact output
    · cases side with
      | left => exact left
      | right => exact right
  · rintro ⟨circuits, coppers⟩
    exact ⟨⟨⟨circuits .input, circuits .output⟩, coppers .left⟩, coppers .right⟩

theorem itemsAt_circuit (side : CircuitSide) (color : WireColor) :
    (ofPoints circuit copper).write.itemsAt [side.key, color.name] =
      (circuit side color).map (·.write "circuit_id") := by
  rw [Document.itemsAt_cons, ← CircuitRecord.itemsAt_ofPoints?]
  cases side with
  | input =>
    simp [write, CircuitSide.key, ofPoints, Fields.overwrite_append, Function.comp_def]
  | output =>
    simp [write, CircuitSide.key, ofPoints, Fields.overwrite_append, Function.comp_def]

theorem itemsAt_copper (side : CopperSide) :
    (ofPoints circuit copper).write.itemsAt [side.key] =
      (copper side).map (·.write "wire_id") := by
  rw [Document.itemsAt_cons, ← items_unlessEmpty]
  cases side with
  | left => simp [write, CopperSide.key, ofPoints, Fields.overwrite_append, Function.comp_def]
  | right => simp [write, CopperSide.key, ofPoints, Fields.overwrite_append, Function.comp_def]

end ConnectionsRecord

namespace Numbering

variable {numbering : Numbering}

theorem circuitRecord?_eq_some_iff {circuit : CircuitEntries} {record : Option CircuitRecord} :
    numbering.circuitRecord? circuit = some record ↔
      ∃ points, (∀ color, numbering.numberEnds? (circuit.entry color).ends = some (points color)) ∧
        record = CircuitRecord.ofPoints? points := by
  simp only [circuitRecord?, Option.bind_eq_bind, Option.bind_eq_some_iff, Option.pure_def,
    Option.some.injEq, numberEntry?_eq_some_iff]
  constructor
  · rintro ⟨_, ⟨red, reds, rfl⟩, _, ⟨green, greens, rfl⟩, rfl⟩
    refine ⟨fun color => if color = .red then red else green, fun color => ?_, rfl⟩
    cases color with
    | red => exact reds
    | green => exact greens
  · rintro ⟨points, numbered, rfl⟩
    exact ⟨_, ⟨points .red, numbered .red, rfl⟩, _, ⟨points .green, numbered .green, rfl⟩, rfl⟩

/-- The record of the wires holds, at each terminal, the far ends there by their numbers. -/
theorem connectionsRecord?_eq_some_iff {connections : Connections} {record : ConnectionsRecord} :
    numbering.connectionsRecord? connections = some record ↔ ∃ circuit copper,
      (∀ side color,
        numbering.numberEnds? (connections.circuit side color) = some (circuit side color)) ∧
      (∀ side, numbering.numberEnds? (connections.copper side) = some (copper side)) ∧
      record = .ofPoints circuit copper := by
  simp only [connectionsRecord?, Option.bind_eq_bind, Option.bind_eq_some_iff, Option.pure_def,
    Option.some.injEq, circuitRecord?_eq_some_iff, numberEntry?_eq_some_iff]
  constructor
  · rintro ⟨_, ⟨input, inputs, rfl⟩, _, ⟨output, outputs, rfl⟩, _, ⟨left, lefts, rfl⟩, _,
      ⟨right, rights, rfl⟩, rfl⟩
    refine ⟨fun side => if side = .input then input else output,
      fun side => if side = .left then left else right, fun side color => ?_, fun side => ?_, rfl⟩
    · cases side with
      | input => exact inputs color
      | output => exact outputs color
    · cases side with
      | left => exact lefts
      | right => exact rights
  · rintro ⟨circuit, copper, circuits, coppers, rfl⟩
    exact ⟨_, ⟨circuit .input, circuits .input, rfl⟩, _, ⟨circuit .output, circuits .output, rfl⟩,
      _, ⟨copper .left, coppers .left, rfl⟩, _, ⟨copper .right, coppers .right, rfl⟩, rfl⟩

/-- Wires can be written if every far end has a number. -/
theorem connectionsRecord?_isSome_iff {connections : Connections} :
    (numbering.connectionsRecord? connections).isSome ↔
      (∀ side color, ∀ far ∈ connections.circuit side color,
        (numbering.number? far.target).isSome) ∧
      ∀ side, ∀ far ∈ connections.copper side, (numbering.number? far.target).isSome := by
  constructor
  · intro written
    obtain ⟨record, numbered⟩ := Option.isSome_iff_exists.mp written
    obtain ⟨circuit, copper, circuits, coppers, -⟩ := connectionsRecord?_eq_some_iff.mp numbered
    exact ⟨fun side color => numberEnds?_isSome_iff.mp (Option.isSome_of_eq_some (circuits side color)),
      fun side => numberEnds?_isSome_iff.mp (Option.isSome_of_eq_some (coppers side))⟩
  · rintro ⟨circuits, coppers⟩
    have circuit := fun side color => Option.isSome_iff_exists.mp
      (numberEnds?_isSome_iff.mpr (circuits side color))
    have copper := fun side => Option.isSome_iff_exists.mp
      (numberEnds?_isSome_iff.mpr (coppers side))
    choose circuit circuitNumbered using circuit
    choose copper copperNumbered using copper
    exact Option.isSome_of_eq_some
      (connectionsRecord?_eq_some_iff.mpr ⟨circuit, copper, circuitNumbered, copperNumbered, rfl⟩)

/-- Wires are left out of a record only where there are none. -/
theorem isEmpty_ofPoints {connections : Connections}
    {circuit : CircuitSide → WireColor → List (WireEnd Nat)}
    {copper : CopperSide → List (WireEnd Nat)}
    (circuits : ∀ side color,
      numbering.numberEnds? (connections.circuit side color) = some (circuit side color))
    (coppers : ∀ side, numbering.numberEnds? (connections.copper side) = some (copper side)) :
    (ConnectionsRecord.ofPoints circuit copper).isEmpty = connections.isEmpty := by
  rw [Bool.eq_iff_iff, ConnectionsRecord.ofPoints_isEmpty_iff, Connections.isEmpty_iff]
  refine and_congr ⟨fun none side color => ?_, fun none side color => ?_⟩
    ⟨fun none side => ?_, fun none side => ?_⟩
  · exact List.length_eq_zero_iff.mp
      ((length_numberEnds? (circuits side color)).trans (by rw [none]; rfl))
  · exact List.length_eq_zero_iff.mp
      ((length_numberEnds? (circuits side color)).symm.trans (by rw [none]; rfl))
  · exact List.length_eq_zero_iff.mp ((length_numberEnds? (coppers side)).trans (by rw [none]; rfl))
  · exact List.length_eq_zero_iff.mp
      ((length_numberEnds? (coppers side)).symm.trans (by rw [none]; rfl))

end Numbering
end FactoryBlueprint
