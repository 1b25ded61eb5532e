import FactoryBlueprint.Connections.Basic

/-! # Wires terminal by terminal

What stands at each terminal after wires were changed, merged or renamed, and that the listings of
terminals leave none out.
-/

namespace FactoryBlueprint

theorem CircuitSide.mem_all (side : CircuitSide) : side ∈ CircuitSide.all := by
  cases side <;> simp [CircuitSide.all]

theorem CopperSide.mem_all (side : CopperSide) : side ∈ CopperSide.all := by
  cases side <;> simp [CopperSide.all]

theorem WireColor.mem_all (color : WireColor) : color ∈ WireColor.all := by
  cases color <;> simp [WireColor.all]

namespace WireEntry

variable {entry other : WireEntry}

/-- There is an entry where there are far ends, and then it lists them. -/
theorem ends?_eq_some_iff {fars : List (WireEnd Association)} :
    entry.ends? = some fars ↔ entry.ends ≠ [] ∧ entry.ends = fars := by
  obtain ⟨ends?, some_end⟩ := entry
  cases ends? with
  | none => simp [ends]
  | some fars =>
    rw [ends, Option.getD_some, Option.some.injEq]
    exact ⟨fun same => ⟨fun none => some_end (congrArg some none), same⟩, And.right⟩

theorem ends?_eq_none_iff : entry.ends? = none ↔ entry.ends = [] := by
  obtain ⟨ends?, some_end⟩ := entry
  cases ends? with
  | none => simp [ends]
  | some fars => simpa [ends] using some_end

/-- Entries are the same if they list the same. -/
theorem eq_of_ends (same : entry.ends = other.ends) : entry = other := by
  have both : entry.ends? = other.ends? := by
    refine Option.ext fun fars => ?_
    rw [ends?_eq_some_iff, ends?_eq_some_iff, same]
  cases entry
  cases other
  cases both
  rfl

@[simp] theorem ends_absent : absent.ends = [] := rfl

@[simp] theorem ends_add (far : WireEnd Association) :
    (entry.add far).ends = Distinct.add entry.ends far := rfl

@[simp] theorem ends_addAll (fars : List (WireEnd Association)) :
    (entry.addAll fars).ends = Distinct.addAll entry.ends fars := by
  induction fars generalizing entry with
  | nil => rfl
  | cons far rest ih => exact ih

@[simp] theorem ends_remove (leaves : WireEnd Association → Bool) :
    (entry.remove leaves).ends = entry.ends.filter (!leaves ·) := by
  unfold remove
  split
  · rename_i none
    rw [ends, none]
    rfl
  · rename_i fars some
    have here : entry.ends = fars := (ends?_eq_some_iff.mp some).2
    rw [here]
    split
    · rename_i empty
      exact empty.symm
    · rfl

@[simp] theorem ends_mapTargets (f : Association → Association) :
    (entry.mapTargets f).ends = entry.ends.map fun far => ⟨f far.target, far.terminal⟩ := by
  obtain ⟨ends?, _⟩ := entry
  cases ends? <;> rfl

end WireEntry

namespace Connections

@[simp] theorem ends_circuitEntry (connections : Connections) (side : CircuitSide)
    (color : WireColor) :
    (connections.circuitEntry side color).ends = connections.circuit side color := rfl

@[simp] theorem ends_copperEntry (connections : Connections) (side : CopperSide) :
    (connections.copperEntry side).ends = connections.copper side := rfl

/-- Wires are the same if they are at every terminal. -/
theorem eq_of_ends {connections others : Connections}
    (circuit : ∀ side color, connections.circuit side color = others.circuit side color)
    (copper : ∀ side, connections.copper side = others.copper side) : connections = others := by
  obtain ⟨⟨inRed, inGreen⟩, ⟨outRed, outGreen⟩, left, right⟩ := connections
  obtain ⟨⟨inRed', inGreen'⟩, ⟨outRed', outGreen'⟩, left', right'⟩ := others
  obtain rfl := WireEntry.eq_of_ends (circuit .input .red)
  obtain rfl := WireEntry.eq_of_ends (circuit .input .green)
  obtain rfl := WireEntry.eq_of_ends (circuit .output .red)
  obtain rfl := WireEntry.eq_of_ends (circuit .output .green)
  obtain rfl := WireEntry.eq_of_ends (copper .left)
  obtain rfl := WireEntry.eq_of_ends (copper .right)
  rfl

/-- The wires with the given far ends at each terminal, each once. -/
def ofEnds (circuit : CircuitSide → WireColor → List (WireEnd Association))
    (copper : CopperSide → List (WireEnd Association)) : Connections where
  input := ⟨.addAll .absent (circuit .input .red), .addAll .absent (circuit .input .green)⟩
  output := ⟨.addAll .absent (circuit .output .red), .addAll .absent (circuit .output .green)⟩
  copperLeft := .addAll .absent (copper .left)
  copperRight := .addAll .absent (copper .right)

theorem circuit_ofEnds (circuit : CircuitSide → WireColor → List (WireEnd Association))
    (copper : CopperSide → List (WireEnd Association)) (side : CircuitSide) (color : WireColor) :
    (ofEnds circuit copper).circuit side color = Distinct.addAll [] (circuit side color) := by
  cases side <;> cases color <;> exact WireEntry.ends_addAll _

theorem copper_ofEnds (circuit : CircuitSide → WireColor → List (WireEnd Association))
    (copper : CopperSide → List (WireEnd Association)) (side : CopperSide) :
    (ofEnds circuit copper).copper side = Distinct.addAll [] (copper side) := by
  cases side <;> exact WireEntry.ends_addAll _

@[simp] theorem circuit_modifyCircuit (connections : Connections) (side other : CircuitSide)
    (color wire : WireColor) (f : WireEntry → WireEntry) :
    (connections.modifyCircuit side color f).circuit other wire =
      if other = side ∧ wire = color then (f (connections.circuitEntry side color)).ends
      else connections.circuit other wire := by
  cases side <;> cases other <;> cases color <;> cases wire <;> rfl

@[simp] theorem copper_modifyCircuit (connections : Connections) (side : CircuitSide)
    (other : CopperSide) (color : WireColor) (f : WireEntry → WireEntry) :
    (connections.modifyCircuit side color f).copper other = connections.copper other := by
  cases side <;> cases other <;> rfl

@[simp] theorem copper_modifyCopper (connections : Connections) (side other : CopperSide)
    (f : WireEntry → WireEntry) :
    (connections.modifyCopper side f).copper other =
      if other = side then (f (connections.copperEntry side)).ends
      else connections.copper other := by
  cases side <;> cases other <;> rfl

@[simp] theorem circuit_modifyCopper (connections : Connections) (side : CopperSide)
    (other : CircuitSide) (color : WireColor) (f : WireEntry → WireEntry) :
    (connections.modifyCopper side f).circuit other color = connections.circuit other color := by
  cases side <;> cases other <;> rfl

theorem foldl_addCircuit (connections : Connections) (side : CircuitSide) (color : WireColor)
    (fars : List (WireEnd Association)) :
    fars.foldl (·.addCircuit side color ·) connections =
      connections.modifyCircuit side color (·.addAll fars) := by
  induction fars generalizing connections with
  | nil => cases side <;> cases color <;> rfl
  | cons far rest ih =>
    rw [List.foldl_cons, ih]
    cases side <;> cases color <;> rfl

theorem foldl_addCopper (connections : Connections) (side : CopperSide)
    (fars : List (WireEnd Association)) :
    fars.foldl (·.addCopper side ·) connections =
      connections.modifyCopper side (·.addAll fars) := by
  induction fars generalizing connections with
  | nil => cases side <;> rfl
  | cons far rest ih =>
    rw [List.foldl_cons, ih]
    cases side <;> rfl

/-- Where a step does nothing without far ends, it is the same to go through all terminals and colours
or through those that have an entry. -/
theorem foldl_circuitEntries {α : Type} (connections : Connections)
    (step : α → CircuitSide → WireColor → List (WireEnd Association) → α)
    (idle : ∀ a side color, step a side color [] = a) (a : α) :
    connections.circuitEntries.foldl (fun a (side, color, ends) => step a side color ends) a =
      CircuitSide.all.foldl (fun a side => WireColor.all.foldl (fun a color =>
        step a side color (connections.circuit side color)) a) a := by
  rw [circuitEntries, List.foldl_flatMap]
  congr 1
  funext a side
  rw [List.foldl_filterMap]
  congr 1
  funext a color
  rw [circuit, WireEntry.ends]
  cases (connections.circuitEntry side color).ends? with
  | none => exact (idle a side color).symm
  | some ends => rfl

theorem foldl_copperEntries {α : Type} (connections : Connections)
    (step : α → CopperSide → List (WireEnd Association) → α) (idle : ∀ a side, step a side [] = a)
    (a : α) :
    connections.copperEntries.foldl (fun a (side, ends) => step a side ends) a =
      CopperSide.all.foldl (fun a side => step a side (connections.copper side)) a := by
  rw [copperEntries, List.foldl_filterMap]
  congr 1
  funext a side
  rw [copper, WireEntry.ends]
  cases (connections.copperEntry side).ends? with
  | none => exact (idle a side).symm
  | some ends => rfl

/-- Merging adds the far ends terminal by terminal. -/
theorem merge_eq (connections others : Connections) :
    connections.merge others =
      { input := ⟨connections.input.red.addAll (others.circuit .input .red),
          connections.input.green.addAll (others.circuit .input .green)⟩
        output := ⟨connections.output.red.addAll (others.circuit .output .red),
          connections.output.green.addAll (others.circuit .output .green)⟩
        copperLeft := connections.copperLeft.addAll (others.copper .left)
        copperRight := connections.copperRight.addAll (others.copper .right) } := by
  have circuits := others.foldl_circuitEntries
    (fun (wires : Connections) side color => List.foldl (·.addCircuit side color ·) wires)
    fun _ _ _ => rfl
  have coppers := others.foldl_copperEntries
    (fun (wires : Connections) side => List.foldl (·.addCopper side ·) wires) fun _ _ => rfl
  rw [merge, circuits, coppers]
  simp only [foldl_addCircuit, foldl_addCopper]
  rfl

theorem circuit_merge (connections others : Connections) (side : CircuitSide) (color : WireColor) :
    (connections.merge others).circuit side color =
      Distinct.addAll (connections.circuit side color) (others.circuit side color) := by
  rw [merge_eq]
  cases side <;> cases color <;> exact WireEntry.ends_addAll _

theorem copper_merge (connections others : Connections) (side : CopperSide) :
    (connections.merge others).copper side =
      Distinct.addAll (connections.copper side) (others.copper side) := by
  rw [merge_eq]
  cases side <;> exact WireEntry.ends_addAll _

theorem circuit_mapTargets (connections : Connections) (f : Association → Association)
    (side : CircuitSide) (color : WireColor) :
    (connections.mapTargets f).circuit side color =
      (connections.circuit side color).map fun far => ⟨f far.target, far.terminal⟩ := by
  cases side <;> cases color <;> exact WireEntry.ends_mapTargets f

theorem copper_mapTargets (connections : Connections) (f : Association → Association)
    (side : CopperSide) :
    (connections.mapTargets f).copper side =
      (connections.copper side).map fun far => ⟨f far.target, far.terminal⟩ := by
  cases side <;> exact WireEntry.ends_mapTargets f

variable {connections : Connections}

/-! ### A wire more or less -/

theorem mem_circuit_addCircuit {side other : CircuitSide} {color wire : WireColor}
    {added far : WireEnd Association} :
    far ∈ (connections.addCircuit side color added).circuit other wire ↔
      far ∈ connections.circuit other wire ∨ other = side ∧ wire = color ∧ far = added := by
  rw [addCircuit, circuit_modifyCircuit]
  split
  · rename_i here
    obtain ⟨rfl, rfl⟩ := here
    simp [Distinct.mem_add]
  · rename_i elsewhere
    exact ⟨.inl, fun either => either.resolve_right fun new => elsewhere ⟨new.1, new.2.1⟩⟩

theorem mem_circuit_removeCircuit {side other : CircuitSide} {color wire : WireColor}
    {target : Key} {terminal : Option Nat} {far : WireEnd Association} :
    far ∈ (connections.removeCircuit side color target terminal).circuit other wire ↔
      far ∈ connections.circuit other wire ∧
        ¬(other = side ∧ wire = color ∧ far.target.target = target ∧ far.terminal = terminal) := by
  rw [removeCircuit, circuit_modifyCircuit]
  split
  · rename_i here
    obtain ⟨rfl, rfl⟩ := here
    simp [Association.pointsTo, Decidable.imp_iff_not_or]
  · rename_i elsewhere
    exact ⟨fun mem => ⟨mem, fun out => elsewhere ⟨out.1, out.2.1⟩⟩, And.left⟩

theorem mem_copper_addCopper {side other : CopperSide} {added far : WireEnd Association} :
    far ∈ (connections.addCopper side added).copper other ↔
      far ∈ connections.copper other ∨ other = side ∧ far = added := by
  rw [addCopper, copper_modifyCopper]
  split
  · rename_i here
    subst here
    simp [Distinct.mem_add]
  · rename_i elsewhere
    exact ⟨.inl, fun either => either.resolve_right fun new => elsewhere new.1⟩

theorem mem_copper_removeCopper {side other : CopperSide} {target : Key}
    {far : WireEnd Association} :
    far ∈ (connections.removeCopper side target).copper other ↔
      far ∈ connections.copper other ∧ ¬(other = side ∧ far.target.target = target) := by
  rw [removeCopper, copper_modifyCopper]
  split
  · rename_i here
    subst here
    simp [Association.pointsTo]
  · rename_i elsewhere
    exact ⟨fun mem => ⟨mem, fun out => elsewhere out.1⟩, And.left⟩

section Undone

variable {side other : CircuitSide} {color wire : WireColor}

theorem modifyCircuit_modifyCircuit (f g : WireEntry → WireEntry) :
    (connections.modifyCircuit side color f).modifyCircuit side color g =
      connections.modifyCircuit side color fun entry => g (f entry) := by
  cases side <;> cases color <;> rfl

/-- Changes at two terminals, or of two colours, can be exchanged. -/
theorem modifyCircuit_comm (apart : ¬(side = other ∧ color = wire))
    (f g : WireEntry → WireEntry) :
    (connections.modifyCircuit side color f).modifyCircuit other wire g =
      (connections.modifyCircuit other wire g).modifyCircuit side color f := by
  cases side <;> cases other <;> cases color <;> cases wire <;>
    first | rfl | exact absurd ⟨rfl, rfl⟩ apart

theorem modifyCircuit_eq_self {f : WireEntry → WireEntry}
    (same : (f (connections.circuitEntry side color)).ends = connections.circuit side color) :
    connections.modifyCircuit side color f = connections := by
  refine eq_of_ends (fun other wire => ?_) fun other => copper_modifyCircuit ..
  rw [circuit_modifyCircuit]
  split
  · rename_i here
    rw [here.1, here.2, same]
  · rfl

/-- A wire that is there already is not added. -/
theorem addCircuit_addCircuit (far : WireEnd Association) :
    (connections.addCircuit side color far).addCircuit side color far =
      connections.addCircuit side color far := by
  refine modifyCircuit_eq_self ?_
  have there : far ∈ (connections.addCircuit side color far).circuit side color :=
    mem_circuit_addCircuit.mpr (.inr ⟨rfl, rfl, rfl⟩)
  rw [WireEntry.ends_add, ends_circuitEntry, Distinct.add, if_pos there]

/-- A wire that was new is taken away again; only associations of another list could go with it. -/
theorem removeCircuit_addCircuit {far : WireEnd Association}
    (new : far ∉ connections.circuit side color)
    (own : ∀ old ∈ connections.circuit side color, old.target.list = far.target.list) :
    (connections.addCircuit side color far).removeCircuit side color far.target.target
      far.terminal = connections := by
  rw [addCircuit, removeCircuit, modifyCircuit_modifyCircuit]
  refine modifyCircuit_eq_self ?_
  have kept (old : WireEnd Association) (mem : old ∈ connections.circuit side color) :
      ¬(old.target.target = far.target.target ∧ old.terminal = far.terminal) := by
    rintro ⟨target, terminal⟩
    have same : old = far := by
      obtain ⟨⟨list, key⟩, number⟩ := old
      obtain rfl : list = far.target.list := own _ mem
      obtain rfl : key = far.target.target := target
      obtain rfl : number = far.terminal := terminal
      rfl
    exact new (same ▸ mem)
  rw [WireEntry.ends_remove, WireEntry.ends_add, ends_circuitEntry, Distinct.add, if_neg new,
    List.filter_append, List.filter_eq_self.mpr fun old mem => by
    simpa [Association.pointsTo, Decidable.imp_iff_not_or] using kept old mem]
  simp [Association.pointsTo]

end Undone

/-! ### Listings -/

/-- Listed are the terminals and colours that have wires. -/
theorem mem_circuitEntries_iff {entry : CircuitSide × WireColor × List (WireEnd Association)} :
    entry ∈ connections.circuitEntries ↔
      connections.circuit entry.1 entry.2.1 ≠ [] ∧
        entry = (entry.1, entry.2.1, connections.circuit entry.1 entry.2.1) := by
  obtain ⟨side, color, ends⟩ := entry
  simp only [circuitEntries, List.mem_flatMap, List.mem_filterMap, Option.map_eq_some_iff,
    WireEntry.ends?_eq_some_iff, ends_circuitEntry]
  constructor
  · rintro ⟨s, -, c, -, told, ⟨some, rfl⟩, same⟩
    obtain ⟨rfl, rfl, rfl⟩ := by simpa using same
    exact ⟨some, rfl⟩
  · rintro ⟨some, same⟩
    exact ⟨side, side.mem_all, color, color.mem_all, _, ⟨some, rfl⟩, same.symm⟩

theorem mem_copperEntries_iff {entry : CopperSide × List (WireEnd Association)} :
    entry ∈ connections.copperEntries ↔
      connections.copper entry.1 ≠ [] ∧ entry = (entry.1, connections.copper entry.1) := by
  obtain ⟨side, ends⟩ := entry
  simp only [copperEntries, List.mem_filterMap, Option.map_eq_some_iff,
    WireEntry.ends?_eq_some_iff, ends_copperEntry]
  constructor
  · rintro ⟨s, -, told, ⟨some, rfl⟩, same⟩
    obtain ⟨rfl, rfl⟩ := by simpa using same
    exact ⟨some, rfl⟩
  · rintro ⟨some, same⟩
    exact ⟨side, side.mem_all, _, ⟨some, rfl⟩, same.symm⟩

/-- The targets are those of the far ends at all terminals. -/
theorem mem_targets_iff {association : Association} :
    association ∈ connections.targets ↔
      (∃ side color, ∃ far ∈ connections.circuit side color, far.target = association) ∨
      ∃ side, ∃ far ∈ connections.copper side, far.target = association := by
  simp only [targets, List.mem_append, List.mem_flatMap, mem_circuitEntries_iff,
    mem_copperEntries_iff]
  refine or_congr ?_ ?_
  · constructor
    · rintro ⟨⟨side, color, ends⟩, ⟨-, same⟩, mem⟩
      obtain ⟨far, here, target⟩ := List.mem_map.mp mem
      simp only [Prod.mk.injEq, true_and] at same
      exact ⟨side, color, far, same ▸ here, target⟩
    · rintro ⟨side, color, far, mem, rfl⟩
      exact ⟨(side, color, connections.circuit side color), ⟨List.ne_nil_of_mem mem, rfl⟩,
        List.mem_map_of_mem mem⟩
  · constructor
    · rintro ⟨⟨side, ends⟩, ⟨-, same⟩, mem⟩
      obtain ⟨far, here, target⟩ := List.mem_map.mp mem
      simp only [Prod.mk.injEq, true_and] at same
      exact ⟨side, far, same ▸ here, target⟩
    · rintro ⟨side, far, mem, rfl⟩
      exact ⟨(side, connections.copper side), ⟨List.ne_nil_of_mem mem, rfl⟩,
        List.mem_map_of_mem mem⟩

theorem isEmpty_iff :
    connections.isEmpty = true ↔
      (∀ side color, connections.circuit side color = []) ∧
      ∀ side, connections.copper side = [] := by
  rw [isEmpty, Bool.and_eq_true, List.isEmpty_iff, List.isEmpty_iff,
    List.eq_nil_iff_forall_not_mem, List.eq_nil_iff_forall_not_mem]
  refine and_congr ⟨fun none side color => ?_, fun none entry mem => ?_⟩
    ⟨fun none side => ?_, fun none entry mem => ?_⟩
  · exact Decidable.byContradiction fun some =>
      none (side, color, connections.circuit side color)
        (mem_circuitEntries_iff.mpr ⟨some, rfl⟩)
  · exact (mem_circuitEntries_iff.mp mem).1 (none _ _)
  · exact Decidable.byContradiction fun some =>
      none (side, connections.copper side) (mem_copperEntries_iff.mpr ⟨some, rfl⟩)
  · exact (mem_copperEntries_iff.mp mem).1 (none _)

/-! ### Far ends that are listed once -/

/-- No far end is listed twice at a terminal. -/
structure Once (connections : Connections) : Prop where
  circuit : ∀ side color, (connections.circuit side color).Nodup
  copper : ∀ side, (connections.copper side).Nodup

namespace Once

theorem modifyCircuit (once : connections.Once) (side : CircuitSide) (color : WireColor)
    {f : WireEntry → WireEntry}
    (keeps : ∀ entry : WireEntry, entry.ends.Nodup → (f entry).ends.Nodup) :
    (connections.modifyCircuit side color f).Once where
  circuit other wire := by
    rw [circuit_modifyCircuit]
    split
    · exact keeps _ (once.circuit side color)
    · exact once.circuit other wire
  copper other := by
    rw [copper_modifyCircuit]
    exact once.copper other

theorem modifyCopper (once : connections.Once) (side : CopperSide) {f : WireEntry → WireEntry}
    (keeps : ∀ entry : WireEntry, entry.ends.Nodup → (f entry).ends.Nodup) :
    (connections.modifyCopper side f).Once where
  circuit other color := by
    rw [circuit_modifyCopper]
    exact once.circuit other color
  copper other := by
    rw [copper_modifyCopper]
    split
    · exact keeps _ (once.copper side)
    · exact once.copper other

theorem merge (once : connections.Once) (others : Connections) :
    (connections.merge others).Once where
  circuit side color := by
    rw [circuit_merge]
    exact Distinct.nodup_addAll (once.circuit side color) _
  copper side := by
    rw [copper_merge]
    exact Distinct.nodup_addAll (once.copper side) _

theorem circuitEntries (once : connections.Once)
    {entry : CircuitSide × WireColor × List (WireEnd Association)}
    (mem : entry ∈ connections.circuitEntries) : entry.2.2 ≠ [] ∧ entry.2.2.Nodup := by
  obtain ⟨some, same⟩ := mem_circuitEntries_iff.mp mem
  rw [same]
  exact ⟨some, once.circuit _ _⟩

theorem copperEntries (once : connections.Once) {entry : CopperSide × List (WireEnd Association)}
    (mem : entry ∈ connections.copperEntries) : entry.2 ≠ [] ∧ entry.2.Nodup := by
  obtain ⟨some, same⟩ := mem_copperEntries_iff.mp mem
  rw [same]
  exact ⟨some, once.copper _⟩

end Once

end Connections
end FactoryBlueprint
