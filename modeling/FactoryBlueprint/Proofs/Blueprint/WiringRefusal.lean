import FactoryBlueprint.Proofs.Blueprint.PoleWires

/-! # What refused wiring leaves behind

Calls that wire entities, or put locomotives into schedules, check before they change anything, so
that a refused call changes nothing (`refused_wiring`). Four kinds of call go on with checks after the
first edit, and leave that edit behind when they are refused (`Leftover`).
-/

namespace FactoryBlueprint

/-- True if a call that wires, or that changes the locomotives of a schedule, is refused. -/
def Operation.isRefused (blueprint : Blueprint) : Operation → Bool
  | addCircuit color a b sideA sideB => !(blueprint.addCircuit color a b sideA sideB).2.isOk
  | removeCircuit color a b sideA sideB => !(blueprint.removeCircuit color a b sideA sideB).2.isOk
  | addPower a b => !(blueprint.addPower a b).2.isOk
  | removePower a b => !(blueprint.removePower a b).2.isOk
  | removeAllPower key => !(blueprint.removeAllPower key).2.isOk
  | addCopper switch side pole => !(blueprint.addCopper switch side pole).2.isOk
  | removeCopper switch side pole => !(blueprint.removeCopper switch side pole).2.isOk
  | addLocomotive i key => !(blueprint.addLocomotive i key).2.isOk
  | removeLocomotive i key => !(blueprint.removeLocomotive i key).2.isOk
  | _ => false

/-- Only the pedantic mode refuses warnings, if there are any. -/
theorem ValidationMode.of_accept_eq_error {mode : ValidationMode} {warnings : List Warning}
    {error : Error} (refused : mode.accept warnings = .error error) :
    mode = .pedantic ∧ warnings ≠ [] := by
  cases mode with
  | pedantic =>
    cases warnings with
    | nil => contradiction
    | cons warning rest => exact ⟨rfl, List.cons_ne_nil _ _⟩
  | _ => contradiction

namespace Blueprint

variable {blueprint : Blueprint} {a b : Key} {f g : Entity → Entity}

/-- The entities have been edited, and nothing else has changed. -/
structure Edits (edit : Key → Entity → Entity) (blueprint after : Blueprint) : Prop where
  rest : after = { blueprint with entities := after.entities }
  entities : EntityList.Revised edit blueprint.entities after.entities

/-- An edit of two entities is refused if one is not there; the first stays edited. -/
theorem modifyBoth_refused (refused : (blueprint.modifyBoth a b f g).2.isOk = false) :
    (blueprint.modifyBoth a b f g).1 = blueprint ∨
      blueprint.entities.entity? b = none ∧
        Edits (EntityList.editAt a f) blueprint (blueprint.modifyBoth a b f g).1 := by
  unfold modifyBoth at refused ⊢
  cases first : blueprint.entities.modify? blueprint.table a f with
  | none => exact .inl rfl
  | some middle =>
    have revised := EntityList.revised_of_modify? first
    rw [first] at refused
    dsimp only at refused ⊢
    cases second : middle.modify? blueprint.table b g with
    | none =>
      have missing := EntityList.modify?_eq_none_iff.mp second
      rw [revised.entity?_eq, Option.map_eq_none_iff] at missing
      exact .inr ⟨missing, rfl, revised⟩
    | some after =>
      rw [second] at refused
      contradiction

/-- Two entities that are there are edited, one after the other. -/
theorem modifyBoth_of_stored {first second : Entity}
    (storedA : blueprint.entities.entity? a = some first)
    (storedB : blueprint.entities.entity? b = some second) (f g : Entity → Entity) :
    ∃ middle after, blueprint.entities.modify? blueprint.table a f = some middle ∧
      middle.modify? blueprint.table b g = some after ∧
      blueprint.modifyBoth a b f g = ({ blueprint with entities := after }, .ok ()) := by
  cases edited : blueprint.entities.modify? blueprint.table a f with
  | none =>
    rw [EntityList.modify?_eq_none_iff, storedA] at edited
    contradiction
  | some middle =>
    have revised := EntityList.revised_of_modify? edited
    cases again : middle.modify? blueprint.table b g with
    | none =>
      rw [EntityList.modify?_eq_none_iff, revised.entity?_eq, storedB] at again
      contradiction
    | some after =>
      refine ⟨middle, after, rfl, again, ?_⟩
      simp only [modifyBoth, edited, again]

theorem modifyBoth_isOk {first second : Entity} (storedA : blueprint.entities.entity? a = some first)
    (storedB : blueprint.entities.entity? b = some second) :
    (blueprint.modifyBoth a b f g).2 = .ok () := by
  obtain ⟨_, _, -, -, same⟩ := modifyBoth_of_stored storedA storedB f g
  rw [same]

/-! ### What may be left -/

/-- What is left behind by a refused call that had begun to edit. -/
inductive Leftover (blueprint : Blueprint) : Operation → Prop
  /-- Two poles are joined, though one of them then has too many neighbours for the pedantic mode. -/
  | joined {a b : Key} {first second : Entity} (pedantic : blueprint.mode = .pedantic)
      (checked : blueprint.PowerChecked a b first second)
      (crowded : ∃ key pole, (key = a ∨ key = b) ∧
        (blueprint.addPower a b).1.entities.entity? key = some pole ∧
        Warning.maxNeighbours < pole.neighbours.length)
      (edits : Edits (Entity.linkBoth blueprint.entities.id a b) blueprint
        (blueprint.addPower a b).1) : Leftover blueprint (.addPower a b)
  /-- The first of two poles no longer lists the second, which is no entity. -/
  | unlinked {a b : Key} (missing : blueprint.entities.entity? b = none)
      (edits : Edits (EntityList.editAt a (unlink b)) blueprint (blueprint.removePower a b).1) :
      Leftover blueprint (.removePower a b)
  /-- The neighbours of a pole before the first that is no entity no longer list the pole. -/
  | isolated {key : Key} {pole : Entity} {done rest : List Association} {group : Key}
      (stored : blueprint.entities.entity? key = some pole)
      (listed : pole.neighbours = done ++ blueprint.entities.associate group :: rest)
      (here : (blueprint.entities.get? group).isSome)
      (missing : blueprint.entities.entity? group = none)
      (edits : Edits (Entity.unlinkAmong blueprint.entities.id done key) blueprint
        (blueprint.removeAllPower key).1) : Leftover blueprint (.removeAllPower key)
  /-- A terminal of a switch no longer leads to a pole, which is no entity. -/
  | unfed {switch pole : Key} {side : CopperSide} (missing : blueprint.entities.entity? pole = none)
      (edits : Edits (EntityList.editAt switch fun entity =>
          { entity with connections := entity.connections.removeCopper side pole }) blueprint
        (blueprint.removeCopper switch side pole).1) :
      Leftover blueprint (.removeCopper switch side pole)

/-! ### Calls -/

theorem refused_addCircuit {color : WireColor} {sideA sideB : CircuitSide}
    (refused : (blueprint.addCircuit color a b sideA sideB).2.isOk = false) :
    (blueprint.addCircuit color a b sideA sideB).1 = blueprint := by
  unfold addCircuit at refused ⊢
  split at refused
  · rfl
  · rename_i toB toA warnings found
    obtain ⟨first, second, checked⟩ := circuitChecked_of_checkCircuit found
    dsimp only at refused
    rw [modifyBoth_isOk checked.storedA checked.storedB] at refused
    contradiction

theorem refused_removeCircuit {color : WireColor} {sideA sideB : CircuitSide}
    (refused : (blueprint.removeCircuit color a b sideA sideB).2.isOk = false) :
    (blueprint.removeCircuit color a b sideA sideB).1 = blueprint := by
  unfold removeCircuit at refused ⊢
  cases ends : (do pure (← blueprint.endpoint a, ← blueprint.endpoint b) :
      Except Error (Endpoint × Endpoint)) with
  | error error => rfl
  | ok pair =>
    obtain ⟨first, atA, rest⟩ := bind_eq_ok_iff.mp ends
    obtain ⟨second, atB, -⟩ := bind_eq_ok_iff.mp rest
    rw [ends] at refused
    dsimp only at refused
    rw [modifyBoth_isOk (entity?_of_endpoint atA) (entity?_of_endpoint atB)] at refused
    contradiction

/-- Two poles that passed the check are joined, and their neighbours counted. -/
theorem addPower_of_checked {warnings : List Warning}
    (found : blueprint.checkPower a b = .ok warnings) :
    Edits (Entity.linkBoth blueprint.entities.id a b) blueprint (blueprint.addPower a b).1 ∧
      (blueprint.addPower a b).2 = (do
        let first ← (blueprint.addPower a b).1.neighbourWarnings a
        let second ← (blueprint.addPower a b).1.neighbourWarnings b
        pure (warnings ++ first ++ second)) := by
  obtain ⟨first, second, checked⟩ := powerChecked_of_checkPower found
  have isOk := @modifyBoth_isOk blueprint a b (Entity.link (blueprint.entities.associate b))
    (Entity.link (blueprint.entities.associate a)) first second checked.storedA checked.storedB
  have rest := blueprint.rest_modifyBoth a b (Entity.link (blueprint.entities.associate b))
    (Entity.link (blueprint.entities.associate a))
  have cases_ := blueprint.modifyBoth_cases a b (Entity.link (blueprint.entities.associate b))
    (Entity.link (blueprint.entities.associate a))
  have added : blueprint.addPower a b =
      let both := blueprint.modifyBoth a b (Entity.link (blueprint.entities.associate b))
        (Entity.link (blueprint.entities.associate a))
      (both.1, do
        both.2
        let first ← both.1.neighbourWarnings a
        let second ← both.1.neighbourWarnings b
        pure (warnings ++ first ++ second)) := by
    rw [addPower, found]
    rfl
  rw [added]
  dsimp only
  rw [isOk]
  refine ⟨⟨rest, cases_.resolve_left fun missing => ?_⟩, rfl⟩
  rw [checked.storedA] at missing
  exact Option.some_ne_none _ missing.1

/-- Only in the pedantic mode too many neighbours are refused. -/
theorem crowded_of_neighbourWarnings {key : Key} {error : Error}
    (refused : blueprint.neighbourWarnings key = .error error) : blueprint.mode = .pedantic ∧
      ∃ pole, blueprint.entities.entity? key = some pole ∧
        Warning.maxNeighbours < pole.neighbours.length := by
  unfold neighbourWarnings at refused
  split at refused
  · contradiction
  · rename_i pole stored
    obtain ⟨pedantic, some⟩ := ValidationMode.of_accept_eq_error refused
    refine ⟨pedantic, pole, stored, ?_⟩
    by_contra few
    rw [if_neg few] at some
    exact some rfl

theorem refused_addPower (refused : (blueprint.addPower a b).2.isOk = false) :
    (blueprint.addPower a b).1 = blueprint ∨ Leftover blueprint (.addPower a b) := by
  cases found : blueprint.checkPower a b with
  | error error =>
    rw [addPower, found]
    exact .inl rfl
  | ok warnings =>
    obtain ⟨first, second, checked⟩ := powerChecked_of_checkPower found
    obtain ⟨edits, outcome⟩ := addPower_of_checked found
    have mode : (blueprint.addPower a b).1.mode = blueprint.mode := by rw [edits.rest]
    rw [outcome] at refused
    refine .inr ?_
    cases atA : (blueprint.addPower a b).1.neighbourWarnings a with
    | error error =>
      obtain ⟨pedantic, pole, stored, many⟩ := crowded_of_neighbourWarnings atA
      exact .joined (mode.symm.trans pedantic) checked ⟨a, pole, .inl rfl, stored, many⟩ edits
    | ok one =>
      cases atB : (blueprint.addPower a b).1.neighbourWarnings b with
      | error error =>
        obtain ⟨pedantic, pole, stored, many⟩ := crowded_of_neighbourWarnings atB
        exact .joined (mode.symm.trans pedantic) checked ⟨b, pole, .inr rfl, stored, many⟩ edits
      | ok two =>
        rw [atA, atB] at refused
        contradiction

theorem refused_removeAllPower {key : Key} (refused : (blueprint.removeAllPower key).2.isOk = false) :
    (blueprint.removeAllPower key).1 = blueprint ∨ Leftover blueprint (.removeAllPower key) := by
  rcases blueprint.removeAllPower_cases key with ⟨-, same⟩ |
    ⟨pole, stored, ⟨ok, -⟩ | ⟨-, done, group, rest, listed, here, missing, revised⟩⟩
  · exact .inl (congrArg Prod.fst same)
  · rw [ok] at refused
    contradiction
  · exact .inr (.isolated stored listed here missing ⟨blueprint.rest_removeAllPower key, revised⟩)

theorem refused_addCopper {switch pole : Key} {side : CopperSide}
    (refused : (blueprint.addCopper switch side pole).2.isOk = false) :
    (blueprint.addCopper switch side pole).1 = blueprint := by
  unfold addCopper at refused ⊢
  split at refused
  · rfl
  · rename_i found
    obtain ⟨first, second, checked⟩ := copperChecked_of_checkCopper found
    dsimp only at refused
    rw [modifyBoth_isOk checked.storedSwitch checked.storedPole] at refused
    contradiction

theorem refused_edited {α : Type} {outcome : Except Error (Blueprint × α)}
    (refused : (blueprint.edited outcome).2.isOk = false) :
    (blueprint.edited outcome).1 = blueprint := by
  cases outcome with
  | error error => rfl
  | ok result => contradiction

theorem refused_addLocomotive {i : Nat} {key : Key}
    (refused : (blueprint.addLocomotive i key).2.isOk = false) :
    (blueprint.addLocomotive i key).1 = blueprint := by
  unfold addLocomotive at refused ⊢
  split at refused
  · rfl
  · split at refused
    · rename_i kind
      rw [if_pos kind]
    · rename_i kind
      rw [if_neg kind]
      exact refused_edited refused

/-- A refused call that wires, or that changes the locomotives of a schedule, changes nothing but what
is left behind in four cases. -/
theorem refused_wiring {operation : Operation} (refused : operation.isRefused blueprint = true) :
    operation.apply blueprint = blueprint ∨ Leftover blueprint operation := by
  have outcome {α : Type} {edited : Edited α} (bad : (!edited.2.isOk) = true) :
      edited.2.isOk = false := by simpa using bad
  cases operation with
  | addCircuit => exact .inl (refused_addCircuit (outcome refused))
  | removeCircuit => exact .inl (refused_removeCircuit (outcome refused))
  | addPower => exact refused_addPower (outcome refused)
  | removePower =>
    exact (modifyBoth_refused (outcome refused)).imp_right fun left => .unlinked left.1 left.2
  | removeAllPower => exact refused_removeAllPower (outcome refused)
  | addCopper => exact .inl (refused_addCopper (outcome refused))
  | removeCopper =>
    exact (modifyBoth_refused (outcome refused)).imp_right fun left => .unfed left.1 left.2
  | addLocomotive => exact .inl (refused_addLocomotive (outcome refused))
  | removeLocomotive => exact .inl (refused_edited (outcome refused))
  | _ => contradiction

/-! ### A crowded pole -/

/-- Poles in a row. -/
def poleRow (places : List Binary64) : Blueprint :=
  places.foldl (fun blueprint x => blueprint.append (poleAt x)) (empty poleTable ⟨0⟩)

/-- In the pedantic mode, the first of seven poles has as many neighbours as it may have. -/
def crowdedPole : Blueprint :=
  ([1, 2, 3, 4, 5].map fun slot => Operation.addPower ⟨0, 0⟩ ⟨slot, 0⟩).foldl Operation.apply
    { poleRow [0.5, 1.5, 2.5, 3.5, 4.5, 5.5, 6.5] with mode := .pedantic }

theorem reachable_crowdedPole : Reachable (fun _ _ => True) crowdedPole := by
  refine ⟨_, .empty poleTable ⟨0⟩, Run.calls _ (Run.step (.setMode .pedantic) ?_ trivial)⟩
  repeat' refine Run.append ?_ (.empty poleTable ⟨0⟩) trivial (by decide) (by decide +kernel)
  exact .start

/-- No entity has other wires or neighbours, and the schedules are the same. -/
structure SameWiring (before after : Blueprint) : Prop where
  entities : ∀ key,
    (after.entities.entity? key).map (fun entity => (entity.connections, entity.neighbours)) =
      (before.entities.entity? key).map fun entity => (entity.connections, entity.neighbours)
  schedules : after.schedules = before.schedules

theorem isRefused_crowdedPole :
    (Operation.addPower ⟨0, 0⟩ ⟨6, 0⟩).isRefused crowdedPole = true := by decide +kernel

theorem refused_wiring_crowdedPole :
    (Operation.addPower ⟨0, 0⟩ ⟨6, 0⟩).isRefused crowdedPole = true ∧
      ((Operation.addPower ⟨0, 0⟩ ⟨6, 0⟩).apply crowdedPole = crowdedPole ∨
        Leftover crowdedPole (.addPower ⟨0, 0⟩ ⟨6, 0⟩)) :=
  ⟨isRefused_crowdedPole, refused_wiring isRefused_crowdedPole⟩

/-- One more wire is refused, and stays. -/
theorem refused_wire_stays : Reachable (fun _ _ => True) crowdedPole ∧
    (Operation.addPower ⟨0, 0⟩ ⟨6, 0⟩).isRefused crowdedPole = true ∧
    ¬ SameWiring crowdedPole ((Operation.addPower ⟨0, 0⟩ ⟨6, 0⟩).apply crowdedPole) := by
  refine ⟨reachable_crowdedPole, isRefused_crowdedPole, fun same => ?_⟩
  have before : (crowdedPole.entities.entity? ⟨6, 0⟩).map (·.neighbours) = some [] := by
    decide +kernel
  have after : (((Operation.addPower ⟨0, 0⟩ ⟨6, 0⟩).apply crowdedPole).entities.entity? ⟨6, 0⟩).map
      (·.neighbours) = some [⟨⟨0⟩, ⟨0, 0⟩⟩] := by decide +kernel
  have neighbours := congrArg (Option.map Prod.snd) (same.entities ⟨6, 0⟩)
  rw [Option.map_map, Option.map_map] at neighbours
  exact nomatch before.symm.trans (neighbours.symm.trans after)

end Blueprint
end FactoryBlueprint
