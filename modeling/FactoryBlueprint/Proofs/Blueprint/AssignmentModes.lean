import FactoryBlueprint.Proofs.Blueprint.Operation
import FactoryBlueprint.Proofs.Blueprint.Refilling
import FactoryBlueprint.Proofs.Vetting

/-! # Assigning in another mode

The calls that tell what there is to warn of do the same in every mode, but for what becomes of the
warnings (`vets_run`). Each is a sequence of steps, and only those that accept warnings look at the
mode.
-/

namespace FactoryBlueprint

open Reported

/-! ### Lists -/

section Lists

variable {looks : Prop} {α : Type} (mode : ValidationMode)

/-- What placing something reports, with the list, the place and the extent that it leaves. -/
def Placement.reported (outcome : α × Except Error (Placement × Extent)) :
    Reported (α × Key × Bool × Extent) :=
  outcome.2.map fun (placement, extent) =>
    ((outcome.1, placement.key, placement.merged, extent), placement.warnings)

/-- How an insertion ends: what was placed stays if the warnings are accepted and the extent can be
extended. -/
theorem Placement.vets_extended (warnings : List Warning) (step : Except Error Extent)
    (undone done : α) (key : Key) :
    let finish (mode : ValidationMode) : α × Except Error (Placement × Extent) :=
      match (do
        let warnings ← mode.accept warnings
        pure (warnings, ← step) : Except Error (List Warning × Extent)) with
      | .error error => (undone, .error error)
      | .ok (warnings, extent) => (done, .ok (⟨key, false, warnings⟩, extent))
    Vets looks Eq mode (reported (finish .strict)) (reported (finish mode)) := by
  intro finish
  have steps (mode : ValidationMode) : reported (finish mode) =
      andThen (ofCheck (mode.accept warnings)) fun _ =>
        quiet (step.map fun extent => (done, key, false, extent)) := by
    simp only [finish]
    cases mode.accept warnings with
    | error error => rfl
    | ok left => cases step <;> simp [reported, quiet, ofCheck, andThen, bind, Except.bind,
        Except.map, pure, Except.pure]
  rw [steps, steps]
  exact (Vets.check warnings).andThen fun _ _ _ _ _ _ _ => .same _

/-- How a replacement ends: it stays if the warnings are accepted and the extent is within the
limit. -/
theorem Placement.vets_replaced (warnings : List Warning) (extent : Extent) (undone done : α)
    (key : Key) :
    let finish (mode : ValidationMode) : α × Except Error (Placement × Extent) :=
      match (do
        let warnings ← mode.accept warnings
        extent.check
        pure warnings : Except Error (List Warning)) with
      | .error error => (undone, .error error)
      | .ok warnings => (done, .ok (⟨key, false, warnings⟩, extent))
    Vets looks Eq mode (reported (finish .strict)) (reported (finish mode)) := by
  intro finish
  have steps (mode : ValidationMode) : reported (finish mode) =
      andThen (ofCheck (mode.accept warnings)) fun _ =>
        quiet (extent.check.map fun _ => (done, key, false, extent)) := by
    simp only [finish]
    cases mode.accept warnings with
    | error error => rfl
    | ok left => cases extent.check <;> simp [reported, quiet, ofCheck, andThen, bind, Except.bind,
        Except.map, pure, Except.pure]
  rw [steps, steps]
  exact (Vets.check warnings).andThen fun _ _ _ _ _ _ _ => .same _

theorem EntityList.vets_insert (list : EntityList) (table : PrototypeTable) (extent : Extent)
    (i : Nat) (item : Item) (merge : Bool) :
    Vets looks Eq mode (Placement.reported (list.insert table .strict extent i item merge))
      (Placement.reported (list.insert table mode extent i item merge)) := by
  unfold insert
  split
  · exact .error _ _
  · rcases place table merge .top item list with ⟨placed, ⟨member, warnings⟩ | key⟩
    · exact Placement.vets_extended mode warnings (placed.extendOver member extent)
        (placed.discard member)
        { placed with members := placed.members.insertIdx i member } member.key
    · exact .ok rfl

theorem EntityList.vets_set (list : EntityList) (table : PrototypeTable) (others : List Box)
    (i : Nat) (item : Item) :
    Vets looks Eq mode (Placement.reported (list.set table .strict others i item))
      (Placement.reported (list.set table mode others i item)) := by
  unfold set
  cases list.members[i]? with
  | none => exact .error _ _
  | some old =>
    rcases same : place table false .top item
        { list with index := list.index.removeAll old.leaves } with
      ⟨placed, ⟨member, warnings⟩ | key⟩
    · simp only [same]
      exact Placement.vets_replaced mode warnings _ _ _ _
    · simp only [same]
      exact .error _ _

/-- What the insertion of a tile reports. -/
def Placement.ofTiles (outcome : Except Error (TileList × Placement × Extent)) :
    Reported (TileList × Key × Bool × Extent) :=
  outcome.map fun (list, placement, extent) =>
    ((list, placement.key, placement.merged, extent), placement.warnings)

theorem TileList.vets_insert (list : TileList) (table : PrototypeTable) (extent : Extent)
    (i : Nat) (tile : Tile) (merge : Bool) :
    Vets looks Eq mode (Placement.ofTiles (list.insert table .strict extent i tile merge))
      (Placement.ofTiles (list.insert table mode extent i tile merge)) := by
  unfold insert
  split
  · exact .error _ _
  · split
    · exact .ok rfl
    · have steps (mode : ValidationMode) : Placement.ofTiles (do
          let warnings ← mode.accept (list.collisions table tile)
          let extent ← extent.extendOver tile.box
          let key := list.arena.nextKey
          pure ({ arena := list.arena.insert tile
                  order := list.order.insertIdx i key
                  index := list.index.add key tile.box }, ⟨key, false, warnings⟩, extent)) =
          andThen (ofCheck (mode.accept (list.collisions table tile))) fun _ =>
            quiet ((extent.extendOver tile.box).map fun extent =>
              ({ arena := list.arena.insert tile
                 order := list.order.insertIdx i list.arena.nextKey
                 index := list.index.add list.arena.nextKey tile.box },
                list.arena.nextKey, false, extent)) := by
        cases mode.accept (list.collisions table tile) with
        | error error => rfl
        | ok left =>
          cases extent.extendOver tile.box <;>
            simp [Placement.ofTiles, quiet, ofCheck, andThen, bind, Except.bind, Except.map, pure,
              Except.pure]
      simp only
      rw [steps, steps]
      exact (Vets.check _).andThen fun _ _ _ _ _ _ _ => .same _

theorem TileList.vets_set (list : TileList) (table : PrototypeTable) (others : List Box)
    (i : Nat) (tile : Tile) :
    Vets looks Eq mode (Placement.reported (list.set table .strict others i tile))
      (Placement.reported (list.set table mode others i tile)) := by
  unfold set
  cases list.order[i]? with
  | none => exact .error _ _
  | some old =>
    simp only
    cases list.index.box? old with
    | none => exact Placement.vets_replaced mode _ _ _ _ _
    | some box => exact Placement.vets_replaced mode _ _ _ _ _

end Lists

namespace Blueprint

variable {looks : Prop} {blueprint : Blueprint}

/-- The blueprint in another mode. -/
def inMode (blueprint : Blueprint) (mode : ValidationMode) : Blueprint :=
  { blueprint with mode := mode }

/-- A call that assigns something and tells what there is to warn of. -/
inductive Assignment where
  | insertEntity (i : Nat) (item : Item) (merge : Bool)
  | setEntity (i : Nat) (item : Item)
  | insertTile (i : Nat) (tile : Tile) (merge : Bool)
  | setTile (i : Nat) (tile : Tile)
  | setEntities (list : ListId) (items : List Item)
  | setTiles (tiles : List Tile)
  | addCircuit (color : WireColor) (a b : Key) (sideA sideB : CircuitSide)
  | addPower (a b : Key)

/-- What an edit reports, with the blueprint that it leaves. -/
def reported {α : Type} (warnings : α → List Warning) (edit : Edited α) : Reported Blueprint :=
  edit.2.map fun a => (edit.1, warnings a)

/-- What a call reports, with the blueprint that it leaves. -/
def Assignment.run (blueprint : Blueprint) : Assignment → Reported Blueprint
  | insertEntity i item merge => reported (·.warnings) (blueprint.insertEntity i item merge)
  | setEntity i item => reported (·.warnings) (blueprint.setEntity i item)
  | insertTile i tile merge => reported (·.warnings) (blueprint.insertTile i tile merge)
  | setTile i tile => reported (·.warnings) (blueprint.setTile i tile)
  | setEntities list items => reported id (blueprint.setEntities list items)
  | setTiles tiles => reported id (blueprint.setTiles tiles)
  | addCircuit color a b sideA sideB => reported id (blueprint.addCircuit color a b sideA sideB)
  | addPower a b => reported id (blueprint.addPower a b)

/-- A run in another mode leaves the same blueprint but for the mode. -/
abbrev VetsIn (mode : ValidationMode) (run : ValidationMode → Reported Blueprint) : Prop :=
  Vets True (fun a b => ∃ c : Blueprint, a = c.inMode .strict ∧ b = c.inMode mode) mode
    (run .strict) (run mode)

/-! ### Insertions -/

section Insertions

variable (blueprint : Blueprint) (mode : ValidationMode)

/-- What is placed after its own warnings were accepted is kept. -/
theorem vets_kept {β : Type} (own : List Warning) (outcome : ValidationMode → Reported β)
    (vets : Vets True Eq mode (outcome .strict) (outcome mode)) (keep : β → Blueprint) :
    VetsIn mode fun mode => andThen (ofCheck (mode.accept own)) fun _ =>
      andThen (outcome mode) fun b => .ok ((keep b).inMode mode, []) := by
  refine (Vets.check own).andThen fun _ _ _ _ _ _ _ => vets.andThen ?_
  rintro b - _ - - - rfl
  exact .ok ⟨keep b, rfl, rfl⟩

/-- An item is placed after its own warnings were accepted. -/
theorem vets_placed (own : List Warning)
    (outcome : ValidationMode → EntityList × Except Error (Placement × Extent))
    (vets : Vets True Eq mode (Placement.reported (outcome .strict))
      (Placement.reported (outcome mode))) :
    VetsIn mode fun mode => reported (·.warnings) (match mode.accept own with
      | .error error => (blueprint.inMode mode, .error error)
      | .ok own => (blueprint.inMode mode).placed own (outcome mode)) := by
  have steps (mode : ValidationMode) : reported (·.warnings) (match mode.accept own with
      | .error error => (blueprint.inMode mode, .error error)
      | .ok own => (blueprint.inMode mode).placed own (outcome mode)) =
      andThen (ofCheck (mode.accept own)) fun _ =>
        andThen (Placement.reported (outcome mode)) fun (entities, _, _, extent) =>
          .ok ({ blueprint.inMode mode with entities := entities, extent := extent }, []) := by
    cases mode.accept own with
    | error error => rfl
    | ok own =>
      rcases outcome mode with ⟨entities, error | ⟨placement, extent⟩⟩
      · rfl
      · simp [reported, placed, Placement.reported, Placement.after, ofCheck, andThen, Except.bind,
          Except.map]
  simp only [steps]
  exact vets_kept mode own (fun mode => Placement.reported (outcome mode)) vets
    fun (entities, _, _, extent) => { blueprint with entities := entities, extent := extent }

theorem vets_insertEntity (i : Nat) (item : Item) (merge : Bool) : VetsIn mode fun mode =>
    reported (·.warnings) ((blueprint.inMode mode).insertEntity i item merge) :=
  blueprint.vets_placed mode (item.warnings blueprint.table)
    (fun mode =>
      blueprint.entities.insert blueprint.table mode blueprint.extent i item merge)
    (EntityList.vets_insert mode _ _ _ _ _ _)

theorem vets_setEntity (i : Nat) (item : Item) : VetsIn mode fun mode =>
    reported (·.warnings) ((blueprint.inMode mode).setEntity i item) :=
  blueprint.vets_placed mode (item.warnings blueprint.table)
    (fun mode =>
      blueprint.entities.set blueprint.table mode blueprint.tiles.boxes i item)
    (EntityList.vets_set mode _ _ _ _ _)

theorem vets_insertTile (i : Nat) (tile : Tile) (merge : Bool) : VetsIn mode fun mode =>
    reported (·.warnings) ((blueprint.inMode mode).insertTile i tile merge) := by
  have steps (mode : ValidationMode) :
      reported (·.warnings) ((blueprint.inMode mode).insertTile i tile merge) =
        andThen (ofCheck (mode.accept (tile.warnings blueprint.table))) fun _ =>
          andThen (Placement.ofTiles (blueprint.tiles.insert blueprint.table mode
            blueprint.extent i tile merge)) fun (tiles, _, _, extent) =>
              .ok ({ blueprint.inMode mode with tiles := tiles, extent := extent }, []) := by
    simp only [insertTile, inMode]
    cases mode.accept (tile.warnings blueprint.table) with
    | error error => rfl
    | ok own =>
      rcases blueprint.tiles.insert blueprint.table mode blueprint.extent i tile merge with
        error | ⟨tiles, placement, extent⟩
      · rfl
      · simp [reported, edited, Placement.ofTiles, Placement.after, ofCheck, andThen,
          bind, Except.bind, Except.map, pure, Except.pure]
  simp only [steps]
  exact vets_kept mode _ (fun mode => Placement.ofTiles (blueprint.tiles.insert blueprint.table
      mode blueprint.extent i tile merge)) (TileList.vets_insert mode _ _ _ _ _ _)
    fun (tiles, _, _, extent) => { blueprint with tiles := tiles, extent := extent }

theorem vets_setTile (i : Nat) (tile : Tile) : VetsIn mode fun mode =>
    reported (·.warnings) ((blueprint.inMode mode).setTile i tile) := by
  have steps (mode : ValidationMode) :
      reported (·.warnings) ((blueprint.inMode mode).setTile i tile) =
        andThen (ofCheck (mode.accept (tile.warnings blueprint.table))) fun _ =>
          andThen (Placement.reported (blueprint.tiles.set blueprint.table mode
            blueprint.entities.boxes i tile)) fun (tiles, _, _, extent) =>
              .ok ({ blueprint.inMode mode with tiles := tiles, extent := extent }, []) := by
    simp only [setTile, inMode]
    cases mode.accept (tile.warnings blueprint.table) with
    | error error => rfl
    | ok own =>
      rcases blueprint.tiles.set blueprint.table mode blueprint.entities.boxes i tile with
        ⟨tiles, error | ⟨placement, extent⟩⟩
      · rfl
      · simp [reported, Placement.reported, Placement.after, ofCheck, andThen, Except.bind,
          Except.map]
  simp only [steps]
  exact vets_kept mode _ (fun mode => Placement.reported (blueprint.tiles.set blueprint.table mode
      blueprint.entities.boxes i tile)) (TileList.vets_set mode _ _ _ _ _)
    fun (tiles, _, _, extent) => { blueprint with tiles := tiles, extent := extent }

/-! ### Insertions one after the other -/

/-- What holds of one placement holds of many, one after the other. -/
theorem vets_placeEach {α : Type} (place : Blueprint → α → Edited Placement)
    (each : ∀ (blueprint : Blueprint) value, VetsIn mode fun mode =>
      reported (·.warnings) (place (blueprint.inMode mode) value)) (values : List α) :
    VetsIn mode fun mode => reported id (placeEach place (blueprint.inMode mode) values) := by
  induction values generalizing blueprint with
  | nil => exact .ok ⟨blueprint, rfl, rfl⟩
  | cons value values ih =>
    have steps (start : Blueprint) : reported id (placeEach place start (value :: values)) =
        andThen (reported (·.warnings) (place start value)) fun next =>
          reported id (placeEach place next values) := by
      rw [placeEach]
      rcases place start value with ⟨next, error | placement⟩
      · rfl
      · simp only [reported, andThen, Except.bind, Except.map]
        cases (placeEach place next values).2 <;> rfl
    simp only [VetsIn, steps]
    refine (each blueprint value).andThen ?_
    rintro _ - _ - - - ⟨next, rfl, rfl⟩
    exact ih next

theorem vets_setEntities (list : ListId) (items : List Item) : VetsIn mode fun mode =>
    reported id ((blueprint.inMode mode).setEntities list items) := by
  have steps (mode : ValidationMode) :
      reported id ((blueprint.inMode mode).setEntities list items) =
        andThen (quiet (Extent.ofBoxes blueprint.tiles.boxes).check) fun _ => reported id
          (placeEach (·.addEntity · false) ((blueprint.resetEntities list).inMode mode) items) := by
    have start : recalculate { blueprint.inMode mode with entities := .empty list } =
        ((blueprint.resetEntities list).inMode mode,
          (Extent.ofBoxes blueprint.tiles.boxes).check) :=
      recalculate_without_entities _ list
    rw [setEntities, refill, start]
    cases (Extent.ofBoxes blueprint.tiles.boxes).check with
    | error error => rfl
    | ok _ =>
      simp only [quiet, andThen, Except.bind, Except.map]
      rcases placeEach (·.addEntity · false) ((blueprint.resetEntities list).inMode mode) items with
        ⟨after, error | warnings⟩ <;> rfl
  simp only [VetsIn, steps]
  refine (Vets.same _).andThen fun _ _ _ _ _ _ _ => ?_
  exact vets_placeEach _ mode (·.addEntity · false)
    (fun blueprint item => blueprint.vets_insertEntity mode _ item false) items

theorem vets_setTiles (tiles : List Tile) : VetsIn mode fun mode =>
    reported id ((blueprint.inMode mode).setTiles tiles) := by
  have steps (mode : ValidationMode) :
      reported id ((blueprint.inMode mode).setTiles tiles) =
        andThen (quiet (Extent.ofBoxes blueprint.entities.boxes).check) fun _ => reported id
          (placeEach (·.addTile · false) (blueprint.resetTiles.inMode mode) tiles) := by
    have start : recalculate { blueprint.inMode mode with tiles := .empty } =
        (blueprint.resetTiles.inMode mode, (Extent.ofBoxes blueprint.entities.boxes).check) :=
      recalculate_without_tiles _
    rw [setTiles, refill, start]
    cases (Extent.ofBoxes blueprint.entities.boxes).check with
    | error error => rfl
    | ok _ =>
      simp only [quiet, andThen, Except.bind, Except.map]
      rcases placeEach (·.addTile · false) (blueprint.resetTiles.inMode mode) tiles with
        ⟨after, error | warnings⟩ <;> rfl
  simp only [VetsIn, steps]
  refine (Vets.same _).andThen fun _ _ _ _ _ _ _ => ?_
  exact vets_placeEach _ mode (·.addTile · false)
    (fun blueprint tile => blueprint.vets_insertTile mode _ tile false) tiles

end Insertions

/-! ### Wires -/

section Wires

variable (blueprint : Blueprint) (mode : ValidationMode)

theorem modifyBoth_inMode (a b : Key) (f g : Entity → Entity) :
    (blueprint.inMode mode).modifyBoth a b f g =
      ((blueprint.modifyBoth a b f g).1.inMode mode, (blueprint.modifyBoth a b f g).2) := by
  simp only [modifyBoth, inMode]
  cases blueprint.entities.modify? blueprint.table a f with
  | none => rfl
  | some entities =>
    simp only
    cases entities.modify? blueprint.table b g <;> rfl

/-- The mode of a blueprint decides only what becomes of the warnings of a wire. -/
theorem exists_lengthWarnings (p q : Point) (reach : Binary64) : ∃ long, ∀ mode,
    (blueprint.inMode mode).lengthWarnings p q reach = mode.accept long :=
  ⟨_, fun _ => rfl⟩

theorem exists_neighbourWarnings (key : Key) : ∃ crowded, ∀ mode,
    (blueprint.inMode mode).neighbourWarnings key = mode.accept crowded := by
  unfold neighbourWarnings
  have same (mode : ValidationMode) :
      (blueprint.inMode mode).entities.entity? key = blueprint.entities.entity? key := rfl
  simp only [same]
  cases blueprint.entities.entity? key with
  | none => exact ⟨[], fun mode => mode.accept_nil.symm⟩
  | some entity => exact ⟨_, fun _ => rfl⟩

theorem exists_checkCircuit (a b : Key) (sideA sideB : CircuitSide) : ∃ checked, ∀ mode,
    ofPair ((blueprint.inMode mode).checkCircuit a b sideA sideB) =
      under checked mode := by
  have endpoints (mode : ValidationMode) (key : Key) :
      (blueprint.inMode mode).endpoint key = blueprint.endpoint key := rfl
  have reaches (mode : ValidationMode) (entity : Entity) (side : CircuitSide) :
      (blueprint.inMode mode).circuitReach entity side = blueprint.circuitReach entity side := rfl
  simp only [checkCircuit, endpoints, reaches, bind, Except.bind]
  cases blueprint.endpoint a with
  | error error => exact ⟨.error error, fun _ => rfl⟩
  | ok first =>
    cases blueprint.endpoint b with
    | error error => exact ⟨.error error, fun _ => rfl⟩
    | ok second =>
      simp only
      by_cases itself : a = b ∧ sideA = sideB
      · exact ⟨.error _, fun _ => by rw [if_pos itself]; rfl⟩
      · simp only [if_neg itself]
        cases blueprint.circuitReach first.entity sideA with
        | error error => exact ⟨.error error, fun _ => rfl⟩
        | ok reachA =>
          cases blueprint.circuitReach second.entity sideB with
          | error error => exact ⟨.error error, fun _ => rfl⟩
          | ok reachB =>
            obtain ⟨long, accepts⟩ := blueprint.exists_lengthWarnings first.position
              second.position (min reachA.1 reachB.1)
            refine ⟨.ok ((⟨blueprint.entities.associate b, told reachB.2 sideB⟩,
              ⟨blueprint.entities.associate a, told reachA.2 sideA⟩), long), fun mode => ?_⟩
            simp only [pure, Except.pure, accepts, Reported.under, Except.bind]
            cases mode.accept long <;> rfl

theorem exists_checkPower (a b : Key) : ∃ checked, ∀ mode,
    ofCheck ((blueprint.inMode mode).checkPower a b) =
      under checked mode := by
  have endpoints (mode : ValidationMode) (key : Key) :
      (blueprint.inMode mode).endpoint key = blueprint.endpoint key := rfl
  have reaches (mode : ValidationMode) (entity : Entity) :
      (blueprint.inMode mode).poleReach entity = blueprint.poleReach entity := rfl
  simp only [checkPower, endpoints, reaches, bind, Except.bind]
  cases blueprint.endpoint a with
  | error error => exact ⟨.error error, fun _ => rfl⟩
  | ok first =>
    cases blueprint.endpoint b with
    | error error => exact ⟨.error error, fun _ => rfl⟩
    | ok second =>
      simp only
      by_cases itself : a = b
      · exact ⟨.error _, fun _ => by rw [if_pos itself]; rfl⟩
      · simp only [if_neg itself]
        cases blueprint.poleReach first.entity with
        | error error => exact ⟨.error error, fun _ => rfl⟩
        | ok reachA =>
          cases blueprint.poleReach second.entity with
          | error error => exact ⟨.error error, fun _ => rfl⟩
          | ok reachB =>
            obtain ⟨long, accepts⟩ := blueprint.exists_lengthWarnings first.position
              second.position (min reachA reachB)
            refine ⟨.ok ((), long), fun mode => ?_⟩
            simp only [accepts, Reported.under, Except.bind]
            cases mode.accept long <;> rfl

theorem vets_addCircuit (color : WireColor) (a b : Key) (sideA sideB : CircuitSide) :
    VetsIn mode fun mode =>
      reported id ((blueprint.inMode mode).addCircuit color a b sideA sideB) := by
  obtain ⟨checked, check⟩ := blueprint.exists_checkCircuit a b sideA sideB
  let joined (toB toA : WireEnd Association) := blueprint.modifyBoth a b
    (fun entity => { entity with connections := entity.connections.addCircuit sideA color toB })
    (fun entity => { entity with connections := entity.connections.addCircuit sideB color toA })
  have steps (mode : ValidationMode) :
      reported id ((blueprint.inMode mode).addCircuit color a b sideA sideB) =
        andThen (under checked mode) fun (toB, toA) =>
          quiet ((joined toB toA).2.map fun _ => (joined toB toA).1.inMode mode) := by
    rw [← check]
    unfold addCircuit
    simp only [modifyBoth_inMode]
    rcases (blueprint.inMode mode).checkCircuit a b sideA sideB with
      error | ⟨toB, toA, warnings⟩
    · rfl
    · change reported id ((joined toB toA).1.inMode mode, (joined toB toA).2.map fun _ => warnings) =
        _
      simp only [reported, ofPair, quiet, andThen, Except.bind, Except.map]
      cases (joined toB toA).2 <;> simp
  simp only [VetsIn, steps]
  refine (Vets.under checked).andThen ?_
  rintro ⟨toB, toA⟩ - _ - - - rfl
  exact .map _ fun _ => ⟨_, rfl, rfl⟩

theorem vets_addPower (a b : Key) : VetsIn mode fun mode =>
    reported id ((blueprint.inMode mode).addPower a b) := by
  obtain ⟨checked, check⟩ := blueprint.exists_checkPower a b
  let joined := blueprint.modifyBoth a b
    (fun entity => { entity with
      neighbours := Distinct.add entity.neighbours (blueprint.entities.associate b) })
    (fun entity => { entity with
      neighbours := Distinct.add entity.neighbours (blueprint.entities.associate a) })
  obtain ⟨crowdedA, acceptsA⟩ := joined.1.exists_neighbourWarnings a
  obtain ⟨crowdedB, acceptsB⟩ := joined.1.exists_neighbourWarnings b
  have steps (mode : ValidationMode) :
      reported id ((blueprint.inMode mode).addPower a b) =
        andThen (under checked mode) fun _ =>
          andThen (quiet joined.2) fun _ =>
            andThen (ofCheck (mode.accept crowdedA)) fun _ =>
              andThen (ofCheck (mode.accept crowdedB)) fun _ =>
                .ok (joined.1.inMode mode, []) := by
    rw [← check]
    unfold addPower
    simp only [modifyBoth_inMode]
    cases (blueprint.inMode mode).checkPower a b with
    | error error => rfl
    | ok warnings =>
      change reported id (joined.1.inMode mode, do
        joined.2
        let first ← (joined.1.inMode mode).neighbourWarnings a
        let second ← (joined.1.inMode mode).neighbourWarnings b
        pure (warnings ++ first ++ second)) = _
      rw [acceptsA, acceptsB]
      simp only [reported, quiet, ofCheck, andThen, bind, Except.bind, Except.map]
      cases joined.2 with
      | error error => rfl
      | ok _ =>
        cases mode.accept crowdedA with
        | error error => rfl
        | ok first => cases mode.accept crowdedB <;> simp [pure, Except.pure]
  simp only [VetsIn, steps]
  refine (Vets.under checked).andThen fun _ _ _ _ _ _ _ => ?_
  refine (Vets.same _).andThen fun _ _ _ _ _ _ _ => ?_
  refine (Vets.check _).andThen fun _ _ _ _ _ _ _ => ?_
  exact (Vets.check _).andThen fun _ _ _ _ _ _ _ => .ok ⟨_, rfl, rfl⟩

end Wires

/-- Every call does the same in another mode as far as that mode accepts the warnings. -/
theorem vets_run (blueprint : Blueprint) (mode : ValidationMode) (call : Assignment) :
    VetsIn mode fun mode => call.run (blueprint.inMode mode) := by
  cases call with
  | insertEntity i item merge => exact blueprint.vets_insertEntity mode i item merge
  | setEntity i item => exact blueprint.vets_setEntity mode i item
  | insertTile i tile merge => exact blueprint.vets_insertTile mode i tile merge
  | setTile i tile => exact blueprint.vets_setTile mode i tile
  | setEntities list items => exact blueprint.vets_setEntities mode list items
  | setTiles tiles => exact blueprint.vets_setTiles mode tiles
  | addCircuit color a b sideA sideB =>
    exact blueprint.vets_addCircuit mode color a b sideA sideB
  | addPower a b => exact blueprint.vets_addPower mode a b

end Blueprint
end FactoryBlueprint
