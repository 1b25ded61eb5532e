import FactoryBlueprint.Proofs.Blueprint.Operation
import FactoryBlueprint.Proofs.Blueprint.Refilling
import Mathlib.Logic.Relation

/-! # What operations are made of

Every operation, and the reading of a document, is a sequence of the few kinds of `Change`. What
every change keeps, every run keeps (`Reachable.changes`), so an invariant takes one proof for each
kind of change and not one for each operation.
-/

namespace FactoryBlueprint.Blueprint

/-- One change to a blueprint. If `fitting`, the values that come in are within their ranges. -/
inductive Change (fitting : Prop) : Blueprint → Blueprint → Prop
  /-- What is said about the whole, and the schedules. -/
  | describe {before after : Blueprint} (table : after.table = before.table)
      (extra : after.extra = before.extra) (entities : after.entities = before.entities)
      (tiles : after.tiles = before.tiles) (extent : after.extent = before.extent)
      (fits : fitting → before.HeaderFits → after.HeaderFits) : Change fitting before after
  | insertEntity {before : Blueprint} (mode : ValidationMode) (i : Nat) {item : Item}
      (merge : Bool) (own : List Warning) (fits : fitting → item.Fits) :
      Change fitting before (before.placed own
        (before.entities.insert before.table mode before.extent i item merge)).1
  | setEntity {before : Blueprint} (i : Nat) {item : Item} (own : List Warning)
      (fits : fitting → item.Fits) :
      Change fitting before (before.placed own
        (before.entities.set before.table before.mode before.tiles.boxes i item)).1
  | removeEntity {before : Blueprint} {key : Key} {item : Item} {entities : EntityList}
      (removed : before.entities.removeKey? key = some (item, entities)) :
      Change fitting before { before with entities := entities }
  | modifyEntity {before : Blueprint} (key : Key) {f : Entity → Entity}
      (fits : fitting → ∀ entity : Entity, entity.Fits → (f entity).Fits) :
      Change fitting before (before.modifyEntity key f).1
  /-- Only the wires and neighbours of an entity. -/
  | rewire {before : Blueprint} {key : Key} {f : Entity → Entity} {entities : EntityList}
      (modified : before.entities.modify? before.table key f = some entities)
      (wires : ∀ entity, f entity =
        { entity with connections := (f entity).connections, neighbours := (f entity).neighbours })
      (fits : fitting → ∀ entity : Entity, entity.Fits → (f entity).connections.Fits) :
      Change fitting before { before with entities := entities }
  | resetEntities {before : Blueprint} (list : ListId) :
      Change fitting before (before.resetEntities list)
  | clearEntities {before : Blueprint} : Change fitting before before.clearEntities
  | insertTile {before : Blueprint} {mode : ValidationMode} {i : Nat} {tile : Tile} {merge : Bool}
      {tiles : TileList} {placement : Placement} {extent : Extent} (fits : fitting → tile.Fits)
      (inserted : before.tiles.insert before.table mode before.extent i tile merge =
        .ok (tiles, placement, extent)) :
      Change fitting before { before with tiles := tiles, extent := extent }
  | setTile {before : Blueprint} (i : Nat) {tile : Tile} (fits : fitting → tile.Fits) :
      Change fitting before (before.setTile i tile).1
  | removeTile {before : Blueprint} {i : Nat} {tile : Tile} {tiles : TileList}
      (removed : before.tiles.remove i = .ok (tile, tiles)) :
      Change fitting before { before with tiles := tiles }
  | resetTiles {before : Blueprint} : Change fitting before before.resetTiles
  | clearTiles {before : Blueprint} : Change fitting before before.clearTiles
  | recalculate {before : Blueprint} : Change fitting before before.recalculate.1
  | duplicate {before : Blueprint} (list : ListId) : Change fitting before (before.duplicate list)

/-- Values that fit come in whether that is asked or not. -/
theorem Change.weaken {fitting other : Prop} (imp : fitting → other) {before after : Blueprint}
    (change : Change other before after) : Change fitting before after := by
  cases change with
  | describe table extra entities tiles extent fits =>
    exact .describe table extra entities tiles extent (fits ∘ imp)
  | insertEntity mode i merge own fits => exact .insertEntity mode i merge own (fits ∘ imp)
  | setEntity i own fits => exact .setEntity i own (fits ∘ imp)
  | removeEntity removed => exact .removeEntity removed
  | modifyEntity key fits => exact .modifyEntity key (fits ∘ imp)
  | rewire modified wires fits => exact .rewire modified wires (fits ∘ imp)
  | resetEntities list => exact .resetEntities list
  | clearEntities => exact .clearEntities
  | insertTile fits inserted => exact .insertTile (fits ∘ imp) inserted
  | setTile i fits => exact .setTile i (fits ∘ imp)
  | removeTile removed => exact .removeTile removed
  | resetTiles => exact .resetTiles
  | clearTiles => exact .clearTiles
  | recalculate => exact .recalculate
  | duplicate list => exact .duplicate list

/-- A sequence of changes. -/
abbrev Changes (fitting : Prop) : Blueprint → Blueprint → Prop :=
  Relation.ReflTransGen (Change fitting)

variable {fitting : Prop} {blueprint : Blueprint}

/-! ### Entities -/

/-- What an edit of an entity leaves: the blueprint as it was, the entity edited and within the
limit, or the entity put back. -/
theorem modifyEntity_cases (blueprint : Blueprint) (key : Key) (f : Entity → Entity) :
    (blueprint.modifyEntity key f).1 = blueprint ∨
      ∃ before entities, blueprint.entities.entity? key = some before ∧
        blueprint.entities.modify? blueprint.table key f = some entities ∧
        ((∃ extent, (entities.index.box? key).elim (.ok blueprint.extent)
            blueprint.extent.extendOver = .ok extent ∧ (blueprint.modifyEntity key f).1 =
              { blueprint with entities := entities, extent := extent }) ∨
          (blueprint.modifyEntity key f).1 = { blueprint with entities :=
            (entities.modify? blueprint.table key fun _ => before).getD entities }) := by
  rw [modifyEntity]
  cases found : blueprint.entities.entity? key with
  | none => exact .inl rfl
  | some before =>
    cases modified : blueprint.entities.modify? blueprint.table key f with
    | none => exact .inl rfl
    | some entities =>
      refine .inr ⟨before, entities, rfl, rfl, ?_⟩
      simp only [Option.bind_eq_bind, Option.bind_some, Option.pure_def]
      cases extended : (entities.index.box? key).elim (.ok blueprint.extent)
          blueprint.extent.extendOver with
      | ok extent => exact .inl ⟨extent, rfl, rfl⟩
      | error error => exact .inr rfl

theorem changes_insertEntity (i : Nat) {item : Item} (merge : Bool) (fits : fitting → item.Fits) :
    Changes fitting blueprint (blueprint.insertEntity i item merge).1 := by
  unfold insertEntity
  split
  · exact .refl
  · exact .single (.insertEntity blueprint.mode i merge _ fits)

theorem changes_setEntity (i : Nat) {item : Item} (fits : fitting → item.Fits) :
    Changes fitting blueprint (blueprint.setEntity i item).1 := by
  unfold setEntity
  split
  · exact .refl
  · exact .single (.setEntity i _ fits)

theorem changes_setEntities (list : ListId) {items : List Item}
    (fits : fitting → ∀ item ∈ items, item.Fits) :
    Changes fitting blueprint (blueprint.setEntities list items).1 := by
  generalize done : blueprint.setEntities list items = result
  obtain ⟨after, error | warnings⟩ := result
  · rw [setEntities_of_error done]
  · have filled := (setEntities_eq_ok_iff.mp done).2
    have all : Changes fitting blueprint
        (placeEach (·.addEntity · false) (blueprint.resetEntities list) items).1 := by
      refine placeEach_keeps (Changes fitting blueprint)
        (fun item mem other before => before.trans ?_) (.single (.resetEntities list))
      exact changes_insertEntity _ _ fun fit => fits fit item mem
    rw [filled] at all
    exact all

theorem changes_removeEntityKey (key : Key) :
    Changes fitting blueprint (blueprint.removeEntityKey key).1 := by
  unfold removeEntityKey
  split
  · rename_i removed
    exact .single (.removeEntity removed)
  · exact .refl

theorem changes_removeEntity (i : Nat) :
    Changes fitting blueprint (blueprint.removeEntity i).1 := by
  simp only [removeEntity, EntityList.remove]
  split
  · exact .refl
  · split
    · exact .refl
    · rename_i removed
      exact .single (.removeEntity removed)

/-! ### Tiles -/

theorem changes_insertTile (i : Nat) {tile : Tile} (merge : Bool) (fits : fitting → tile.Fits) :
    Changes fitting blueprint (blueprint.insertTile i tile merge).1 := by
  simp only [insertTile, edited]
  cases accepted : blueprint.mode.accept (tile.warnings blueprint.table) with
  | error error => exact .refl
  | ok own =>
    cases inserted : blueprint.tiles.insert blueprint.table blueprint.mode blueprint.extent i tile
        merge with
    | error error => exact .refl
    | ok outcome => exact .single (.insertTile fits inserted)

theorem changes_setTiles {tiles : List Tile} (fits : fitting → ∀ tile ∈ tiles, tile.Fits) :
    Changes fitting blueprint (blueprint.setTiles tiles).1 := by
  generalize done : blueprint.setTiles tiles = result
  obtain ⟨after, error | warnings⟩ := result
  · rw [setTiles_of_error done]
  · have filled := (setTiles_eq_ok_iff.mp done).2
    have all : Changes fitting blueprint
        (placeEach (·.addTile · false) blueprint.resetTiles tiles).1 := by
      refine placeEach_keeps (Changes fitting blueprint)
        (fun tile mem other before => before.trans ?_) (.single .resetTiles)
      exact changes_insertTile _ _ fun fit => fits fit tile mem
    rw [filled] at all
    exact all

theorem changes_removeTile (i : Nat) : Changes fitting blueprint (blueprint.removeTile i).1 := by
  simp only [removeTile, edited]
  cases removed : blueprint.tiles.remove i with
  | error error => exact .refl
  | ok outcome => exact .single (.removeTile removed)

/-! ### Wires -/

/-- True of an edit that only touches wires and neighbours, and keeps wires within their ranges. -/
structure Rewires (fitting : Prop) (f : Entity → Entity) : Prop where
  wires : ∀ entity, f entity =
    { entity with connections := (f entity).connections, neighbours := (f entity).neighbours }
  fits : fitting → ∀ entity : Entity, entity.Fits → (f entity).connections.Fits

theorem changes_modifyBoth (a b : Key) {f g : Entity → Entity} (first : Rewires fitting f)
    (second : Rewires fitting g) : Changes fitting blueprint (blueprint.modifyBoth a b f g).1 := by
  unfold modifyBoth
  split
  · exact .refl
  · rename_i middle modified
    have step : Change fitting blueprint { blueprint with entities := middle } :=
      .rewire modified first.wires first.fits
    split
    · exact .single step
    · rename_i after again
      have next : Change fitting { blueprint with entities := middle }
          { blueprint with entities := after } := .rewire again second.wires second.fits
      exact .head step (.single next)

theorem rewires_connections {f : Connections → Connections}
    (fits : fitting → ∀ connections : Connections, connections.Fits → (f connections).Fits) :
    Rewires fitting fun entity => { entity with connections := f entity.connections } where
  wires _ := rfl
  fits fit _ old := fits fit _ old.connections

theorem rewires_neighbours (f : List Association → List Association) :
    Rewires fitting fun entity => { entity with neighbours := f entity.neighbours } where
  wires _ := rfl
  fits _ _ old := old.connections

theorem told_lt {both : Bool} {side : CircuitSide} :
    ∀ terminal ∈ told both side, terminal < 2 ^ 8 := by
  intro terminal mem
  cases both with
  | false => exact absurd mem (by simp [told])
  | true =>
    obtain rfl := Option.some.inj mem
    cases side <;> decide

theorem terminals_of_checkCircuit {a b : Key} {sideA sideB : CircuitSide}
    {toB toA : WireEnd Association} {warnings : List Warning}
    (checked : blueprint.checkCircuit a b sideA sideB = .ok (toB, toA, warnings)) :
    toB.Small ∧ toA.Small := by
  simp only [checkCircuit, bind_eq_ok_iff] at checked
  obtain ⟨_, _, _, _, checked⟩ := checked
  split at checked
  · obtain ⟨_, refused, _⟩ := bind_eq_ok_iff.mp checked
    contradiction
  · simp only [bind_eq_ok_iff, pure, Except.pure, Except.ok.injEq, Prod.mk.injEq] at checked
    obtain ⟨_, _, _, _, _, _, rfl, rfl, _⟩ := checked
    exact ⟨told_lt, told_lt⟩

theorem changes_addCircuit (color : WireColor) (a b : Key) (sideA sideB : CircuitSide) :
    Changes fitting blueprint (blueprint.addCircuit color a b sideA sideB).1 := by
  unfold addCircuit
  split
  · exact .refl
  · rename_i toB toA warnings checked
    obtain ⟨smallB, smallA⟩ := terminals_of_checkCircuit checked
    exact changes_modifyBoth a b
      (rewires_connections fun _ _ fits => fits.addCircuit _ _ smallB)
      (rewires_connections fun _ _ fits => fits.addCircuit _ _ smallA)

theorem changes_removeCircuit (color : WireColor) (a b : Key) (sideA sideB : CircuitSide) :
    Changes fitting blueprint (blueprint.removeCircuit color a b sideA sideB).1 := by
  unfold removeCircuit
  extract_lets found terminal
  clear_value found
  split
  · exact .refl
  · exact changes_modifyBoth a b
      (rewires_connections fun _ _ fits => fits.modifyCircuit fun _ ends => ends.remove _)
      (rewires_connections fun _ _ fits => fits.modifyCircuit fun _ ends => ends.remove _)

theorem changes_addPower (a b : Key) : Changes fitting blueprint (blueprint.addPower a b).1 := by
  unfold addPower
  split
  · exact .refl
  · extract_lets link
    have rewires (key : Key) : Rewires fitting (link key) :=
      rewires_neighbours (Distinct.add · (blueprint.entities.associate key))
    exact changes_modifyBoth a b (rewires b) (rewires a)

theorem changes_removePower (a b : Key) :
    Changes fitting blueprint (blueprint.removePower a b).1 :=
  changes_modifyBoth a b (rewires_neighbours _) (rewires_neighbours _)

theorem changes_unlinkAll (key : Key) (associations : List Association) :
    Changes fitting blueprint (blueprint.unlinkAll key associations).1 := by
  induction associations generalizing blueprint with
  | nil => exact .refl
  | cons association rest ih =>
    rw [unlinkAll]
    split
    · split
      · rename_i entities modified
        have rewires : Rewires fitting (unlink key) := rewires_neighbours _
        exact .head (.rewire modified rewires.wires rewires.fits) ih
      · exact .refl
    · exact ih

theorem changes_removeAllPower (key : Key) :
    Changes fitting blueprint (blueprint.removeAllPower key).1 := by
  unfold removeAllPower
  split
  · exact .refl
  · rename_i entity found
    have first : Changes fitting blueprint (blueprint.unlinkAll key entity.neighbours).1 :=
      changes_unlinkAll key entity.neighbours
    split
    · rename_i eq
      rw [eq] at first
      exact first
    · rename_i middle eq
      rw [eq] at first
      split
      · rename_i entities modified
        have rewires : Rewires fitting fun entity => { entity with neighbours := [] } :=
          rewires_neighbours fun _ => []
        exact first.tail (.rewire modified rewires.wires rewires.fits)
      · exact first

theorem changes_addCopper (switch : Key) (side : CopperSide) (pole : Key) :
    Changes fitting blueprint (blueprint.addCopper switch side pole).1 := by
  unfold addCopper
  split
  · exact .refl
  · refine changes_modifyBoth switch pole
      (rewires_connections fun _ _ fits => fits.modifyCopper fun _ ends => ends.add ?_)
      (rewires_connections fun _ _ fits => fits.modifyCopper fun _ ends => ends.add ?_)
    · simp [WireEnd.Small, CopperSide.code]
    · cases side <;> simp [WireEnd.Small, CopperSide.code]

theorem changes_removeCopper (switch : Key) (side : CopperSide) (pole : Key) :
    Changes fitting blueprint (blueprint.removeCopper switch side pole).1 :=
  changes_modifyBoth switch pole
    (rewires_connections fun _ _ fits => fits.modifyCopper fun _ ends => ends.remove _)
    (rewires_connections fun _ _ fits => fits.modifyCopper fun _ ends => ends.remove _)

/-! ### What is said about the whole, and schedules -/

/-- A change to nothing but the schedules. -/
theorem changes_schedules {schedules : List (Schedule Association)}
    (fits : fitting → (∀ schedule ∈ blueprint.schedules, schedule.Fits) →
      ∀ schedule ∈ schedules, schedule.Fits) :
    Changes fitting blueprint { blueprint with schedules := schedules } :=
  .single (.describe rfl rfl rfl rfl rfl fun fit old =>
    { old with schedules := fits fit old.schedules })

theorem schedule_mem {i : Nat} {schedule : Schedule Association}
    (present : blueprint.schedule i = .ok schedule) : schedule ∈ blueprint.schedules := by
  unfold Blueprint.schedule at present
  split at present
  · rename_i found
    exact Except.ok.inj present ▸ List.mem_of_getElem? found
  · contradiction

/-- Schedule `i` replaced. -/
theorem changes_set_schedule {i : Nat} {old new : Schedule Association}
    (present : blueprint.schedule i = .ok old) (fits : fitting → old.Fits → new.Fits) :
    Changes fitting blueprint { blueprint with schedules := blueprint.schedules.set i new } := by
  refine changes_schedules fun fit all schedule mem => ?_
  rcases List.mem_or_eq_of_mem_set mem with other | rfl
  · exact all schedule other
  · exact fits fit (all old (schedule_mem present))

theorem changes_insertSchedule (i : Nat) {schedule : Schedule Association}
    (fits : fitting → schedule.Fits) :
    Changes fitting blueprint (blueprint.insertSchedule i schedule).1 := by
  unfold insertSchedule
  split
  · exact .refl
  · rename_i bound
    refine changes_schedules fun fit all other mem => ?_
    rcases (List.mem_insertIdx (Nat.le_of_not_lt bound)).mp mem with rfl | old
    · exact fits fit
    · exact all other old

theorem changes_setSchedule (i : Nat) {schedule : Schedule Association}
    (fits : fitting → schedule.Fits) :
    Changes fitting blueprint (blueprint.setSchedule i schedule).1 := by
  unfold setSchedule
  cases present : blueprint.schedule i with
  | error error => exact .refl
  | ok old => exact changes_set_schedule present fun fit _ => fits fit

theorem changes_removeSchedule (i : Nat) :
    Changes fitting blueprint (blueprint.removeSchedule i).1 := by
  unfold removeSchedule
  cases blueprint.schedule i with
  | error error => exact .refl
  | ok old =>
    exact changes_schedules fun _ all schedule mem => all schedule (List.mem_of_mem_eraseIdx mem)

theorem changes_removeStop (i : Nat) (station : String) :
    Changes fitting blueprint (blueprint.removeStop i station).1 := by
  unfold removeStop
  cases present : blueprint.schedule i with
  | error error => exact .refl
  | ok old =>
    simp only [bind, Except.bind]
    split
    · rename_i stop after removed
      exact changes_set_schedule present fun _ fits => fits.removeStop? removed
    · exact .refl

theorem changes_addLocomotive (i : Nat) (key : Key) :
    Changes fitting blueprint (blueprint.addLocomotive i key).1 := by
  unfold addLocomotive
  split
  · exact .refl
  · split
    · exact .refl
    · cases present : blueprint.schedule i with
      | error error => exact .refl
      | ok old => exact changes_set_schedule present fun _ fits => ⟨fits.stops, fits.extra⟩

theorem changes_removeLocomotive (i : Nat) (key : Key) :
    Changes fitting blueprint (blueprint.removeLocomotive i key).1 := by
  unfold removeLocomotive
  cases present : blueprint.schedule i with
  | error error => exact .refl
  | ok old => exact changes_set_schedule present fun _ fits => ⟨fits.stops, fits.extra⟩

theorem changes_setLabelColor (color : Option Color) :
    Changes fitting blueprint (blueprint.setLabelColor color).1 := by
  have set : Changes fitting blueprint { blueprint with labelColor := color } :=
    .single (.describe rfl rfl rfl rfl rfl fun _ old => { old with })
  unfold setLabelColor
  cases color with
  | none => exact set
  | some color =>
    by_cases checked : blueprint.mode ≠ .none
    · simp only [if_pos checked]
      cases color.check "label_color.color" with
      | error error => exact .refl
      | ok _ => exact set
    · simp only [if_neg checked]
      exact set

theorem changes_setIcons (icons : List Icon) :
    Changes fitting blueprint (blueprint.setIcons icons).1 := by
  simp only [setIcons, edited]
  cases Icon.check icons blueprint.mode blueprint.table with
  | error error => exact .refl
  | ok _ => exact .single (.describe rfl rfl rfl rfl rfl fun _ old => { old with })

theorem changes_setIconsByName (names : List String) :
    Changes fitting blueprint (blueprint.setIconsByName names).1 := by
  unfold setIconsByName
  split
  · exact changes_setIcons _
  · exact .refl

theorem changes_setVersionComponents (components : List Nat) :
    Changes fitting blueprint (blueprint.setVersionComponents components).1 := by
  unfold setVersionComponents
  split
  · exact .single (.describe rfl rfl rfl rfl rfl fun _ old => { old with })
  · exact .refl

/-! ### Calls and runs -/

/-- Every call is a sequence of changes, and its arguments fit if those of the call do. -/
theorem changes_apply (operation : Operation) (fits : fitting → operation.Fits) :
    Changes fitting blueprint (operation.apply blueprint) := by
  cases operation with
  | setLabel label => exact .single (.describe rfl rfl rfl rfl rfl fun _ old => { old with })
  | setLabelColor color => exact changes_setLabelColor color
  | setDescription description =>
    exact .single (.describe rfl rfl rfl rfl rfl fun _ old => { old with })
  | setIcons icons => exact changes_setIcons icons
  | setIconsByName names => exact changes_setIconsByName names
  | setVersion version => exact .single (.describe rfl rfl rfl rfl rfl fun _ old => { old with })
  | setVersionComponents components => exact changes_setVersionComponents components
  | setGridSize size =>
    exact .single (.describe rfl rfl rfl rfl rfl fun fit old => { old with gridSize := fits fit })
  | setGridPosition position =>
    exact .single (.describe rfl rfl rfl rfl rfl fun fit old =>
      { old with gridPosition := fits fit })
  | setAbsoluteSnapping absolute =>
    exact .single (.describe rfl rfl rfl rfl rfl fun _ old => { old with })
  | setPositionRelativeToGrid position =>
    exact .single (.describe rfl rfl rfl rfl rfl fun fit old => { old with relative := fits fit })
  | setIndex index =>
    exact .single (.describe rfl rfl rfl rfl rfl fun fit old => { old with index := fits fit })
  | setMode mode => exact .single (.describe rfl rfl rfl rfl rfl fun _ old => { old with })
  | recalculate => exact .single .recalculate
  | insertEntity i item merge => exact changes_insertEntity i merge fits
  | addEntity item merge => exact changes_insertEntity _ merge fits
  | setEntity i item => exact changes_setEntity i fits
  | removeEntity i => exact changes_removeEntity i
  | removeEntityKey key => exact changes_removeEntityKey key
  | modifyEntity key f => exact .single (.modifyEntity key fits)
  | setEntities list items => exact changes_setEntities list fits
  | clearEntities => exact .single .clearEntities
  | insertTile i tile merge => exact changes_insertTile i merge fits
  | addTile tile merge => exact changes_insertTile _ merge fits
  | setTile i tile => exact .single (.setTile i fits)
  | removeTile i => exact changes_removeTile i
  | setTiles tiles => exact changes_setTiles fits
  | clearTiles => exact .single .clearTiles
  | addSchedule schedule =>
    refine changes_schedules fun fit all => List.forall_mem_append.mpr ⟨all, ?_⟩
    exact List.forall_mem_singleton.mpr (fits fit)
  | insertSchedule i schedule => exact changes_insertSchedule i fits
  | setSchedule i schedule => exact changes_setSchedule i fits
  | removeSchedule i => exact changes_removeSchedule i
  | clearSchedules => exact changes_schedules fun _ _ => by simp
  | editSchedules f => exact changes_schedules fun fit all => fits fit _ all
  | forgetLocomotive key =>
    refine changes_schedules fun _ all schedule mem => ?_
    obtain ⟨old, here, rfl⟩ := List.mem_map.mp mem
    exact ⟨(all old here).stops, (all old here).extra⟩
  | removeStop i station => exact changes_removeStop i station
  | addLocomotive i key => exact changes_addLocomotive i key
  | removeLocomotive i key => exact changes_removeLocomotive i key
  | addCircuit color a b sideA sideB => exact changes_addCircuit color a b sideA sideB
  | removeCircuit color a b sideA sideB => exact changes_removeCircuit color a b sideA sideB
  | addPower a b => exact changes_addPower a b
  | removePower a b => exact changes_removePower a b
  | removeAllPower key => exact changes_removeAllPower key
  | addCopper switch side pole => exact changes_addCopper switch side pole
  | removeCopper switch side pole => exact changes_removeCopper switch side pole
  | duplicate list => exact .single (.duplicate list)

end FactoryBlueprint.Blueprint
