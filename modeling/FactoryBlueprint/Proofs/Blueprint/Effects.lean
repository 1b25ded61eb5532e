import FactoryBlueprint.Proofs.Blueprint.Integrity
import FactoryBlueprint.Proofs.EntityList.Altering
import FactoryBlueprint.Proofs.EntityList.Revising

/-! # What operations do to entities and schedules

Most operations leave the entity list alone (`entities_apply_of_plain`). Those that insert, replace
and remove alter it (`altered_apply`), and an edit reaches one entity (`revised_modifyEntity`). A bulk
replacement that succeeds leaves none but the given entities under another id
(`setEntities_cases`). `Operation.takes` tells the keys of the objects that a call takes out. No
operation on anything else touches the schedules (`schedules_apply`).
-/

namespace FactoryBlueprint

namespace Operation

/-- The items that come in with a call. -/
def items : Operation → List Item
  | insertEntity _ item _ | addEntity item _ | setEntity _ item => [item]
  | setEntities _ items => items
  | _ => []

/-- The entities that come in with a call. -/
def entities (operation : Operation) : List Entity := Item.entitiesOfAll operation.items

/-- True of calls by which entities may merge. -/
def merges : Operation → Bool
  | insertEntity _ _ merge | addEntity _ merge => merge
  | _ => false

/-- The keys of the objects that a call takes out: the member that is removed or replaced, or all
objects. A call that is refused takes nothing out. -/
def takes (blueprint : Blueprint) : Operation → List Key
  | setEntity i item =>
    if (blueprint.setEntity i item).2.isOk then blueprint.entities.keysAt i else []
  | removeEntity i => if (blueprint.removeEntity i).2.isOk then blueprint.entities.keysAt i else []
  | removeEntityKey key =>
    if (blueprint.removeEntityKey key).2.isOk then
      (blueprint.entities.member? key).elim [] Member.keys
    else []
  | setEntities list items =>
    if (blueprint.setEntities list items).2.isOk then Member.keysOfAll blueprint.entities.members
    else []
  | clearEntities | duplicate _ => Member.keysOfAll blueprint.entities.members
  | _ => []

/-- True of operations on anything but entities. -/
def Plain : Operation → Prop
  | insertEntity .. | addEntity .. | setEntity .. | removeEntity _ | removeEntityKey _
  | modifyEntity .. | setEntities .. | clearEntities | addCircuit .. | removeCircuit .. | addPower ..
  | removePower .. | removeAllPower _ | addCopper .. | removeCopper .. | duplicate _ => False
  | _ => True

/-- True of the operations that wire entities or take wires away. -/
def Wires : Operation → Prop
  | addCircuit .. | removeCircuit .. | addPower .. | removePower .. | removeAllPower _
  | addCopper .. | removeCopper .. => True
  | _ => False

/-- True of the operations that insert, replace or remove objects within a list. -/
def Alters : Operation → Prop
  | insertEntity .. | addEntity .. | setEntity .. | removeEntity _ | removeEntityKey _
  | clearEntities => True
  | _ => False

/-- True of the operations on schedules, and of copying. -/
def Reschedules : Operation → Prop
  | addSchedule _ | insertSchedule .. | setSchedule .. | removeSchedule _ | clearSchedules
  | editSchedules _ | forgetLocomotive _ | removeStop .. | addLocomotive .. | removeLocomotive ..
  | duplicate _ => True
  | _ => False

/-- Every operation is of one of these sorts. -/
inductive Sorted : Operation → Prop
  | plain {operation : Operation} (plain : operation.Plain) : Sorted operation
  | wires {operation : Operation} (wires : operation.Wires) : Sorted operation
  | alters {operation : Operation} (alters : operation.Alters) : Sorted operation
  | modifies (key : Key) (f : Entity → Entity) : Sorted (modifyEntity key f)
  | replaces (list : ListId) (items : List Item) : Sorted (setEntities list items)
  | copies (list : ListId) : Sorted (duplicate list)

theorem sorted (operation : Operation) : operation.Sorted := by
  cases operation with
  | insertEntity | addEntity | setEntity | removeEntity | removeEntityKey | clearEntities =>
    exact .alters trivial
  | addCircuit | removeCircuit | addPower | removePower | removeAllPower | addCopper
  | removeCopper => exact .wires trivial
  | modifyEntity key f => exact .modifies key f
  | setEntities list items => exact .replaces list items
  | duplicate list => exact .copies list
  | _ => exact .plain trivial

theorem takes_of_plain {operation : Operation} (plain : operation.Plain) (blueprint : Blueprint) :
    operation.takes blueprint = [] := by
  cases operation with
  | insertEntity | addEntity | setEntity | removeEntity | removeEntityKey | modifyEntity
  | setEntities | clearEntities | addCircuit | removeCircuit | addPower | removePower
  | removeAllPower | addCopper | removeCopper | duplicate => exact plain.elim
  | _ => rfl

theorem takes_of_wires {operation : Operation} (wires : operation.Wires) (blueprint : Blueprint) :
    operation.takes blueprint = [] := by
  cases operation with
  | addCircuit | removeCircuit | addPower | removePower | removeAllPower | addCopper
  | removeCopper => rfl
  | _ => exact wires.elim

end Operation

namespace Blueprint

variable {blueprint : Blueprint}

/-! ### Operations on anything else -/

/-- What holds before an operation and after it where it succeeds, holds after it. -/
theorem edited_keeps {α : Type} {outcome : Except Error (Blueprint × α)}
    (property : Blueprint → Prop) (here : property blueprint)
    (kept : ∀ after a, outcome = .ok (after, a) → property after) :
    property (blueprint.edited outcome).1 := by
  cases outcome with
  | error error => exact here
  | ok result => exact kept result.1 result.2 rfl

/-- The blueprints differ beside their entities and schedules. -/
structure Beside (blueprint after : Blueprint) : Prop where
  entities : after.entities = blueprint.entities
  schedules : after.schedules = blueprint.schedules

theorem Beside.refl (blueprint : Blueprint) : blueprint.Beside blueprint := ⟨rfl, rfl⟩

theorem Beside.trans {middle after : Blueprint} (first : blueprint.Beside middle)
    (second : middle.Beside after) : blueprint.Beside after :=
  ⟨second.entities.trans first.entities, second.schedules.trans first.schedules⟩

theorem beside_insertTile (i : Nat) (tile : Tile) (merge : Bool) :
    blueprint.Beside (blueprint.insertTile i tile merge).1 := by
  obtain ⟨tiles, extent, same⟩ := blueprint.insertTile_touches i tile merge
  rw [same]
  exact ⟨rfl, rfl⟩

theorem beside_setTile (i : Nat) (tile : Tile) :
    blueprint.Beside (blueprint.setTile i tile).1 := by
  unfold setTile
  split
  · exact .refl blueprint
  · split <;> exact ⟨rfl, rfl⟩

theorem beside_setTiles (tiles : List Tile) :
    blueprint.Beside (blueprint.setTiles tiles).1 := by
  generalize done : blueprint.setTiles tiles = result
  obtain ⟨after, error | warnings⟩ := result
  · rw [setTiles_of_error done]
    exact .refl blueprint
  · have filled : blueprint.Beside (placeEach (·.addTile · false) blueprint.resetTiles tiles).1 :=
      placeEach_keeps blueprint.Beside
        (fun tile _ other kept => kept.trans (beside_insertTile _ tile false)) ⟨rfl, rfl⟩
    rw [(setTiles_eq_ok_iff.mp done).2] at filled
    exact filled

theorem beside_removeTile (i : Nat) : blueprint.Beside (blueprint.removeTile i).1 := by
  refine edited_keeps _ (.refl blueprint) fun after tile done => ?_
  obtain ⟨_, -, done⟩ := bind_eq_ok_iff.mp done
  obtain rfl := (Prod.mk.inj (Except.ok.inj done)).1
  exact ⟨rfl, rfl⟩

theorem beside_setLabelColor (color : Option Color) :
    blueprint.Beside (blueprint.setLabelColor color).1 := by
  refine edited_keeps _ (.refl blueprint) fun after _ done => ?_
  cases color with
  | none =>
    obtain rfl := (Prod.mk.inj (Except.ok.inj done)).1
    exact ⟨rfl, rfl⟩
  | some color =>
    dsimp only at done
    split at done
    · obtain ⟨_, -, done⟩ := bind_eq_ok_iff.mp done
      obtain rfl := (Prod.mk.inj (Except.ok.inj done)).1
      exact ⟨rfl, rfl⟩
    · obtain rfl := (Prod.mk.inj (Except.ok.inj done)).1
      exact ⟨rfl, rfl⟩

theorem beside_setIcons (icons : List Icon) : blueprint.Beside (blueprint.setIcons icons).1 := by
  refine edited_keeps _ (.refl blueprint) fun after _ done => ?_
  obtain ⟨_, -, done⟩ := bind_eq_ok_iff.mp done
  obtain rfl := (Prod.mk.inj (Except.ok.inj done)).1
  exact ⟨rfl, rfl⟩

theorem beside_setIconsByName (names : List String) :
    blueprint.Beside (blueprint.setIconsByName names).1 := by
  unfold setIconsByName
  split
  · exact beside_setIcons _
  · exact .refl blueprint

theorem beside_setVersionComponents (components : List Nat) :
    blueprint.Beside (blueprint.setVersionComponents components).1 := by
  unfold setVersionComponents
  split <;> exact ⟨rfl, rfl⟩

theorem entities_edited {α : Type} {outcome : Except Error (Blueprint × α)}
    (kept : ∀ after a, outcome = .ok (after, a) → after.entities = blueprint.entities) :
    (blueprint.edited outcome).1.entities = blueprint.entities :=
  edited_keeps (·.entities = blueprint.entities) rfl kept

theorem entities_insertSchedule (i : Nat) (schedule : Schedule Association) :
    (blueprint.insertSchedule i schedule).1.entities = blueprint.entities := by
  unfold insertSchedule
  split <;> rfl

theorem entities_setSchedule (i : Nat) (schedule : Schedule Association) :
    (blueprint.setSchedule i schedule).1.entities = blueprint.entities := by
  refine entities_edited fun after old done => ?_
  obtain ⟨_, -, done⟩ := bind_eq_ok_iff.mp done
  obtain rfl := (Prod.mk.inj (Except.ok.inj done)).1
  rfl

theorem entities_removeSchedule (i : Nat) :
    (blueprint.removeSchedule i).1.entities = blueprint.entities := by
  refine entities_edited fun after old done => ?_
  obtain ⟨_, -, done⟩ := bind_eq_ok_iff.mp done
  obtain rfl := (Prod.mk.inj (Except.ok.inj done)).1
  rfl

theorem entities_removeStop (i : Nat) (station : String) :
    (blueprint.removeStop i station).1.entities = blueprint.entities := by
  refine entities_edited fun after stop done => ?_
  obtain ⟨schedule, -, done⟩ := bind_eq_ok_iff.mp done
  split at done
  · obtain rfl := (Prod.mk.inj (Except.ok.inj done)).1
    rfl
  · obtain rfl := (Prod.mk.inj (Except.ok.inj done)).1
    rfl

theorem entities_addLocomotive (i : Nat) (key : Key) :
    (blueprint.addLocomotive i key).1.entities = blueprint.entities := by
  unfold addLocomotive
  split
  · rfl
  · split
    · rfl
    · refine entities_edited fun after _ done => ?_
      obtain ⟨schedule, -, done⟩ := bind_eq_ok_iff.mp done
      obtain rfl := (Prod.mk.inj (Except.ok.inj done)).1
      rfl

theorem entities_removeLocomotive (i : Nat) (key : Key) :
    (blueprint.removeLocomotive i key).1.entities = blueprint.entities := by
  refine entities_edited fun after _ done => ?_
  obtain ⟨schedule, -, done⟩ := bind_eq_ok_iff.mp done
  obtain rfl := (Prod.mk.inj (Except.ok.inj done)).1
  rfl

/-- Operations on anything else leave the entities alone. -/
theorem entities_apply_of_plain (operation : Operation) (plain : operation.Plain) :
    (operation.apply blueprint).entities = blueprint.entities := by
  cases operation with
  | setLabelColor color => exact (beside_setLabelColor color).entities
  | setIcons icons => exact (beside_setIcons icons).entities
  | setIconsByName names => exact (beside_setIconsByName names).entities
  | setVersionComponents components => exact (beside_setVersionComponents components).entities
  | insertTile i tile merge => exact (beside_insertTile i tile merge).entities
  | addTile tile merge => exact (beside_insertTile _ tile merge).entities
  | setTile i tile => exact (beside_setTile i tile).entities
  | removeTile i => exact (beside_removeTile i).entities
  | setTiles tiles => exact (beside_setTiles tiles).entities
  | insertSchedule i schedule => exact entities_insertSchedule i schedule
  | setSchedule i schedule => exact entities_setSchedule i schedule
  | removeSchedule i => exact entities_removeSchedule i
  | removeStop i station => exact entities_removeStop i station
  | addLocomotive i key => exact entities_addLocomotive i key
  | removeLocomotive i key => exact entities_removeLocomotive i key
  | insertEntity | addEntity | setEntity | removeEntity | removeEntityKey | modifyEntity
  | setEntities | clearEntities | addCircuit | removeCircuit | addPower | removePower
  | removeAllPower | addCopper | removeCopper | duplicate => exact plain.elim
  | _ => rfl

/-! ### The table -/

theorem placed_table (own : List Warning)
    (result : EntityList × Except Error (Placement × Extent)) :
    (blueprint.placed own result).1.table = blueprint.table := by
  obtain ⟨list, _ | outcome⟩ := result <;> rfl

/-- No change touches the table. -/
theorem Change.table {fitting : Prop} {before after : Blueprint}
    (change : Change fitting before after) : after.table = before.table := by
  cases change with
  | describe table => exact table
  | insertEntity _ _ _ own => exact placed_table own _
  | setEntity _ own => exact placed_table own _
  | modifyEntity key =>
    rcases before.modifyEntity_cases key _ with same | ⟨_, _, -, -, ⟨_, -, after⟩ | restored⟩
    · rw [same]
    · rw [after]
    · rw [restored]
  | setTile i =>
    simp only [Blueprint.setTile]
    split
    · rfl
    · split <;> rfl
  | _ => rfl

theorem table_apply (operation : Operation) (blueprint : Blueprint) :
    (operation.apply blueprint).table = blueprint.table := by
  have changes : Changes False blueprint (operation.apply blueprint) :=
    changes_apply operation False.elim
  generalize operation.apply blueprint = after at changes ⊢
  induction changes with
  | refl => rfl
  | tail _ change ih => exact change.table.trans ih

/-! ### Insertions, replacements and removals -/

theorem entities_placed (own : List Warning)
    (result : EntityList × Except Error (Placement × Extent)) :
    (blueprint.placed own result).1.entities = result.1 := by
  obtain ⟨list, _ | outcome⟩ := result <;> rfl

theorem isOk_placed (own : List Warning)
    (result : EntityList × Except Error (Placement × Extent)) :
    (blueprint.placed own result).2.isOk = result.2.isOk := by
  obtain ⟨list, _ | outcome⟩ := result <;> rfl

variable {given : Entity → Prop}

theorem altered_insertEntity (coherent : blueprint.Coherent) (i : Nat) {item : Item} (merge : Bool)
    (areGiven : ∀ e ∈ item.entities, given e) :
    EntityList.Altered merge given [] blueprint.entities
      (blueprint.insertEntity i item merge).1.entities := by
  unfold insertEntity
  split
  · exact .refl merge given blueprint.entities
  · rw [entities_placed]
    exact EntityList.altered_of_insert coherent.entities.vacant blueprint.table blueprint.mode
      blueprint.extent i merge areGiven

theorem altered_setEntity (coherent : blueprint.Coherent) (i : Nat) {item : Item}
    (areGiven : ∀ e ∈ item.entities, given e) :
    EntityList.Altered false given ((Operation.setEntity i item).takes blueprint)
      blueprint.entities (blueprint.setEntity i item).1.entities := by
  rw [Operation.takes]
  unfold setEntity
  split
  · exact .refl false given blueprint.entities
  · have exchanged := EntityList.exchanged_set coherent.entities.vacant blueprint.table
      blueprint.mode blueprint.tiles.boxes i areGiven
    rw [entities_placed, isOk_placed]
    generalize blueprint.entities.set blueprint.table blueprint.mode blueprint.tiles.boxes i item =
      result at exchanged ⊢
    obtain ⟨after, _ | outcome⟩ := result <;> exact exchanged

theorem altered_removeEntityKey (key : Key) (merge : Bool) (given : Entity → Prop) :
    EntityList.Altered merge given ((Operation.removeEntityKey key).takes blueprint)
      blueprint.entities (blueprint.removeEntityKey key).1.entities := by
  rw [Operation.takes]
  unfold removeEntityKey
  split
  · rename_i item after removed
    exact EntityList.altered_of_removeKey? removed merge given
  · exact .refl merge given blueprint.entities

/-- A member is removed as by its key. -/
theorem removeEntity_eq (i : Nat) : blueprint.removeEntity i =
    match blueprint.entities.members[i]? with
    | none => (blueprint, .error (.indexOutOfRange i blueprint.entities.length))
    | some member => blueprint.removeEntityKey member.key := by
  unfold removeEntity EntityList.remove removeEntityKey
  cases blueprint.entities.members[i]? with
  | none => rfl
  | some member =>
    dsimp only
    cases blueprint.entities.removeKey? member.key <;> rfl

theorem altered_removeEntity (coherent : blueprint.Coherent) (i : Nat) (merge : Bool)
    (given : Entity → Prop) :
    EntityList.Altered merge given ((Operation.removeEntity i).takes blueprint)
      blueprint.entities (blueprint.removeEntity i).1.entities := by
  rw [Operation.takes, EntityList.keysAt, removeEntity_eq]
  cases present : blueprint.entities.members[i]? with
  | none => exact .refl merge given blueprint.entities
  | some member =>
    have altered := @altered_removeEntityKey blueprint member.key merge given
    rw [Operation.takes, EntityList.member?, Member.findAmong?_key coherent.entities.nodup
      (List.mem_of_getElem? present)] at altered
    exact altered

/-- Inserting, replacing and removing take out what they say and keep everything else. -/
theorem altered_apply (coherent : blueprint.Coherent) (operation : Operation)
    (alters : operation.Alters) :
    EntityList.Altered operation.merges (· ∈ operation.entities) (operation.takes blueprint)
      blueprint.entities (operation.apply blueprint).entities := by
  have one (item : Item) (e : Entity) (mem : e ∈ item.entities) : e ∈ Item.entitiesOfAll [item] :=
    List.mem_append_left _ mem
  cases operation with
  | insertEntity i item merge => exact altered_insertEntity coherent i merge (one item)
  | addEntity item merge => exact altered_insertEntity coherent _ merge (one item)
  | setEntity i item => exact altered_setEntity coherent i (one item)
  | removeEntity i => exact altered_removeEntity coherent i _ _
  | removeEntityKey key => exact altered_removeEntityKey key _ _
  | clearEntities => exact EntityList.altered_clear coherent.entities _ _
  | _ => exact alters.elim

/-! ### Edits and bulk replacements -/

/-- An edit reaches the entity under its key and no other. -/
theorem revised_modifyEntity (key : Key) (f : Entity → Entity) : ∃ g,
    EntityList.Revised (EntityList.editAt key g) blueprint.entities
      (blueprint.modifyEntity key f).1.entities := by
  rcases blueprint.modifyEntity_cases key f with
    same | ⟨before, entities, -, modified, ⟨extent, -, after⟩ | restored⟩
  · rw [same]
    exact ⟨id, .of_same blueprint.entities fun other entity _ => ite_self entity⟩
  · rw [after]
    exact ⟨f, EntityList.revised_of_modify? modified⟩
  · rw [restored]
    have edited := EntityList.revised_of_modify? modified
    cases again : entities.modify? blueprint.table key fun _ => before with
    | none => exact ⟨f, edited⟩
    | some last =>
      have both := edited.trans (EntityList.revised_of_modify? again)
      refine ⟨fun _ => before, both.congr fun other entity _ => ?_⟩
      simp only [EntityList.editAt]
      split <;> rfl

/-- A bulk replacement is refused, or leaves a list of the given id and entities. -/
theorem setEntities_cases (coherent : blueprint.Coherent) (list : ListId) (items : List Item) :
    ((blueprint.setEntities list items).2.isOk = false ∧
        (blueprint.setEntities list items).1 = blueprint) ∨
      ((blueprint.setEntities list items).2.isOk = true ∧
        EntityList.Altered false (· ∈ Item.entitiesOfAll items) [] (.empty list)
          (blueprint.setEntities list items).1.entities) := by
  generalize done : blueprint.setEntities list items = result
  obtain ⟨after, error | warnings⟩ := result
  · exact .inl ⟨rfl, setEntities_of_error done⟩
  · have start : (blueprint.resetEntities list).Coherent :=
      ⟨.empty blueprint.table list, coherent.tiles⟩
    have filled : (placeEach (·.addEntity · false) (blueprint.resetEntities list) items).1.Coherent ∧
        EntityList.Altered false (· ∈ Item.entitiesOfAll items) [] (.empty list)
          (placeEach (·.addEntity · false) (blueprint.resetEntities list) items).1.entities := by
      refine placeEach_keeps (fun other => other.Coherent ∧
        EntityList.Altered false (· ∈ Item.entitiesOfAll items) [] (.empty list) other.entities)
        (fun item mem other sound => ⟨Changes.coherent (changes_insertEntity _ _ False.elim) sound.1,
          sound.2.trans (altered_insertEntity sound.1 _ false fun e inside => ?_)⟩)
        ⟨start, .refl false _ _⟩
      exact Item.mem_entitiesOfAll.mpr ⟨item, mem, inside⟩
    rw [(setEntities_eq_ok_iff.mp done).2] at filled
    exact .inr ⟨rfl, filled.2⟩

/-! ### Wires -/

/-- Nothing but entities is edited. -/
theorem rest_modifyBoth (a b : Key) (f g : Entity → Entity) :
    (blueprint.modifyBoth a b f g).1 =
      { blueprint with entities := (blueprint.modifyBoth a b f g).1.entities } := by
  unfold modifyBoth
  split
  · rfl
  · split <;> rfl

theorem rest_unlinkAll (key : Key) (told : List Association) :
    (blueprint.unlinkAll key told).1 =
      { blueprint with entities := (blueprint.unlinkAll key told).1.entities } := by
  induction told generalizing blueprint with
  | nil => rfl
  | cons association rest ih =>
    rw [unlinkAll]
    split
    · split
      · rename_i entities _
        exact @ih { blueprint with entities := entities }
      · rfl
    · exact ih

theorem rest_removeAllPower (key : Key) : (blueprint.removeAllPower key).1 =
    { blueprint with entities := (blueprint.removeAllPower key).1.entities } := by
  unfold removeAllPower
  split
  · rfl
  · rename_i entity _
    have rest := blueprint.rest_unlinkAll key entity.neighbours
    split
    · rename_i eq
      rw [eq] at rest
      exact rest
    · rename_i middle eq
      rw [eq] at rest
      dsimp only at rest
      generalize middle.entities = entities at rest
      subst rest
      split <;> rfl

/-- Wiring edits entities and nothing else. -/
theorem rest_apply_of_wires (operation : Operation) (wires : operation.Wires) :
    operation.apply blueprint =
      { blueprint with entities := (operation.apply blueprint).entities } := by
  cases operation with
  | addCircuit | addPower | addCopper =>
    simp only [Operation.apply, addCircuit, addPower, addCopper]
    split
    · rfl
    · exact rest_modifyBoth ..
  | removeCircuit color a b sideA sideB =>
    simp only [Operation.apply, removeCircuit]
    split
    · rfl
    · exact rest_modifyBoth ..
  | removePower | removeCopper => exact rest_modifyBoth ..
  | removeAllPower key => exact rest_removeAllPower key
  | _ => exact wires.elim

/-! ### Schedules -/

theorem schedules_insertEntity (i : Nat) (item : Item) (merge : Bool) :
    (blueprint.insertEntity i item merge).1.schedules = blueprint.schedules := by
  obtain ⟨entities, extent, same⟩ := blueprint.insertEntity_touches i item merge
  rw [same]

theorem schedules_setEntity (i : Nat) (item : Item) :
    (blueprint.setEntity i item).1.schedules = blueprint.schedules := by
  unfold setEntity
  split
  · rfl
  · generalize blueprint.entities.set blueprint.table blueprint.mode blueprint.tiles.boxes i item =
      result
    obtain ⟨entities, _ | outcome⟩ := result <;> rfl

theorem schedules_removeEntityKey (key : Key) :
    (blueprint.removeEntityKey key).1.schedules = blueprint.schedules := by
  unfold removeEntityKey
  split <;> rfl

theorem schedules_removeEntity (i : Nat) :
    (blueprint.removeEntity i).1.schedules = blueprint.schedules := by
  rw [removeEntity_eq]
  split
  · rfl
  · exact schedules_removeEntityKey _

theorem schedules_modifyEntity (key : Key) (f : Entity → Entity) :
    (blueprint.modifyEntity key f).1.schedules = blueprint.schedules := by
  rcases blueprint.modifyEntity_cases key f with same | ⟨_, _, -, -, ⟨_, -, after⟩ | restored⟩
  · rw [same]
  · rw [after]
  · rw [restored]

theorem schedules_setEntities (list : ListId) (items : List Item) :
    (blueprint.setEntities list items).1.schedules = blueprint.schedules := by
  generalize done : blueprint.setEntities list items = result
  obtain ⟨after, error | warnings⟩ := result
  · rw [setEntities_of_error done]
  · have filled : (placeEach (·.addEntity · false) (blueprint.resetEntities list) items).1.schedules =
        blueprint.schedules :=
      placeEach_keeps (·.schedules = blueprint.schedules)
        (fun item _ other kept => (schedules_insertEntity _ item false).trans kept) rfl
    rw [(setEntities_eq_ok_iff.mp done).2] at filled
    exact filled

theorem schedules_apply_of_wires (operation : Operation) (wires : operation.Wires) :
    (operation.apply blueprint).schedules = blueprint.schedules := by
  rw [rest_apply_of_wires operation wires]

/-- Operations on anything else leave the schedules alone, even where a locomotive is removed. -/
theorem schedules_apply (operation : Operation) (other : ¬ operation.Reschedules) :
    (operation.apply blueprint).schedules = blueprint.schedules := by
  cases operation with
  | setLabelColor color => exact (beside_setLabelColor color).schedules
  | setIcons icons => exact (beside_setIcons icons).schedules
  | setIconsByName names => exact (beside_setIconsByName names).schedules
  | setVersionComponents components => exact (beside_setVersionComponents components).schedules
  | insertEntity i item merge => exact schedules_insertEntity i item merge
  | addEntity item merge => exact schedules_insertEntity _ item merge
  | setEntity i item => exact schedules_setEntity i item
  | removeEntity i => exact schedules_removeEntity i
  | removeEntityKey key => exact schedules_removeEntityKey key
  | modifyEntity key f => exact schedules_modifyEntity key f
  | setEntities list items => exact schedules_setEntities list items
  | insertTile i tile merge => exact (beside_insertTile i tile merge).schedules
  | addTile tile merge => exact (beside_insertTile _ tile merge).schedules
  | setTile i tile => exact (beside_setTile i tile).schedules
  | removeTile i => exact (beside_removeTile i).schedules
  | setTiles tiles => exact (beside_setTiles tiles).schedules
  | addCircuit | removeCircuit | addPower | removePower | removeAllPower | addCopper
  | removeCopper => exact schedules_apply_of_wires _ trivial
  | addSchedule | insertSchedule | setSchedule | removeSchedule | clearSchedules | editSchedules
  | forgetLocomotive | removeStop | addLocomotive | removeLocomotive | duplicate =>
    exact (other trivial).elim
  | _ => rfl

end Blueprint
end FactoryBlueprint
