import FactoryBlueprint.Proofs.Blueprint.Answers
import FactoryBlueprint.Proofs.Blueprint.Twins

/-! # Twin blueprints in tandem

What is done to twins alike keeps them twins, and is answered alike: entities, tiles, schedules and
what is said about the whole.
-/

namespace FactoryBlueprint

/-- What was told before comes first. -/
theorem Placement.Alike.after {mode : ValidationMode} {before earlier raised others : Raised}
    {kept left : List Warning} {placement other : Placement}
    (alike : placement.Alike mode raised others other)
    (told : before.Told mode earlier kept left) :
    (placement.after kept).Alike mode (before ++ raised) (earlier ++ others) (other.after left) :=
  ⟨alike.key, alike.merged, told.append alike.told⟩

namespace Blueprint

/-- A call leaves twins, with errors that are related by `E` or results that are by `R`. -/
structure InTandem {α β : Type} (rename : Equiv.Perm ListId) (E : Error → Error → Prop)
    (R : α → β → Prop) (first : Edited α) (second : Edited β) : Prop where
  twins : Twins rename first.1 second.1
  outcomes : OutcomesAlike E R first.2 second.2

/-- A call leaves twins, with an object placed alike or refused alike. -/
def PlacedInTandem (rename : Equiv.Perm ListId) (mode : ValidationMode) (raised others : Raised) :
    Edited Placement → Edited Placement → Prop :=
  InTandem rename (Error.Alike mode raised others) (Placement.Alike mode raised others)

/-- A call leaves twins, with several objects placed alike or refused alike. -/
def ToldInTandem (rename : Equiv.Perm ListId) (mode : ValidationMode) (raised others : Raised) :
    Edited (List Warning) → Edited (List Warning) → Prop :=
  InTandem rename (Error.Alike mode raised others) (Raised.Told mode raised others)

variable {rename : Equiv.Perm ListId} {blueprint other : Blueprint} {α β : Type} {R : α → β → Prop}
namespace Twins

/-- A twin in full. -/
theorem parts (twins : Twins rename blueprint other) : ∃ entities tiles,
    EntityList.Twins rename blueprint.entities entities ∧ TileList.Twins blueprint.tiles tiles ∧
      other = { blueprint with
        entities := entities, tiles := tiles,
        schedules := blueprint.schedules.map (·.relist rename) } :=
  ⟨other.entities, other.tiles, twins.entities, twins.tiles, by
    rw [← twins.schedules]
    exact twins.rest⟩

theorem table (twins : Twins rename blueprint other) : other.table = blueprint.table := by
  rw [twins.rest]

theorem mode (twins : Twins rename blueprint other) : other.mode = blueprint.mode := by
  rw [twins.rest]

theorem extent (twins : Twins rename blueprint other) : other.extent = blueprint.extent := by
  rw [twins.rest]

theorem withEntities (twins : Twins rename blueprint other) {first second : EntityList}
    (entities : EntityList.Twins rename first second) {extent grown : Extent}
    (same : grown = extent) :
    Twins rename { blueprint with entities := first, extent := extent }
      { other with entities := second, extent := grown } where
  rest := by
    rw [same]
    exact congrArg (fun blueprint : Blueprint =>
      { blueprint with entities := second, extent := extent }) twins.rest
  entities := entities
  tiles := twins.tiles
  schedules := twins.schedules

theorem withTiles (twins : Twins rename blueprint other) {first second : TileList}
    (tiles : TileList.Twins first second) {extent grown : Extent} (same : grown = extent) :
    Twins rename { blueprint with tiles := first, extent := extent }
      { other with tiles := second, extent := grown } where
  rest := by
    rw [same]
    exact congrArg (fun blueprint : Blueprint =>
      { blueprint with tiles := second, extent := extent }) twins.rest
  entities := twins.entities
  tiles := tiles
  schedules := twins.schedules

theorem withSchedules (twins : Twins rename blueprint other)
    {first second : List (Schedule Association)} (schedules : second = first.map (·.relist rename)) :
    Twins rename { blueprint with schedules := first } { other with schedules := second } where
  rest := congrArg (fun blueprint : Blueprint => { blueprint with schedules := second }) twins.rest
  entities := twins.entities
  tiles := twins.tiles
  schedules := schedules

/-- A change to what is said about the whole. -/
theorem describe (twins : Twins rename blueprint other) (f : Blueprint → Blueprint)
    (keeps : ∀ (blueprint : Blueprint) entities tiles schedules,
      f { blueprint with entities := entities, tiles := tiles, schedules := schedules } =
        { f blueprint with entities := entities, tiles := tiles, schedules := schedules }) :
    Twins rename (f blueprint) (f other) := by
  have held (blueprint : Blueprint) : f blueprint = { f blueprint with
      entities := blueprint.entities, tiles := blueprint.tiles,
      schedules := blueprint.schedules } :=
    keeps blueprint blueprint.entities blueprint.tiles blueprint.schedules
  have entities (blueprint : Blueprint) : (f blueprint).entities = blueprint.entities := by
    rw [held]
  have tiles (blueprint : Blueprint) : (f blueprint).tiles = blueprint.tiles := by rw [held]
  have schedules (blueprint : Blueprint) : (f blueprint).schedules = blueprint.schedules := by
    rw [held]
  refine ⟨?_, ?_, ?_, ?_⟩
  · rw [entities, tiles, schedules, ← keeps, ← twins.rest]
  · rw [entities, entities]
    exact twins.entities
  · rw [tiles, tiles]
    exact twins.tiles
  · rw [schedules, schedules, twins.schedules]

/-- Where a refusal leaves both as they were. -/
theorem edited {E : Error → Error → Prop} (twins : Twins rename blueprint other)
    {first : Except Error (Blueprint × α)} {second : Except Error (Blueprint × β)}
    (alike : OutcomesAlike E (fun p q => Twins rename p.1 q.1 ∧ R p.2 q.2) first second) :
    InTandem rename E R (blueprint.edited first) (other.edited second) := by
  cases alike with
  | ok related => exact ⟨related.1, .ok related.2⟩
  | error alike => exact ⟨twins, .error alike⟩

theorem refused (twins : Twins rename blueprint other) (error : Error) :
    InTandem rename Eq R (blueprint, .error error) (other, .error error) :=
  ⟨twins, .error rfl⟩

/-! ### What is said about the whole -/

theorem setLabelColor (twins : Twins rename blueprint other) (color : Option Color) :
    InTandem rename Eq Eq (blueprint.setLabelColor color) (other.setLabelColor color) := by
  have set := twins.describe (fun blueprint => { blueprint with labelColor := color })
    fun _ _ _ _ => rfl
  rw [Blueprint.setLabelColor, Blueprint.setLabelColor]
  rw [twins.mode] at set ⊢
  cases color with
  | none => exact twins.edited (.ok ⟨set, rfl⟩)
  | some color =>
    refine twins.edited ?_
    by_cases checked : blueprint.mode ≠ .none
    · simp only [if_pos checked]
      exact (OutcomesAlike.refl (fun _ => rfl) (fun _ => rfl) _).bind fun _ _ _ => .ok ⟨set, trivial⟩
    · simp only [if_neg checked]
      exact .ok ⟨set, trivial⟩

theorem setIcons (twins : Twins rename blueprint other) (icons : List Icon) :
    InTandem rename Eq Eq (blueprint.setIcons icons) (other.setIcons icons) := by
  have set := twins.describe (fun blueprint => { blueprint with icons := icons }) fun _ _ _ _ => rfl
  rw [Blueprint.setIcons, Blueprint.setIcons]
  rw [twins.mode, twins.table] at set ⊢
  exact twins.edited
    ((OutcomesAlike.refl (fun _ => rfl) (fun _ => rfl) _).bind fun _ _ _ => .ok ⟨set, rfl⟩)

theorem setIconsByName (twins : Twins rename blueprint other) (names : List String) :
    InTandem rename Eq Eq (blueprint.setIconsByName names) (other.setIconsByName names) := by
  rw [Blueprint.setIconsByName, Blueprint.setIconsByName, twins.table]
  split
  · exact twins.setIcons _
  · exact twins.refused _

theorem setVersionComponents (twins : Twins rename blueprint other) (components : List Nat) :
    InTandem rename Eq Eq (blueprint.setVersionComponents components)
      (other.setVersionComponents components) := by
  rw [Blueprint.setVersionComponents, Blueprint.setVersionComponents]
  split
  · rename_i version _
    exact ⟨twins.describe (fun blueprint => { blueprint with version := version })
      fun _ _ _ _ => rfl, .ok rfl⟩
  · exact twins.refused _

theorem recalculate (twins : Twins rename blueprint other) :
    InTandem rename Eq Eq blueprint.recalculate other.recalculate := by
  have extents : Extent.ofBoxes other.boxes = Extent.ofBoxes blueprint.boxes := by
    refine Extent.ofBoxes_congr fun box => ?_
    rw [Blueprint.boxes, Blueprint.boxes, List.mem_append, List.mem_append,
      twins.entities.mem_boxes, twins.tiles.mem_boxes]
  rw [Blueprint.recalculate, Blueprint.recalculate, extents]
  exact ⟨twins.withEntities twins.entities rfl, .refl (fun _ => rfl) (fun _ => rfl) _⟩

/-! ### Entities -/

theorem placed {mode : ValidationMode} {before earlier raised others : Raised}
    {kept left : List Warning} (twins : Twins rename blueprint other)
    (told : Raised.Told mode before earlier kept left)
    {first second : EntityList × Except Error (Placement × Extent)}
    (tandem : EntityList.InTandem rename (Error.Alike mode raised others)
      (PlacedWithin mode raised others) first second) :
    PlacedInTandem rename mode (before ++ raised) (earlier ++ others)
      (blueprint.placed kept first) (other.placed left second) := by
  obtain ⟨list, outcome⟩ := first
  obtain ⟨otherList, otherOutcome⟩ := second
  obtain ⟨entities, outcomes⟩ := tandem
  cases outcomes with
  | error alike => exact ⟨twins.withEntities entities twins.extent, .error (alike.after told)⟩
  | ok related =>
    exact ⟨twins.withEntities entities related.2, .ok (related.1.after told)⟩

theorem insertEntity (twins : Twins rename blueprint other) (i : Nat) {item : Item} {merge : Bool}
    (decided : (Operation.insertEntity i item merge).Decided blueprint) :
    PlacedInTandem rename blueprint.mode (blueprint.raisedByItem item merge)
      (other.raisedByItem (item.relist rename) merge)
      (blueprint.insertEntity i item merge) (other.insertEntity i (item.relist rename) merge) := by
  rw [Blueprint.insertEntity, Blueprint.insertEntity, raisedByItem, raisedByItem, twins.mode,
    twins.table, twins.extent, Item.warnings_relist]
  split
  · exact ⟨twins, .error (.same _)⟩
  · rename_i own accepted
    refine twins.placed (.own accepted) (twins.entities.insert _ _ i fun merges bound => ?_)
    exact decided merges bound (by rw [accepted]; rfl)

theorem addEntity (twins : Twins rename blueprint other) {item : Item} {merge : Bool}
    (decided : (Operation.addEntity item merge).Decided blueprint) :
    PlacedInTandem rename blueprint.mode (blueprint.raisedByItem item merge)
      (other.raisedByItem (item.relist rename) merge)
      (blueprint.addEntity item merge) (other.addEntity (item.relist rename) merge) := by
  rw [Blueprint.addEntity, Blueprint.addEntity, twins.entities.length]
  exact twins.insertEntity _ fun merges _ => decided merges

theorem setEntity (twins : Twins rename blueprint other) (i : Nat) (item : Item) :
    PlacedInTandem rename blueprint.mode ((Operation.setEntity i item).raised blueprint)
      ((Operation.setEntity i (item.relist rename)).raised other)
      (blueprint.setEntity i item) (other.setEntity i (item.relist rename)) := by
  rw [Blueprint.setEntity, Blueprint.setEntity, Operation.raised, Operation.raised, twins.mode,
    twins.table, Item.warnings_relist]
  split
  · exact ⟨twins, .error (.same _)⟩
  · rename_i own accepted
    exact twins.placed (.own accepted) (twins.entities.set _ twins.tiles.mem_boxes i item)

theorem removeEntity (twins : Twins rename blueprint other) (i : Nat) :
    InTandem rename Eq (fun item left => left = item.relist rename) (blueprint.removeEntity i)
      (other.removeEntity i) := by
  refine twins.edited ((twins.entities.remove i).bind fun removed left related => .ok ?_)
  exact ⟨twins.withEntities related.2 twins.extent, related.1⟩

theorem removeEntityKey (twins : Twins rename blueprint other) (key : Key) :
    InTandem rename Eq (fun item left => left = item.relist rename) (blueprint.removeEntityKey key)
      (other.removeEntityKey key) := by
  have removed := twins.entities.removeKey? key
  rw [Blueprint.removeEntityKey, Blueprint.removeEntityKey]
  generalize blueprint.entities.removeKey? key = first at removed ⊢
  generalize other.entities.removeKey? key = second at removed ⊢
  cases removed with
  | none => exact twins.refused _
  | some related => exact ⟨twins.withEntities related.2 twins.extent, .ok related.1⟩

theorem modifyEntity (twins : Twins rename blueprint other) (key : Key) {f g : Entity → Entity}
    (same : ∀ entity, (f entity).relist rename = g (entity.relist rename)) :
    InTandem rename Eq Eq (blueprint.modifyEntity key f) (other.modifyEntity key g) := by
  obtain ⟨list, tiles, listTwins, -, rfl⟩ := id twins.parts
  have modified := listTwins.modify? blueprint.table key same
  rw [Blueprint.modifyEntity, Blueprint.modifyEntity, twins.entities.entity?]
  cases blueprint.entities.entity? key with
  | none => exact twins.refused _
  | some before =>
    dsimp only [Option.map_some, Option.bind_eq_bind, Option.bind_some, Option.pure_def]
    generalize blueprint.entities.modify? blueprint.table key f = first at modified ⊢
    generalize list.modify? blueprint.table key g = second at modified ⊢
    cases modified with
    | none => exact twins.refused _
    | @some entities otherEntities edited =>
      dsimp only [Option.bind_some]
      rw [edited.index.box?]
      cases (entities.index.box? key).elim (.ok blueprint.extent) blueprint.extent.extendOver with
      | ok extent => exact ⟨twins.withEntities edited rfl, .ok rfl⟩
      | error error =>
        refine ⟨twins.withEntities ?_ twins.extent, .error rfl⟩
        have restored := edited.modify? blueprint.table key
          (f := fun _ => before) (g := fun _ => before.relist rename) fun _ => rfl
        generalize entities.modify? blueprint.table key _ = first at restored ⊢
        generalize otherEntities.modify? blueprint.table key _ = second at restored ⊢
        cases restored with
        | none => exact edited
        | some back => exact back

theorem clearEntities (twins : Twins rename blueprint other) :
    Twins rename blueprint.clearEntities other.clearEntities :=
  twins.withEntities twins.entities.clear
    (Extent.ofBoxes_congr fun box => (twins.tiles.mem_boxes box).symm)

/-! ### Tiles -/

theorem insertTile (twins : Twins rename blueprint other) (i : Nat) {tile : Tile} {merge : Bool}
    (decided : (Operation.insertTile i tile merge).Decided blueprint) :
    PlacedInTandem rename blueprint.mode (blueprint.raisedByTile tile merge)
      (other.raisedByTile tile merge)
      (blueprint.insertTile i tile merge) (other.insertTile i tile merge) := by
  obtain ⟨list, tiles, -, -, rfl⟩ := id twins.parts
  refine twins.edited ?_
  cases accepted : blueprint.mode.accept (tile.warnings blueprint.table) with
  | error error => exact .error (.same error)
  | ok own =>
    have told := Raised.Told.own accepted
    refine ((twins.tiles.insert blueprint.mode blueprint.extent i fun merges bound =>
      decided merges bound (by rw [accepted]; rfl)).imp (fun _ _ refused => refused.after told)
        fun _ _ same => same).bind fun inserted left related => .ok ?_
    exact ⟨twins.withTiles related.1 related.2.2, related.2.1.after told⟩

theorem addTile (twins : Twins rename blueprint other) {tile : Tile} {merge : Bool}
    (decided : (Operation.addTile tile merge).Decided blueprint) :
    PlacedInTandem rename blueprint.mode (blueprint.raisedByTile tile merge)
      (other.raisedByTile tile merge) (blueprint.addTile tile merge)
      (other.addTile tile merge) := by
  rw [Blueprint.addTile, Blueprint.addTile, twins.tiles.length]
  exact twins.insertTile _ fun merges _ => decided merges

theorem setTile (twins : Twins rename blueprint other) (i : Nat) (tile : Tile) :
    PlacedInTandem rename blueprint.mode ((Operation.setTile i tile).raised blueprint)
      ((Operation.setTile i tile).raised other) (blueprint.setTile i tile)
      (other.setTile i tile) := by
  obtain ⟨list, tiles, listTwins, tilesTwins, rfl⟩ := id twins.parts
  rw [Blueprint.setTile, Blueprint.setTile, Operation.raised, Operation.raised]
  dsimp only
  split
  · exact ⟨twins, .error (.same _)⟩
  · rename_i own accepted
    have told := Raised.Told.own accepted
    have set := tilesTwins.set blueprint.table blueprint.mode listTwins.mem_boxes i tile
    generalize blueprint.tiles.set blueprint.table blueprint.mode blueprint.entities.boxes i tile =
      first at set ⊢
    generalize tiles.set blueprint.table blueprint.mode list.boxes i tile = second at set ⊢
    obtain ⟨list, outcome⟩ := first
    obtain ⟨otherList, otherOutcome⟩ := second
    obtain ⟨tiles, outcomes⟩ := set
    cases outcomes with
    | error alike => exact ⟨twins.withTiles tiles twins.extent, .error (alike.after told)⟩
    | ok related => exact ⟨twins.withTiles tiles related.2, .ok (related.1.after told)⟩

theorem removeTile (twins : Twins rename blueprint other) (i : Nat) :
    InTandem rename Eq Eq (blueprint.removeTile i) (other.removeTile i) := by
  refine twins.edited ((twins.tiles.remove i).bind fun removed left related => .ok ?_)
  exact ⟨twins.withTiles related.2 twins.extent, related.1.symm⟩

theorem clearTiles (twins : Twins rename blueprint other) :
    Twins rename blueprint.clearTiles other.clearTiles :=
  twins.withTiles twins.tiles.clear
    (Extent.ofBoxes_congr fun box => (twins.entities.mem_boxes box).symm)

/-! ### Bulk replacement -/

/-- Values are placed in twins alike one after the other, until one is refused. What was told of
those before it comes first. -/
theorem placeEach {place : Blueprint → α → Edited Placement} {raised : Blueprint → α → Raised}
    {f : α → α} (values : List α)
    (step : ∀ value ∈ values, ∀ blueprint other, Twins rename blueprint other →
      PlacedInTandem rename blueprint.mode (raised blueprint value) (raised other (f value))
        (place blueprint value) (place other (f value)))
    (mode : ∀ value ∈ values, ∀ blueprint, (place blueprint value).1.mode = blueprint.mode)
    {blueprint other : Blueprint} (twins : Twins rename blueprint other) :
    ToldInTandem rename blueprint.mode (raisedByEach place raised blueprint values)
      (raisedByEach place raised other (values.map f)) (Blueprint.placeEach place blueprint values)
      (Blueprint.placeEach place other (values.map f)) := by
  induction values generalizing blueprint other with
  | nil => exact ⟨twins, .ok (.nil _)⟩
  | cons value values ih =>
    obtain ⟨here, later⟩ := List.forall_mem_cons.mp step
    obtain ⟨same, keeps⟩ := List.forall_mem_cons.mp mode
    have first := here blueprint other twins
    have unchanged := same blueprint
    rw [Blueprint.placeEach, List.map_cons, Blueprint.placeEach, raisedByEach, raisedByEach]
    generalize raised blueprint value = own at first ⊢
    generalize raised other (f value) = otherOwn at first ⊢
    generalize place blueprint value = placed at first unchanged ⊢
    generalize place other (f value) = otherPlaced at first ⊢
    obtain ⟨middle, outcome⟩ := placed
    obtain ⟨otherMiddle, otherOutcome⟩ := otherPlaced
    obtain ⟨between, outcomes⟩ := first
    replace between : Twins rename middle otherMiddle := between
    cases outcomes with
    | error alike =>
      refine ⟨between, .error ?_⟩
      rw [List.append_nil, List.append_nil]
      exact alike
    | ok alike =>
      have rest := ih later keeps between
      rw [show middle.mode = blueprint.mode from unchanged] at rest
      refine ⟨rest.twins, OutcomesAlike.map ?_ fun _ _ told => alike.told.append told⟩
      exact rest.outcomes.imp (fun _ _ refused => refused.after alike.told) fun _ _ told => told

theorem refill (place : Blueprint → α → Edited Placement) (raised : Blueprint → α → Raised)
    (f : α → α) (values : List α)
    (step : ∀ value ∈ values, ∀ blueprint other, Twins rename blueprint other →
      PlacedInTandem rename blueprint.mode (raised blueprint value) (raised other (f value))
        (place blueprint value) (place other (f value)))
    (mode : ∀ value ∈ values, ∀ blueprint, (place blueprint value).1.mode = blueprint.mode)
    (twins : Twins rename blueprint other) :
    ToldInTandem rename blueprint.mode
      (raisedByEach place raised blueprint.recalculate.1 values)
      (raisedByEach place raised other.recalculate.1 (values.map f))
      (Blueprint.refill place blueprint values)
      (Blueprint.refill place other (values.map f)) := by
  have begun := twins.recalculate
  have unchanged : blueprint.recalculate.1.mode = blueprint.mode := rfl
  rw [Blueprint.refill, Blueprint.refill]
  generalize blueprint.recalculate = start at begun unchanged ⊢
  generalize other.recalculate = otherStart at begun ⊢
  obtain ⟨start, outcome⟩ := start
  obtain ⟨otherStart, otherOutcome⟩ := otherStart
  obtain ⟨emptied, outcomes⟩ := begun
  cases outcomes with
  | error alike => exact ⟨emptied, .error (alike ▸ .same _)⟩
  | ok =>
    have filled := placeEach values step mode emptied
    rw [show start.mode = blueprint.mode from unchanged] at filled
    exact filled

theorem setEntities (twins : Twins rename blueprint other) (list : ListId) (items : List Item) :
    ToldInTandem rename blueprint.mode ((Operation.setEntities list items).raised blueprint)
      ((Operation.setEntities (rename list) (Item.relistAll rename items)).raised other)
      (blueprint.setEntities list items)
      (other.setEntities (rename list) (Item.relistAll rename items)) := by
  have emptied := twins.withEntities (EntityList.twins_empty rename list) twins.extent
  have filled := refill (·.addEntity · false) (·.raisedByItem · false) (·.relist rename) items
    (fun _ _ _ _ twins => twins.addEntity nofun)
    (fun item _ blueprint => blueprint.mode_insertEntity blueprint.entities.length item false)
    emptied
  rw [recalculate_without_entities, recalculate_without_entities, ← Item.relistAll_eq_map] at filled
  rw [Blueprint.setEntities, Blueprint.setEntities, Operation.raised, Operation.raised]
  dsimp only at filled
  generalize Blueprint.refill (·.addEntity · false) _ items = first at filled ⊢
  generalize Blueprint.refill (·.addEntity · false) _ (Item.relistAll rename items) = second
    at filled ⊢
  obtain ⟨after, outcome⟩ := first
  obtain ⟨otherAfter, otherOutcome⟩ := second
  obtain ⟨left, outcomes⟩ := filled
  replace left : Twins rename after otherAfter := left
  cases outcomes with
  | ok told => exact ⟨left, .ok told⟩
  | error alike => exact ⟨left.withEntities twins.entities twins.extent, .error alike⟩

theorem setTiles (twins : Twins rename blueprint other) (tiles : List Tile) :
    ToldInTandem rename blueprint.mode ((Operation.setTiles tiles).raised blueprint)
      ((Operation.setTiles tiles).raised other) (blueprint.setTiles tiles)
      (other.setTiles tiles) := by
  have emptied := twins.withTiles TileList.twins_empty twins.extent
  have filled := refill (·.addTile · false) (·.raisedByTile · false) id tiles
    (fun _ _ _ _ twins => twins.addTile nofun)
    (fun tile _ blueprint => blueprint.mode_insertTile blueprint.tiles.length tile false) emptied
  rw [recalculate_without_tiles, recalculate_without_tiles, List.map_id] at filled
  rw [Blueprint.setTiles, Blueprint.setTiles, Operation.raised, Operation.raised]
  dsimp only at filled
  generalize Blueprint.refill (·.addTile · false) { blueprint with tiles := .empty } tiles = first
    at filled ⊢
  generalize Blueprint.refill (·.addTile · false) { other with tiles := .empty } tiles = second
    at filled ⊢
  obtain ⟨after, outcome⟩ := first
  obtain ⟨otherAfter, otherOutcome⟩ := second
  obtain ⟨left, outcomes⟩ := filled
  replace left : Twins rename after otherAfter := left
  cases outcomes with
  | ok told => exact ⟨left, .ok told⟩
  | error alike => exact ⟨left.withTiles twins.tiles twins.extent, .error alike⟩

/-! ### Schedules -/

theorem schedule (twins : Twins rename blueprint other) (i : Nat) :
    OutcomesAlike Eq (fun schedule left => left = schedule.relist rename) (blueprint.schedule i)
      (other.schedule i) := by
  rw [Blueprint.schedule, Blueprint.schedule, twins.schedules, List.getElem?_map, List.length_map]
  cases blueprint.schedules[i]? with
  | none => exact .error rfl
  | some schedule => exact .ok rfl

theorem insertSchedule (twins : Twins rename blueprint other) (i : Nat)
    (schedule : Schedule Association) : InTandem rename Eq Eq (blueprint.insertSchedule i schedule)
      (other.insertSchedule i (schedule.relist rename)) := by
  have length : other.schedules.length = blueprint.schedules.length := by
    rw [twins.schedules, List.length_map]
  rw [Blueprint.insertSchedule, Blueprint.insertSchedule, length]
  split
  · exact twins.refused _
  · refine ⟨twins.withSchedules ?_, .ok rfl⟩
    rw [twins.schedules, List.map_insertIdx]

/-- One schedule is put in the place of another. -/
theorem replaceSchedule (twins : Twins rename blueprint other) (i : Nat)
    {first second : Schedule Association} (same : second = first.relist rename) :
    Twins rename { blueprint with schedules := blueprint.schedules.set i first }
      { other with schedules := other.schedules.set i second } :=
  twins.withSchedules (by rw [twins.schedules, same, List.map_set])

theorem setSchedule (twins : Twins rename blueprint other) (i : Nat)
    (schedule : Schedule Association) :
    InTandem rename Eq (fun schedule left => left = schedule.relist rename)
      (blueprint.setSchedule i schedule) (other.setSchedule i (schedule.relist rename)) :=
  twins.edited ((twins.schedule i).bind fun _ _ old =>
    .ok ⟨twins.replaceSchedule i rfl, old⟩)

theorem removeSchedule (twins : Twins rename blueprint other) (i : Nat) :
    InTandem rename Eq (fun schedule left => left = schedule.relist rename)
      (blueprint.removeSchedule i) (other.removeSchedule i) := by
  refine twins.edited ((twins.schedule i).bind fun _ _ old => .ok ⟨twins.withSchedules ?_, old⟩)
  rw [twins.schedules, List.eraseIdx_map]

theorem forgetLocomotive (twins : Twins rename blueprint other) (key : Key) :
    Twins rename (blueprint.forgetLocomotive key) (other.forgetLocomotive key) := by
  refine twins.withSchedules ?_
  rw [twins.schedules, List.map_map, List.map_map]
  exact List.map_congr_left fun schedule _ => (schedule.relist_removeLocomotive key).symm

theorem removeStop (twins : Twins rename blueprint other) (i : Nat) (station : String) :
    InTandem rename Eq Eq (blueprint.removeStop i station) (other.removeStop i station) := by
  refine twins.edited ((twins.schedule i).bind fun schedule left same => ?_)
  rw [same, Schedule.removeStop?_relist]
  cases schedule.removeStop? station with
  | none => exact .ok ⟨twins, rfl⟩
  | some removed => exact .ok ⟨twins.replaceSchedule i rfl, rfl⟩

theorem addLocomotive (twins : Twins rename blueprint other) (i : Nat) (key : Key) :
    InTandem rename Eq Eq (blueprint.addLocomotive i key) (other.addLocomotive i key) := by
  have kind (entity : Entity) : (entity.relist rename).kind other.table =
      entity.kind blueprint.table := by rw [twins.table, Entity.kind_relist]
  rw [Blueprint.addLocomotive, Blueprint.addLocomotive, twins.entities.entity?,
    twins.entities.associate]
  cases blueprint.entities.entity? key with
  | none => exact twins.refused _
  | some entity =>
    dsimp only [Option.map_some]
    rw [kind, Entity.name_relist]
    by_cases other : entity.kind blueprint.table ≠ .locomotive
    · rw [if_pos other, if_pos other]
      exact twins.refused _
    · rw [if_neg other, if_neg other]
      refine twins.edited ((twins.schedule i).bind fun schedule left same => .ok ⟨?_, rfl⟩)
      exact twins.replaceSchedule i (by rw [same, Schedule.relist_addLocomotive])

theorem removeLocomotive (twins : Twins rename blueprint other) (i : Nat) (key : Key) :
    InTandem rename Eq Eq (blueprint.removeLocomotive i key) (other.removeLocomotive i key) := by
  refine twins.edited ((twins.schedule i).bind fun schedule left same => .ok ⟨?_, rfl⟩)
  exact twins.replaceSchedule i (by rw [same, Schedule.relist_removeLocomotive])

end Twins
end Blueprint
end FactoryBlueprint
