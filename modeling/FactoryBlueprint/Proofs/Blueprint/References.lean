import FactoryBlueprint.Proofs.Blueprint.Appending
import FactoryBlueprint.Proofs.Blueprint.Refilling
import FactoryBlueprint.Proofs.Blueprint.Written
import FactoryBlueprint.Proofs.Connections.Numbering
import FactoryBlueprint.Proofs.Entity.Record

/-! # Numbers in written blueprints

Writing a blueprint fails exactly where an association leads nowhere, and the error names the first
such place (`FirstOffence`). Otherwise entities are numbered from 1 in the order of the leaves, and
every association is written as the number of its target (`Numbered`).
-/

namespace FactoryBlueprint.Blueprint

variable {blueprint : Blueprint}

/-! ### Which associations have a number -/

/-- The association was made in the entity list of the blueprint and leads to an entity in it. -/
structure Resolves (blueprint : Blueprint) (association : Association) : Prop where
  list : association.list = blueprint.entities.id
  stored : (blueprint.entities.entity? association.target).isSome

theorem resolves_iff (coherent : blueprint.Coherent) {association : Association} :
    blueprint.Resolves association ↔ (blueprint.numbering.number? association).isSome := by
  rw [Numbering.number?_isSome_iff]
  constructor
  · rintro ⟨list, stored⟩
    exact ⟨list, (coherent.entities.mem_leaves_iff _).mpr stored⟩
  · rintro ⟨list, leaf⟩
    exact ⟨list, (coherent.entities.mem_leaves_iff _).mp leaf⟩

/-- All associations of the entity resolve. -/
def ResolvesEntity (blueprint : Blueprint) (entity : Entity) : Prop :=
  ∀ association ∈ entity.associations, blueprint.Resolves association

/-- All locomotives of the schedule resolve. -/
def ResolvesSchedule (blueprint : Blueprint) (schedule : Schedule Association) : Prop :=
  ∀ association ∈ schedule.locomotives, blueprint.Resolves association

theorem resolvesEntity_iff (coherent : blueprint.Coherent) {entity : Entity} :
    blueprint.ResolvesEntity entity ↔
      (blueprint.numbering.connectionsRecord? entity.connections).isSome ∧
        (entity.neighbours.mapM blueprint.numbering.number?).isSome := by
  simp only [ResolvesEntity, Entity.associations, List.mem_append, Connections.mem_targets_iff,
    resolves_iff coherent, Numbering.connectionsRecord?_isSome_iff, option_mapM_isSome_iff]
  constructor
  · intro each
    refine ⟨⟨fun side color far mem => each _ ?_, fun side far mem => each _ ?_⟩,
      fun association mem => each association (.inr mem)⟩
    · exact .inl (.inl ⟨side, color, far, mem, rfl⟩)
    · exact .inl (.inr ⟨side, far, mem, rfl⟩)
  · rintro ⟨⟨circuits, coppers⟩, neighbours⟩ association mem
    rcases mem with (⟨side, color, far, mem, rfl⟩ | ⟨side, far, mem, rfl⟩) | mem
    · exact circuits side color far mem
    · exact coppers side far mem
    · exact neighbours association mem

/-! ### Entities -/

/-- What is written of the object under a key: an entity with its position. -/
theorem placedEntity_eq_some_iff {key : Key} {world : Point} {entity : Entity} :
    (do let placed ← blueprint.entities.get? key
        pure (placed.worldPosition, ← placed.entity?)) = some (world, entity) ↔
      blueprint.entities.entity? key = some entity ∧
        blueprint.entities.worldPosition? key = some world := by
  simp only [EntityList.entity?, EntityList.worldPosition?]
  cases blueprint.entities.get? key with
  | none => simp
  | some placed => simp [Option.bind_eq_some_iff, and_comm]

theorem exists_worldPosition {key : Key} {entity : Entity}
    (stored : blueprint.entities.entity? key = some entity) :
    ∃ world, blueprint.entities.worldPosition? key = some world := by
  obtain ⟨placed, found, -⟩ := Option.bind_eq_some_iff.mp stored
  exact ⟨placed.worldPosition, Option.map_eq_some_iff.mpr ⟨placed, found, rfl⟩⟩

theorem isSome_of_leaf (coherent : blueprint.Coherent) : ∀ key ∈ blueprint.entities.leaves,
    (do let placed ← blueprint.entities.get? key
        pure (placed.worldPosition, ← placed.entity?)).isSome := by
  intro key leaf
  obtain ⟨entity, stored⟩ :=
    Option.isSome_iff_exists.mp ((coherent.entities.mem_leaves_iff key).mp leaf)
  obtain ⟨world, position⟩ := exists_worldPosition stored
  exact Option.isSome_of_eq_some (placedEntity_eq_some_iff.mpr ⟨stored, position⟩)

/-- The entities are those of the leaves, place by place. -/
theorem getElem?_placedEntities (coherent : blueprint.Coherent) {i : Nat} {world : Point}
    {entity : Entity} : blueprint.placedEntities[i]? = some (world, entity) ↔
      ∃ key, blueprint.entities.leaves[i]? = some key ∧
        blueprint.entities.entity? key = some entity ∧
        blueprint.entities.worldPosition? key = some world := by
  rw [placedEntities, getElem?_filterMap (isSome_of_leaf coherent), Option.bind_eq_some_iff]
  simp only [placedEntity_eq_some_iff]

theorem length_placedEntities (coherent : blueprint.Coherent) :
    blueprint.placedEntities.length = blueprint.entities.leaves.length :=
  length_filterMap (isSome_of_leaf coherent)

theorem exportEntity_eq_ok_iff {numbering : Numbering} {origin world : Point} {entity : Entity}
    {number : Nat} {document : Document} :
    exportEntity numbering origin world entity number = .ok document ↔ ∃ connections neighbours,
      numbering.connectionsRecord? entity.connections = some connections ∧
      entity.neighbours.mapM numbering.number? = some neighbours ∧
      document = entity.write number (world - origin) connections neighbours := by
  unfold exportEntity
  cases connected : numbering.connectionsRecord? entity.connections with
  | none => simp
  | some connections =>
    cases named : entity.neighbours.mapM numbering.number? with
    | none => simp
    | some neighbours => simp [eq_comm (a := document)]

/-- An entity is written if its associations resolve, and is named in the error otherwise. -/
theorem exportEntity_eq_error_iff (coherent : blueprint.Coherent) {origin world : Point}
    {entity : Entity} {number : Nat} {error : Error} :
    exportEntity blueprint.numbering origin world entity number = .error error ↔
      ¬ blueprint.ResolvesEntity entity ∧ error = .danglingReference entity.name world := by
  rw [resolvesEntity_iff coherent]
  unfold exportEntity
  cases connected : blueprint.numbering.connectionsRecord? entity.connections with
  | none => simp [eq_comm (a := error)]
  | some connections =>
    cases named : entity.neighbours.mapM blueprint.numbering.number? with
    | none => simp [eq_comm (a := error)]
    | some neighbours => simp

theorem exportEntity_ok_iff (coherent : blueprint.Coherent) {origin world : Point} {entity : Entity}
    {number : Nat} :
    (∃ document, exportEntity blueprint.numbering origin world entity number = .ok document) ↔
      blueprint.ResolvesEntity entity := by
  simp only [exists_ok_iff, ne_eq, exportEntity_eq_error_iff coherent]
  exact ⟨fun never => Classical.byContradiction fun fails => never _ ⟨fails, rfl⟩,
    fun resolves _ failed => failed.1 resolves⟩

theorem exportEntities_ok_iff (coherent : blueprint.Coherent) (origin : Point) :
    (∃ documents, blueprint.exportEntities origin = .ok documents) ↔
      ∀ key entity, blueprint.entities.entity? key = some entity →
        blueprint.ResolvesEntity entity := by
  rw [exportEntities, zipIdx_mapM_ok_iff]
  constructor
  · intro each key entity stored
    have leaf := (coherent.entities.mem_leaves_iff key).mpr (Option.isSome_of_eq_some stored)
    obtain ⟨i, place⟩ := List.mem_iff_getElem?.mp leaf
    obtain ⟨world, position⟩ := exists_worldPosition stored
    exact (exportEntity_ok_iff coherent).mp
      (each i _ ((getElem?_placedEntities coherent).mpr ⟨key, place, stored, position⟩))
  · rintro each i ⟨world, entity⟩ here
    obtain ⟨key, -, stored, -⟩ := (getElem?_placedEntities coherent).mp here
    exact (exportEntity_ok_iff coherent).mpr (each key entity stored)

/-- The first entity with an association that does not resolve is the one that is reported. -/
theorem exportEntities_eq_error_iff (coherent : blueprint.Coherent) {origin : Point}
    {error : Error} : blueprint.exportEntities origin = .error error ↔
      ∃ (i : Nat) (key : Key) (entity : Entity) (world : Point),
        blueprint.entities.leaves[i]? = some key ∧
        blueprint.entities.entity? key = some entity ∧
        blueprint.entities.worldPosition? key = some world ∧
        ¬ blueprint.ResolvesEntity entity ∧
        error = .danglingReference entity.name world ∧
        ∀ j < i, ∀ key entity, blueprint.entities.leaves[j]? = some key →
          blueprint.entities.entity? key = some entity → blueprint.ResolvesEntity entity := by
  rw [exportEntities, zipIdx_mapM_eq_error_iff]
  constructor
  · rintro ⟨i, ⟨world, entity⟩, here, fails, first⟩
    obtain ⟨key, place, stored, position⟩ := (getElem?_placedEntities coherent).mp here
    obtain ⟨dangling, rfl⟩ := (exportEntity_eq_error_iff coherent).mp fails
    refine ⟨i, key, entity, world, place, stored, position, dangling, rfl, ?_⟩
    intro j before key entity place stored
    obtain ⟨world, position⟩ := exists_worldPosition stored
    exact (exportEntity_ok_iff coherent).mp
      (first j before _ ((getElem?_placedEntities coherent).mpr ⟨key, place, stored, position⟩))
  · rintro ⟨i, key, entity, world, place, stored, position, dangling, rfl, first⟩
    refine ⟨i, (world, entity),
      (getElem?_placedEntities coherent).mpr ⟨key, place, stored, position⟩,
      (exportEntity_eq_error_iff coherent).mpr ⟨dangling, rfl⟩, ?_⟩
    rintro j before ⟨world, entity⟩ there
    obtain ⟨key, place, stored, -⟩ := (getElem?_placedEntities coherent).mp there
    exact (exportEntity_ok_iff coherent).mpr (first j before key entity place stored)

/-! ### Schedules -/

theorem exportLocomotive_eq_ok_iff {numbering : Numbering} {i slot number : Nat}
    {locomotive : Association} : exportLocomotive numbering i slot locomotive = .ok number ↔
      numbering.number? locomotive = some number := by
  unfold exportLocomotive
  cases numbering.number? locomotive <;> simp

theorem exportLocomotive_eq_error_iff (coherent : blueprint.Coherent) {i slot : Nat}
    {locomotive : Association} {error : Error} :
    exportLocomotive blueprint.numbering i slot locomotive = .error error ↔
      ¬ blueprint.Resolves locomotive ∧ error = .danglingLocomotive i slot := by
  rw [resolves_iff coherent]
  unfold exportLocomotive
  cases blueprint.numbering.number? locomotive <;> simp [eq_comm (a := error)]

theorem exportLocomotive_ok_iff (coherent : blueprint.Coherent) {i slot : Nat}
    {locomotive : Association} :
    (∃ number, exportLocomotive blueprint.numbering i slot locomotive = .ok number) ↔
      blueprint.Resolves locomotive := by
  rw [resolves_iff coherent, Option.isSome_iff_exists]
  simp only [exportLocomotive_eq_ok_iff]

theorem exportSchedule_eq_ok_iff {numbering : Numbering} {schedule : Schedule Association} {i : Nat}
    {document : Document} :
    exportSchedule numbering schedule i = .ok document ↔ ∃ numbers,
      List.Forall₂ (fun locomotive number => numbering.number? locomotive = some number)
        schedule.locomotives numbers ∧
      document = Schedule.write ⟨schedule.stops, numbers, schedule.extra⟩ := by
  simp only [exportSchedule, bind_eq_ok_iff, zipIdx_mapM_eq_ok_iff, exportLocomotive_eq_ok_iff,
    pure, Except.pure, Except.ok.injEq, forall₂_iff_getElem?, eq_comm (a := document)]

/-- The first locomotive that does not resolve is the one that is reported. -/
theorem exportSchedule_eq_error_iff (coherent : blueprint.Coherent)
    {schedule : Schedule Association} {i : Nat} {error : Error} :
    exportSchedule blueprint.numbering schedule i = .error error ↔
      ∃ (slot : Nat) (locomotive : Association), schedule.locomotives[slot]? = some locomotive ∧
        (¬ blueprint.Resolves locomotive ∧ error = .danglingLocomotive i slot) ∧
        ∀ j < slot, ∀ locomotive, schedule.locomotives[j]? = some locomotive →
          blueprint.Resolves locomotive := by
  simp only [exportSchedule, bind_eq_error_iff, zipIdx_mapM_eq_error_iff, pure, Except.pure,
    reduceCtorEq, and_false, exists_false, or_false, exportLocomotive_eq_error_iff coherent,
    exportLocomotive_ok_iff coherent]

theorem exportSchedule_ok_iff (coherent : blueprint.Coherent) {schedule : Schedule Association}
    {i : Nat} : (∃ document, exportSchedule blueprint.numbering schedule i = .ok document) ↔
      blueprint.ResolvesSchedule schedule := by
  simp only [exportSchedule, bind_eq_ok_iff, pure, Except.pure, @exists_comm Document,
    Except.ok.injEq, exists_and_left, exists_eq', and_true, zipIdx_mapM_ok_iff,
    exportLocomotive_ok_iff coherent]
  constructor
  · intro each association mem
    obtain ⟨slot, listed⟩ := List.mem_iff_getElem?.mp mem
    exact each slot association listed
  · intro each slot association listed
    exact each association (List.mem_of_getElem? listed)

theorem exportSchedules_ok_iff (coherent : blueprint.Coherent) :
    (∃ documents, blueprint.exportSchedules = .ok documents) ↔
      ∀ schedule ∈ blueprint.schedules, blueprint.ResolvesSchedule schedule := by
  rw [exportSchedules, zipIdx_mapM_ok_iff]
  simp only [exportSchedule_ok_iff coherent]
  constructor
  · intro each schedule mem
    obtain ⟨i, place⟩ := List.mem_iff_getElem?.mp mem
    exact each i schedule place
  · intro each i schedule place
    exact each schedule (List.mem_of_getElem? place)

/-! ### The whole -/

/-- What was written of an entity: its number is one more than its place, and each of its
associations stands there as a number of the target. Where it has none, what its own maps hold under
the same key is written instead. -/
structure EntityNumbered (blueprint : Blueprint) (i : Nat) (entity : Entity) (written : Document) :
    Prop where
  number : written.field? "entity_number" = some (.ofNat (i + 1))
  name : written.field? "name" = some (.text entity.name)
  circuit : entity.connections.isEmpty = false → ∀ side color,
    List.Forall₂ (fun far point => ∃ number, point.field? "entity_id" = some (.ofNat number) ∧
        blueprint.numbering.Names number far.target)
      (entity.connections.circuit side color)
      (written.itemsAt ["connections", side.key, color.name])
  copper : entity.connections.isEmpty = false → ∀ side,
    List.Forall₂ (fun far point => ∃ number, point.field? "entity_id" = some (.ofNat number) ∧
        blueprint.numbering.Names number far.target)
      (entity.connections.copper side) (written.itemsAt ["connections", side.key])
  unwired : entity.connections.isEmpty = true →
    written.field? "connections" = entity.own.lookup "connections"
  neighbours : entity.neighbours ≠ [] →
    List.Forall₂ (fun association item => ∃ number, item = .ofNat number ∧
        blueprint.numbering.Names number association)
      entity.neighbours (written.itemsAt ["neighbours"])
  alone : entity.neighbours = [] → written.field? "neighbours" = entity.own.lookup "neighbours"

/-- Entities are numbered from 1 in the order of the leaves, and what refers to one is written as
its number. -/
structure Numbered (blueprint : Blueprint) (document : Document) : Prop where
  leaves : blueprint.entities.leaves.Nodup
  primitives : ∀ key, key ∈ blueprint.entities.leaves ↔ (blueprint.entities.entity? key).isSome
  length : (document.itemsAt ["blueprint", "entities"]).length = blueprint.entities.leaves.length
  entities : ∀ (i : Nat) key entity written, blueprint.entities.leaves[i]? = some key →
    blueprint.entities.entity? key = some entity →
    (document.itemsAt ["blueprint", "entities"])[i]? = some written →
    blueprint.EntityNumbered i entity written
  schedules : List.Forall₂ (fun schedule written =>
      List.Forall₂ (fun association item => ∃ number, item = .ofNat number ∧
          blueprint.numbering.Names number association)
        schedule.locomotives (written.itemsAt ["locomotives"]))
    blueprint.schedules (document.itemsAt ["blueprint", "schedules"])

/-- The error of the first entity in order that holds an association that does not resolve, or,
where all entities resolve, of the first such locomotive. -/
inductive FirstOffence (blueprint : Blueprint) : Error → Prop
  | entity {i : Nat} {key : Key} {entity : Entity} {world : Point}
      (place : blueprint.entities.leaves[i]? = some key)
      (stored : blueprint.entities.entity? key = some entity)
      (position : blueprint.entities.worldPosition? key = some world)
      (dangling : ¬ blueprint.ResolvesEntity entity)
      (first : ∀ j < i, ∀ key entity, blueprint.entities.leaves[j]? = some key →
        blueprint.entities.entity? key = some entity → blueprint.ResolvesEntity entity) :
      FirstOffence blueprint (.danglingReference entity.name world)
  | locomotive {i slot : Nat} {schedule : Schedule Association} {locomotive : Association}
      (entities : ∀ key entity, blueprint.entities.entity? key = some entity →
        blueprint.ResolvesEntity entity)
      (place : blueprint.schedules[i]? = some schedule)
      (listed : schedule.locomotives[slot]? = some locomotive)
      (dangling : ¬ blueprint.Resolves locomotive)
      (before : ∀ j < slot, ∀ locomotive, schedule.locomotives[j]? = some locomotive →
        blueprint.Resolves locomotive)
      (first : ∀ j < i, ∀ schedule, blueprint.schedules[j]? = some schedule →
        blueprint.ResolvesSchedule schedule) :
      FirstOffence blueprint (.danglingLocomotive i slot)

/-- The error is that of the first offence. -/
theorem toDocument_eq_error_iff_firstOffence (coherent : blueprint.Coherent) {error : Error} :
    blueprint.toDocument = .error error ↔ blueprint.FirstOffence error := by
  rw [toDocument_eq_error_iff, exportEntities_eq_error_iff coherent,
    exportEntities_ok_iff coherent, exportSchedules, zipIdx_mapM_eq_error_iff]
  simp only [exportSchedule_eq_error_iff coherent, exportSchedule_ok_iff coherent]
  constructor
  · rintro (⟨i, key, entity, world, place, stored, position, dangling, rfl, first⟩ |
      ⟨entities, i, schedule, place, ⟨slot, locomotive, listed, ⟨dangling, rfl⟩, before⟩, first⟩)
    · exact .entity place stored position dangling first
    · exact .locomotive entities place listed dangling before first
  · intro offence
    cases offence with
    | entity place stored position dangling first =>
      exact .inl ⟨_, _, _, _, place, stored, position, dangling, rfl, first⟩
    | locomotive entities place listed dangling before first =>
      exact .inr ⟨entities, _, _, place, ⟨_, _, listed, ⟨dangling, rfl⟩, before⟩, first⟩

theorem toDocument_ok_iff (coherent : blueprint.Coherent) :
    (∃ document, blueprint.toDocument = .ok document) ↔
      (∀ key entity, blueprint.entities.entity? key = some entity →
        blueprint.ResolvesEntity entity) ∧
      ∀ schedule ∈ blueprint.schedules, blueprint.ResolvesSchedule schedule := by
  rw [← exportEntities_ok_iff coherent blueprint.origin.toPoint,
    ← exportSchedules_ok_iff coherent]
  simp only [toDocument_eq_ok_iff]
  constructor
  · rintro ⟨_, entities, schedules, written, listed, rfl⟩
    exact ⟨⟨entities, written⟩, ⟨schedules, listed⟩⟩
  · rintro ⟨⟨entities, written⟩, ⟨schedules, listed⟩⟩
    exact ⟨_, entities, schedules, written, listed, rfl⟩

theorem names_of_number? (coherent : blueprint.Coherent) {association : Association} {number : Nat}
    (found : blueprint.numbering.number? association = some number) :
    blueprint.numbering.Names number association :=
  (Numbering.number?_eq_some_iff coherent.entities.nodup_leaves).mp found

theorem numbered_ends (coherent : blueprint.Coherent) {ends : List (WireEnd Association)}
    {points : List (WireEnd Nat)} (found : blueprint.numbering.numberEnds? ends = some points)
    {key : String} (other : "entity_id" ≠ key) : List.Forall₂ (fun far point => ∃ number,
      point.field? "entity_id" = some (.ofNat number) ∧
        blueprint.numbering.Names number far.target) ends (points.map (·.write key)) := by
  rw [Numbering.numberEnds?_eq_some_iff coherent.entities.nodup_leaves] at found
  refine List.forall₂_map_right_iff.mpr (found.imp fun far point names => ?_)
  exact ⟨point.target, WireEnd.field?_write_target other point, names.target⟩

theorem numbered_items (coherent : blueprint.Coherent) {associations : List Association}
    {numbers : List Nat} (found : List.Forall₂ (fun association number =>
      blueprint.numbering.number? association = some number) associations numbers) :
    List.Forall₂ (fun association item => ∃ number, item = .ofNat number ∧
      blueprint.numbering.Names number association) associations (numbers.map Document.ofNat) :=
  List.forall₂_map_right_iff.mpr
    (found.imp fun _ number here => ⟨number, rfl, names_of_number? coherent here⟩)

theorem field?_write_connections (entity : Entity) (number : Nat) (position : Point)
    (record : ConnectionsRecord) (neighbours : List Nat) :
    (entity.write number position record neighbours).field? "connections" =
      if record.isEmpty then entity.own.lookup "connections" else some record.write := by
  rw [Entity.write, Document.field?_object, Entity.lookup_writeFields]
  simp

theorem field?_write_neighbours (entity : Entity) (number : Nat) (position : Point)
    (record : ConnectionsRecord) (neighbours : List Nat) :
    (entity.write number position record neighbours).field? "neighbours" =
      if neighbours = [] then entity.own.lookup "neighbours"
      else some (.array (neighbours.map Document.ofNat)) := by
  rw [Entity.write, Document.field?_object, Entity.lookup_writeFields]
  simp

/-- Wires are left out of a written entity only where there are none. -/
theorem itemsAt_connections {entity : Entity} {number : Nat} {position : Point}
    {record : ConnectionsRecord} {neighbours : List Nat} (wired : record.isEmpty = false)
    (path : List String) :
    (entity.write number position record neighbours).itemsAt ("connections" :: path) =
      record.write.itemsAt path := by
  rw [Document.itemsAt_cons, field?_write_connections, wired]
  rfl

theorem entityNumbered_of_export (coherent : blueprint.Coherent) {origin world : Point}
    {entity : Entity} {i : Nat} {written : Document}
    (exported : exportEntity blueprint.numbering origin world entity (i + 1) = .ok written) :
    blueprint.EntityNumbered i entity written := by
  obtain ⟨connections, neighbours, connected, named, rfl⟩ := exportEntity_eq_ok_iff.mp exported
  obtain ⟨circuit, copper, circuits, coppers, rfl⟩ :=
    Numbering.connectionsRecord?_eq_some_iff.mp connected
  have wired := Numbering.isEmpty_ofPoints circuits coppers
  have paired := option_mapM_eq_some_iff.mp named
  have none : entity.neighbours = [] ↔ neighbours = [] := by
    rw [← List.length_eq_zero_iff, paired.length_eq, List.length_eq_zero_iff]
  refine ⟨?_, ?_, fun some side color => ?_, fun some side => ?_, fun unwired => ?_, fun some => ?_,
    fun alone => ?_⟩
  · rw [Entity.write, Document.field?_object, Entity.lookup_writeFields]
    simp
  · rw [Entity.write, Document.field?_object, Entity.lookup_writeFields]
    simp
  · rw [itemsAt_connections (wired.trans some), ConnectionsRecord.itemsAt_circuit]
    exact numbered_ends coherent (circuits side color) (by decide)
  · rw [itemsAt_connections (wired.trans some), ConnectionsRecord.itemsAt_copper]
    exact numbered_ends coherent (coppers side) (by decide)
  · rw [field?_write_connections, wired.trans unwired, if_pos rfl]
  · have shown := mt none.mpr some
    rw [Document.itemsAt_cons, field?_write_neighbours, if_neg shown]
    exact numbered_items coherent paired
  · rw [field?_write_neighbours, if_pos (none.mp alone)]

theorem numbered_locomotives (coherent : blueprint.Coherent) {schedule : Schedule Association}
    {i : Nat} {written : Document}
    (exported : exportSchedule blueprint.numbering schedule i = .ok written) :
    List.Forall₂ (fun association item => ∃ number, item = .ofNat number ∧
      blueprint.numbering.Names number association)
      schedule.locomotives (written.itemsAt ["locomotives"]) := by
  obtain ⟨numbers, paired, rfl⟩ := exportSchedule_eq_ok_iff.mp exported
  have items : (Schedule.write ⟨schedule.stops, numbers, schedule.extra⟩).itemsAt
      ["locomotives"] = numbers.map Document.ofNat := by
    simp [Schedule.write, Fields.overwrite_cons, Fields.overwrite_nil, Fields.lookup_insert,
      Document.items]
  rw [items]
  exact numbered_items coherent paired

theorem numbered_of_toDocument (coherent : blueprint.Coherent) (apart : blueprint.KeysApart)
    {document : Document} (written : blueprint.toDocument = .ok document) :
    blueprint.Numbered document := by
  obtain ⟨entities, schedules, exported, listed, rfl⟩ := toDocument_eq_ok_iff.mp written
  obtain ⟨length, each⟩ := zipIdx_mapM_eq_ok_iff.mp exported
  obtain ⟨scheduleLength, eachSchedule⟩ := zipIdx_mapM_eq_ok_iff.mp listed
  refine ⟨coherent.entities.nodup_leaves, coherent.entities.mem_leaves_iff, ?_, ?_, ?_⟩
  · rw [itemsAt_entities apart, ← length, length_placedEntities coherent]
  · rw [itemsAt_entities apart]
    intro i key entity written place stored here
    obtain ⟨world, position⟩ := exists_worldPosition stored
    have placed := (getElem?_placedEntities coherent).mpr ⟨key, place, stored, position⟩
    exact entityNumbered_of_export coherent (each i (world, entity) written placed here)
  · rw [itemsAt_schedules apart, forall₂_iff_getElem?]
    refine ⟨scheduleLength, fun i schedule written place here => ?_⟩
    exact numbered_locomotives coherent (eachSchedule i schedule written place here)

/-! ### Tiles -/

/-- Every tile has a position of 32 bits when it is told from the grid. -/
def TilesInRange (blueprint : Blueprint) : Prop :=
  ∀ tile ∈ blueprint.tiles.tiles, tile.position.SubFits blueprint.origin

theorem tiles_of_toDocument (apart : blueprint.KeysApart) (inRange : blueprint.TilesInRange)
    {document : Document} (written : blueprint.toDocument = .ok document) :
    (document.itemsAt ["blueprint", "tiles"]).map (·.field? "position") =
      blueprint.tiles.tiles.map fun tile => some (GridPosition.write
        ⟨tile.position.x - blueprint.origin.x, tile.position.y - blueprint.origin.y⟩) := by
  obtain ⟨entities, schedules, -, -, rfl⟩ := toDocument_eq_ok_iff.mp written
  rw [itemsAt_tiles apart, List.map_map]
  refine List.map_congr_left fun tile mem => ?_
  rw [Function.comp_apply, Tile.field?_write, if_pos rfl, (inRange tile mem).sub_eq]

/-- Writing succeeds if and only if every association that an entity or a schedule holds resolves;
then everything is numbered and tiles are told from the grid, and otherwise the error names the first
offence. -/
structure ReferencesExact (blueprint : Blueprint) : Prop where
  succeeds : (∃ document, blueprint.toDocument = .ok document) ↔
    (∀ key entity, blueprint.entities.entity? key = some entity →
      blueprint.ResolvesEntity entity) ∧
    ∀ schedule ∈ blueprint.schedules, blueprint.ResolvesSchedule schedule
  numbered : ∀ document, blueprint.toDocument = .ok document → blueprint.Numbered document
  tiles : ∀ document, blueprint.toDocument = .ok document →
    (document.itemsAt ["blueprint", "tiles"]).map (·.field? "position") =
      blueprint.tiles.tiles.map fun tile => some (GridPosition.write
        ⟨tile.position.x - blueprint.origin.x, tile.position.y - blueprint.origin.y⟩)
  fails : ∀ error, blueprint.toDocument = .error error ↔ blueprint.FirstOffence error

/-- Whatever was done to a blueprint, its references are written exactly. -/
theorem Reachable.references_exact {allowed : Blueprint → Operation → Prop} {blueprint : Blueprint}
    (reachable : Reachable allowed blueprint) (inRange : blueprint.TilesInRange) :
    blueprint.ReferencesExact where
  succeeds := toDocument_ok_iff reachable.coherent
  numbered _ written := numbered_of_toDocument reachable.coherent reachable.keysApart written
  tiles _ written := tiles_of_toDocument reachable.keysApart inRange written
  fails _ := toDocument_eq_error_iff_firstOffence reachable.coherent

/-- A tile on a grid that starts elsewhere, and a schedule with a locomotive in another list. -/
def pavedGrid : Blueprint :=
  [Operation.addTile ⟨"stone-path", ⟨3, 2⟩, []⟩ false, .setGridPosition (some ⟨2, -1⟩),
    .addSchedule ⟨[], [⟨⟨0⟩, ⟨0, 0⟩⟩, ⟨⟨1⟩, ⟨0, 0⟩⟩], []⟩].foldl Operation.apply (empty .empty ⟨0⟩)

/-- Two poles on the grid, of which the one in a group leads to the other. -/
def linkedPoles : Blueprint :=
  [Operation.addEntity (.entity (.plain "pole" ⟨1, 1⟩)) false,
    .addEntity (.group none ⟨4, 0⟩
      [.entity { Entity.plain "pole" ⟨1, 1⟩ with neighbours := [⟨⟨0⟩, ⟨0, 0⟩⟩] }]) false].foldl
    Operation.apply pavedGrid

theorem TilesInRange.addEntity (inRange : blueprint.TilesInRange) (item : Item) (merge : Bool) :
    (blueprint.addEntity item merge).1.TilesInRange := by
  obtain ⟨entities, extent, touched⟩ :=
    blueprint.insertEntity_touches blueprint.entities.length item merge
  rw [Blueprint.addEntity, touched]
  exact inRange

theorem tilesInRange_pavedGrid : pavedGrid.TilesInRange := by
  have positions : pavedGrid.tiles.tiles.map Tile.position = [⟨3, 2⟩] := by decide +kernel
  intro tile mem
  have here := List.mem_map_of_mem (f := Tile.position) mem
  rw [positions, List.mem_singleton] at here
  rw [here]
  exact ⟨⟨by decide, by decide⟩, ⟨by decide, by decide⟩⟩

theorem references_exact_linked :
    Reachable (fun _ _ => True) linkedPoles ∧ linkedPoles.TilesInRange ∧
      linkedPoles.ReferencesExact := by
  have reachable : Reachable (fun _ _ => True) linkedPoles :=
    ⟨_, .empty .empty ⟨0⟩, .calls _ (.calls _ .start)⟩
  have inRange : linkedPoles.TilesInRange := (tilesInRange_pavedGrid.addEntity _ _).addEntity _ _
  exact ⟨reachable, inRange, Reachable.references_exact reachable inRange⟩

/-- A chest with a key of its own where others have neighbours. -/
def claimingChest : Entity :=
  { Entity.plain "wooden-chest" ⟨0.5, 0.5⟩ with extra := [("neighbours", .array [.ofNat 999])] }

/-- What stands under the key where an entity has no neighbours is written, though no entity has the
number. -/
theorem own_neighbours_written : ∃ blueprint document entity, Reachable (fun _ _ => True) blueprint ∧
    blueprint.TilesInRange ∧ blueprint.toDocument = .ok document ∧
    document.itemsAt ["blueprint", "entities"] = [entity] ∧
    entity.itemsAt ["neighbours"] = [.ofNat 999] ∧
    ∀ association, ¬ blueprint.numbering.Names 999 association := by
  have reachable : Reachable (fun _ _ => True) ((empty .empty ⟨0⟩).append claimingChest) :=
    ⟨_, .empty .empty ⟨0⟩, .append .start (.empty .empty ⟨0⟩) trivial (by decide)
      (by decide +kernel)⟩
  obtain ⟨document, written⟩ := exists_ok_of_isOk
    (show ((empty .empty ⟨0⟩).append claimingChest).toDocument.isOk = true by decide +kernel)
  have numbered := numbered_of_toDocument reachable.coherent reachable.keysApart written
  obtain ⟨entity, only⟩ := List.length_eq_one_iff.mp numbered.length
  have alone := (numbered.entities 0 ⟨0, 0⟩ claimingChest entity rfl rfl (by rw [only]; rfl)).alone rfl
  have own : claimingChest.own.lookup "neighbours" = some (.array [.ofNat 999]) := rfl
  refine ⟨_, document, entity, reachable, List.forall_mem_nil _, written, only, ?_, ?_⟩
  · rw [Document.itemsAt_cons, alone, own]
    rfl
  · intro association names
    exact nomatch (names.target : none = some association.target)

end FactoryBlueprint.Blueprint
