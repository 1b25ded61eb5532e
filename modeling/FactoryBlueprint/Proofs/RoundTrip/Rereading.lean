import FactoryBlueprint.Proofs.Geometry.Shift
import FactoryBlueprint.Proofs.RoundTrip.Entities

/-! # Reading records that were written

A record is read back from the document that it is written as, provided that none of its other keys
is one of its own (`KeysApart`).
-/

namespace FactoryBlueprint

open FactoryBlueprint.Numbering

namespace Fields

/-- None of the names is among the keys. -/
def Apart (fields : Fields Document) (names : List String) : Prop :=
  ∀ name ∈ names, fields.lookup name = none

/-- The other keys are what they were, where nothing else is written under other keys. -/
theorem rest_eq {fields extra : Fields Document} {names : List String} (sorted : fields.Sorted)
    (own : extra.Sorted) (apart : extra.Apart names)
    (same : ∀ key ∉ names, fields.lookup key = extra.lookup key) :
    Fields.ofList (fields.without names) = extra := by
  refine (sorted_ofList _).ext own fun key => ?_
  rw [lookup_rest sorted]
  split
  · rename_i named
    exact (apart key named).symm
  · rename_i other
    exact same key other

end Fields

/-- An array that is left out when it is empty is read back. -/
theorem HoldsDefault.of_lookup {α : Type} {fields : List (String × Document)} {key : String}
    {read : Reader α} {as : List α} (write : α → Document)
    (found : fields.lookup key = (unlessEmpty (as.map write)).map Document.array)
    (reads : ∀ a ∈ as, read (write a) = .ok a) :
    HoldsDefault fields key [] (Reader.list read) as := by
  cases as with
  | nil => exact .inl ⟨found, rfl⟩
  | cons a rest => exact .inr ⟨_, found, Reader.list_map_write reads⟩

theorem Reader.map_counts {bits : Nat} {counts : Fields Nat}
    (small : ∀ field ∈ counts, field.2 < 2 ^ bits) : Reader.map (Reader.natural bits)
      (.object (counts.map fun (item, count) => (item, .ofNat count))) = .ok counts := by
  refine Reader.map_eq_ok_iff.mpr ⟨_, rfl, ?_⟩
  rw [List.forall₂_map_left_iff, List.forall₂_same]
  exact fun field mem => ⟨rfl, Reader.natural_eq_ok_iff.mpr ⟨rfl, small field mem⟩⟩

theorem Reader.map_documents (tags : Fields Document) :
    Reader.map Reader.document (.object tags) = .ok tags := by
  refine Reader.map_eq_ok_iff.mpr ⟨_, rfl, ?_⟩
  rw [List.forall₂_same]
  exact fun _ _ => ⟨rfl, rfl⟩

/-! ### Schedules -/

def WaitCondition.KeysApart (wait : WaitCondition) : Prop := wait.extra.Apart names

theorem WaitCondition.read_write {wait : WaitCondition} (fits : wait.Fits)
    (apart : wait.KeysApart) : WaitCondition.read wait.write = .ok wait := by
  have written := field?_write fits.extra
  have named : ∀ key ∈ names, wait.write.field? key =
      if key = "condition" then wait.condition.map Condition.write
      else if key = "ticks" then wait.ticks.map Document.ofNat
      else if key = "compare_type" then wait.compareType.map Document.text
      else if key = "type" then some (.text wait.kind) else none := by
    intro key known
    rw [written, apart key known, Option.none_or]
  have sorted := Fields.sorted_overwrite (Fields.sorted_ofList (("type", Document.text wait.kind) ::
    (Document.optionalField "compare_type" Document.text wait.compareType ++
      Document.optionalField "ticks" Document.ofNat wait.ticks ++
      Document.optionalField "condition" Condition.write wait.condition))) wait.extra
  refine read_eq_ok_iff.mpr ⟨_, rfl, Reader.repeated?_of_sorted sorted _ _ _,
    ⟨_, named "type" (by decide), rfl⟩, ?_, ?_, ?_, ?_⟩
  · exact .of_lookup Document.text (named "compare_type" (by decide)) (fun _ _ => rfl)
      (.of_mismatch rfl)
  · refine .of_lookup Document.ofNat (named "ticks" (by decide)) (fun ticks given => ?_)
      (.of_mismatch rfl)
    exact Reader.natural_eq_ok_iff.mpr ⟨rfl, fits.ticks ticks given⟩
  · refine .of_lookup Condition.write (named "condition" (by decide)) (fun condition given => ?_)
      (.of_mismatch rfl)
    exact Condition.read_write (fits.constant condition given)
  · refine Fields.rest_eq sorted fits.extra apart fun key other => ?_
    refine (written key).trans ?_
    simp only [names, List.mem_cons, List.not_mem_nil, or_false, not_or] at other
    simp [other]

structure Stop.KeysApart (stop : Stop) : Prop where
  waits : ∀ wait ∈ stop.waits, wait.KeysApart
  extra : stop.extra.Apart names

theorem Stop.read_write {stop : Stop} (fits : stop.Fits) (apart : stop.KeysApart) :
    Stop.read stop.write = .ok stop := by
  have written := field?_write fits.extra
  have named : ∀ key ∈ names, stop.write.field? key =
      if key = "wait_conditions" then
        if stop.waits = [] then none else some (.array (stop.waits.map (·.write)))
      else if key = "station" then some (.text stop.station) else none := by
    intro key known
    rw [written, apart.extra key known, Option.none_or]
  have sorted := Fields.sorted_overwrite (Fields.sorted_ofList
    (("station", Document.text stop.station) :: Document.optionalField "wait_conditions"
      (fun waits : List WaitCondition => .array (waits.map (·.write)))
      (if stop.waits.isEmpty then none else some stop.waits))) stop.extra
  refine read_eq_ok_iff.mpr ⟨_, rfl, Reader.repeated?_of_sorted sorted _ _ _,
    ⟨_, named "station" (by decide), rfl⟩, ?_, ?_⟩
  · refine .of_lookup WaitCondition.write ((named "wait_conditions" (by decide)).trans ?_)
      fun wait mem => WaitCondition.read_write (fits.waits wait mem) (apart.waits wait mem)
    cases stop.waits <;> rfl
  · refine Fields.rest_eq sorted fits.extra apart.extra fun key other => ?_
    refine (written key).trans ?_
    simp only [names, List.mem_cons, List.not_mem_nil, or_false, not_or] at other
    simp [other]

structure Schedule.KeysApart {ref : Type} (schedule : Schedule ref) : Prop where
  stops : ∀ stop ∈ schedule.stops, stop.KeysApart
  extra : schedule.extra.Apart names

theorem Schedule.read_write {schedule : Schedule Nat} (fits : schedule.Fits)
    (apart : schedule.KeysApart) (small : ∀ number ∈ schedule.locomotives, number < 2 ^ 64) :
    Schedule.read schedule.write = .ok schedule := by
  have written := schedule.field?_write
  have sorted := Fields.sorted_overwrite fits.extra [("schedule", Document.array
    (schedule.stops.map (·.write))), ("locomotives", .array (schedule.locomotives.map .ofNat))]
  refine read_eq_ok_iff.mpr ⟨_, rfl, Reader.repeated?_of_sorted sorted _ _ _,
    .inr ⟨_, written "schedule", ?_⟩, .inr ⟨_, written "locomotives", ?_⟩, ?_⟩
  · exact Reader.list_map_write fun stop mem =>
      Stop.read_write (fits.stops stop mem) (apart.stops stop mem)
  · exact Reader.list_map_write fun number mem =>
      Reader.natural_eq_ok_iff.mpr ⟨rfl, small number mem⟩
  · refine Fields.rest_eq sorted fits.extra apart.extra fun key other => ?_
    refine (written key).trans ?_
    simp only [names, List.mem_cons, List.not_mem_nil, or_false, not_or] at other
    simp [other]

/-! ### Tiles -/

def Tile.KeysApart (tile : Tile) : Prop := tile.extra.Apart names

theorem Tile.read_write {tile : Tile} (sorted : tile.extra.Sorted) (apart : tile.KeysApart)
    (origin : GridPosition) :
    Tile.read (tile.write origin) = .ok (tile.relativeTo origin) := by
  have written := tile.field?_write origin
  have inOrder := Fields.sorted_overwrite sorted
    [("name", .text tile.name), ("position", (tile.position - origin).write)]
  refine read_eq_ok_iff.mpr ⟨_, rfl, Reader.repeated?_of_sorted inOrder _ _ _,
    ⟨_, written "name", rfl⟩,
    ⟨_, written "position", GridPosition.read_write (GridPosition.fits_sub _ _)⟩, ?_⟩
  refine Fields.rest_eq inOrder sorted apart fun key other => ?_
  refine (written key).trans ?_
  simp only [names, List.mem_cons, List.not_mem_nil, or_false, not_or] at other
  simp [other, relativeTo]

/-- A tile that was read from the origin is written as it was written before. -/
theorem Tile.write_relativeTo (tile : Tile) (origin : GridPosition) :
    (tile.relativeTo origin).write .zero = tile.write origin := by
  rw [write, write, Tile.relativeTo, (GridPosition.fits_sub _ _).sub_zero]

/-! ### Entities -/

def Entity.KeysApart (entity : Entity) : Prop := entity.extra.Apart EntityRecord.names

/-- The record that an entity is written as, at the given position and with the given numbers. -/
def Entity.record (entity : Entity) (number : Nat) (position : Point)
    (connections : ConnectionsRecord) (neighbours : List Nat) : EntityRecord where
  name := entity.name
  number := some number
  position := position
  direction := if entity.direction = .north then none else some entity.direction
  connections := connections.unlessEmpty
  neighbours := unlessEmpty neighbours
  items := unlessEmpty entity.items
  tags := unlessEmpty entity.tags
  rest := entity.own

namespace Entity

variable {entity : Entity} {number : Nat} {position : Point} {connections : ConnectionsRecord}
  {neighbours : List Nat}

/-- An entity is read back as its record, though at zero a coordinate may lose its sign. -/
theorem read_write (fits : entity.Fits) (apart : entity.KeysApart)
    (fields : entity.fields.Apart EntityRecord.names) (small : number < 2 ^ 64)
    (wires : connections.Small) (poles : ∀ number ∈ neighbours, number < 2 ^ 64) {i j : Int}
    (x : position.x.quanta? = some i) (y : position.y.quanta? = some j) :
    ∃ place : Point, place.x.quanta? = some i ∧ place.y.quanta? = some j ∧
      EntityRecord.read (entity.write number position connections neighbours) =
        .ok (entity.record number place connections neighbours) := by
  obtain ⟨place, readPlace, sameX, sameY⟩ := Point.read_write x y
  have written := entity.lookup_writeFields number position connections neighbours
  have own := fun key known => Lacks.lookup_own ⟨fields key known, apart key known⟩
  have sortedOwn := Fields.sorted_overwrite fits.extra entity.fields
  have sorted : (entity.writeFields number position connections neighbours).Sorted :=
    Fields.sorted_overwrite sortedOwn _
  refine ⟨place, sameX, sameY, EntityRecord.read_eq_ok_iff.mpr ⟨_, rfl,
    Reader.repeated?_of_sorted sorted _ _ _, ⟨_, written "name", rfl⟩, ?_,
    ⟨_, written "position", readPlace⟩, ?_, ?_, ?_, ?_, ?_, ?_⟩⟩
  · exact .of_lookup Document.ofNat (written "entity_number")
      (fun n same => Option.some.inj same ▸ Reader.natural_eq_ok_iff.mpr ⟨rfl, small⟩) (.of_mismatch rfl)
  · refine .of_lookup Direction.write ((written "direction").trans ?_)
      (fun _ _ => Direction.read_eq_ok_iff.mpr rfl) (.of_mismatch rfl)
    by_cases north : entity.direction = .north <;>
      simp [record, north, own "direction" (by decide)]
  · refine .of_lookup ConnectionsRecord.write ((written "connections").trans ?_)
      (fun told mem => ?_) (.of_mismatch rfl)
    · by_cases none : connections.isEmpty <;>
        simp [record, ConnectionsRecord.unlessEmpty, none, own "connections" (by decide)]
    · simp only [record, ConnectionsRecord.unlessEmpty, Option.mem_def] at mem
      split at mem
      · contradiction
      · obtain rfl := Option.some.inj mem
        exact ConnectionsRecord.read_write wires
  · refine .of_lookup (fun numbers => .array (numbers.map Document.ofNat))
      ((written "neighbours").trans ?_) (fun told mem => ?_) (.of_mismatch rfl)
    · cases neighbours <;> simp [record, unlessEmpty, own "neighbours" (by decide)]
    · refine Reader.list_map_write fun number inTold => Reader.natural_eq_ok_iff.mpr ⟨rfl, ?_⟩
      exact poles number (eq_of_mem_unlessEmpty mem ▸ inTold)
  · refine .of_lookup (fun counts => .object (counts.map fun (item, count) => (item, .ofNat count)))
      ((written "items").trans ?_) (fun counts mem => ?_) (.of_mismatch rfl)
    · cases none : entity.items <;> simp [record, unlessEmpty, none, own "items" (by decide)]
    · refine Reader.map_counts fun field inCounts => fits.items field ?_
      exact eq_of_mem_unlessEmpty mem ▸ inCounts
  · refine .of_lookup Document.object ((written "tags").trans ?_)
      (fun tags _ => Reader.map_documents tags) (.of_mismatch rfl)
    cases none : entity.tags <;> simp [record, unlessEmpty, none, own "tags" (by decide)]
  · refine Fields.rest_eq sorted sortedOwn own fun key other => ?_
    refine (written key).trans ?_
    simp only [EntityRecord.names, List.mem_cons, List.not_mem_nil, or_false, not_or] at other
    simp [other, record]

theorem direction_record (entity : Entity) (number : Nat) (place : Point)
    (connections : ConnectionsRecord) (neighbours : List Nat) (table : PrototypeTable) :
    ((entity.record number place connections neighbours).entity table).direction =
      entity.direction := by
  by_cases north : entity.direction = .north
  · simp [EntityRecord.entity, record, north]
  · simp [EntityRecord.entity, record, north]

/-- An entity that was read keeps its box. -/
theorem collisionBox_record (entity : Entity) (number : Nat) (place : Point)
    (connections : ConnectionsRecord) (neighbours : List Nat) (table : PrototypeTable) :
    ((entity.record number place connections neighbours).entity table).collisionBox table =
      entity.collisionBox table := by
  rw [collisionBox, direction_record]
  rfl

/-- An entity that was read is written as it was written before. -/
theorem rewrite_record (fits : entity.Fits) (table : PrototypeTable)
    (once : connections.distinct = connections) {place : Point} {i j : Int}
    (x : position.x.quanta? = some i) (y : position.y.quanta? = some j)
    (alsoX : place.x.quanta? = some i) (alsoY : place.y.quanta? = some j) :
    (entity.record number place connections neighbours).rewrite table number =
      entity.write number position connections neighbours := by
  have sorted : (entity.record number place connections neighbours).rest.Sorted :=
    Fields.sorted_overwrite fits.extra entity.fields
  obtain ⟨backX, backY⟩ := Point.quanta?_from_zero alsoX alsoY
  have wires : ((entity.record number place connections neighbours).connections.getD
      .empty).distinct = connections := by
    rw [record, ConnectionsRecord.getD_unlessEmpty, once]
  have poles : (entity.record number place connections neighbours).neighbourNumbers = neighbours :=
    unlessEmpty_getD neighbours
  have items : ((entity.record number place connections neighbours).entity table).items =
      entity.items := unlessEmpty_getD entity.items
  have tags : ((entity.record number place connections neighbours).entity table).tags =
      entity.tags := unlessEmpty_getD entity.tags
  have name : ((entity.record number place connections neighbours).entity table).name =
      entity.name := rfl
  rw [EntityRecord.rewrite, wires, poles, write, write, writeFields, writeFields,
    EntityRecord.own_entity sorted, direction_record, items, tags, name,
    show (entity.record number place connections neighbours).position = place from rfl,
    Point.write_congr backX backY x y]
  rfl

end Entity
end FactoryBlueprint
