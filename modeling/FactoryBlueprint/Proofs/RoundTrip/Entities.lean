import FactoryBlueprint.Proofs.Blueprint.Rewriting
import FactoryBlueprint.Proofs.RoundTrip.Schedules

/-! # What entities and tiles keep

An entity that was read and written again has its number and keeps everything else, though a
position may be spelled otherwise and a far end that was listed again is dropped.
-/

namespace FactoryBlueprint

/-- A field that is left out where its value is the default is kept but for the default. -/
theorem KeptUnless.of_default {α : Type} {key : String} {fields : List (String × Document)}
    {after : Document} {read : Reader α} {value : Option α} (write : α → Document) (default : α)
    (held : HoldsOptional fields key read value)
    (only : ∀ document a, read document = .ok a → document = write a)
    (apart : ∀ a, write a = write default → a = default)
    (absent : value.getD default = default → after.field? key = none)
    (shown : value.getD default ≠ default →
      after.field? key = some (write (value.getD default))) :
    KeptUnless [write default] key (.object fields) after := by
  refine .of_holds held only fun document => ?_
  cases value with
  | none => simp [absent rfl]
  | some a =>
    simp only [Option.getD_some] at absent shown
    by_cases same : a = default
    · rw [absent same, same]
      simp [eq_comm (a := document)]
    · rw [shown same]
      simp only [Option.some.injEq, Option.mem_def, exists_eq_left', List.mem_singleton]
      constructor
      · rintro rfl
        exact ⟨rfl, fun equal => same (apart a equal)⟩
      · exact fun both => both.1

theorem Reader.eq_of_naturals {bits : Nat} (document : Document) (numbers : List Nat)
    (reads : Reader.list (Reader.natural bits) document = .ok numbers) :
    document = .array (numbers.map Document.ofNat) := by
  obtain ⟨items, rfl, each⟩ := Reader.list_eq_ok_iff.mp reads
  refine congrArg Document.array (List.forall₂_eq_eq_eq ▸ List.forall₂_map_right_iff.mpr ?_)
  exact each.imp Reader.eq_of_natural

theorem Reader.eq_of_counts {bits : Nat} (document : Document) (counts : Fields Nat)
    (reads : Reader.map (Reader.natural bits) document = .ok counts) :
    document = .object (counts.map fun (item, count) => (item, .ofNat count)) := by
  obtain ⟨fields, rfl, each⟩ := Reader.map_eq_ok_iff.mp reads
  refine congrArg Document.object (List.forall₂_eq_eq_eq ▸ List.forall₂_map_right_iff.mpr ?_)
  exact each.imp fun field count both =>
    Prod.ext both.1.symm (Reader.eq_of_natural field.2 count.2 both.2)

theorem Reader.eq_of_documents (document : Document) (tags : Fields Document)
    (reads : Reader.map Reader.document document = .ok tags) : document = .object tags := by
  obtain ⟨fields, rfl, each⟩ := Reader.map_eq_ok_iff.mp reads
  refine congrArg Document.object (List.forall₂_eq_eq_eq ▸ each.imp ?_)
  exact fun field tag both => Prod.ext both.1.symm (Except.ok.inj both.2)

/-! ### Coordinates -/

/-- A number that is read from a document is finite. -/
theorem exists_quanta?_of_number {document : Document} (formed : document.WellFormed)
    {x : Binary64} (reads : Reader.number document = .ok x) : ∃ quanta, x.quanta? = some quanta := by
  cases formed with
  | number finite =>
    obtain rfl := Except.ok.inj reads
    exact Binary64.isFinite_iff.mp finite
  | integer low high =>
    obtain rfl := Except.ok.inj reads
    exact Binary64.exists_quanta?_ofInt (by omega)
  | _ => exact nomatch reads

/-- The fields of a record are as well formed as the document. -/
theorem RecordFields.wellFormed {declared : List String} {document : Document}
    {fields : List (String × Document)} (shape : RecordFields declared document fields)
    (formed : document.WellFormed) : ∀ field ∈ fields, field.2.WellFormed := by
  intro field mem
  cases shape with
  | object alone =>
    cases formed with
    | object sorted each => exact each field mem
  | array bound =>
    cases formed with
    | array each => exact each field.2 (List.of_mem_zip mem).2

theorem Point.exists_quanta?_of_read {document : Document} (formed : document.WellFormed)
    {point : Point} (reads : Point.read document = .ok point) :
    (∃ quanta, point.x.quanta? = some quanta) ∧ ∃ quanta, point.y.quanta? = some quanta := by
  obtain ⟨fields, shape, ⟨x, inX, readX⟩, ⟨y, inY, readY⟩⟩ := Point.read_eq_ok_iff.mp reads
  have each := shape.wellFormed formed
  exact ⟨exists_quanta?_of_number (each _ (Fields.mem_of_lookup inX)) readX,
    exists_quanta?_of_number (each _ (Fields.mem_of_lookup inY)) readY⟩

theorem GridPosition.toPoint_zero : GridPosition.zero.toPoint = ⟨0, 0⟩ := rfl

/-- A place within nothing, told from the origin, is the place. -/
theorem Point.quanta?_from_zero {point : Point} {i j : Int} (x : point.x.quanta? = some i)
    (y : point.y.quanta? = some j) :
    (.zero + point - GridPosition.zero.toPoint : Point).x.quanta? = some i ∧
      (.zero + point - GridPosition.zero.toPoint : Point).y.quanta? = some j := by
  rw [GridPosition.toPoint_zero]
  exact ⟨Binary64.quanta?_sub_zero (Binary64.quanta?_zero_add x),
    Binary64.quanta?_sub_zero (Binary64.quanta?_zero_add y)⟩

/-! ### Tiles -/

namespace Tile

theorem kept (before : Document) (tile : Tile) (formed : before.WellFormed)
    (reads : Tile.read before = .ok tile) : TileKept before (tile.write .zero) := by
  have fits := fits_of_read reads
  obtain ⟨fields, rfl, -, held⟩ := read_eq_ok_iff.mp reads
  have rest := Fields.lookup_rest formed.sorted names
  rw [held.extra] at rest
  refine ⟨?_, ⟨tile.position, held.position, tile.position.write, ?_, ?_⟩, fun key other => ?_⟩
  · rw [field?_write, field?_of_holds_text held.name]
    rfl
  · have found := tile.field?_write .zero "position"
    rwa [fits.position.sub_zero] at found
  · exact GridPosition.read_write fits.position
  · rw [field?_write, rest, if_neg other, Document.field?_object]
    simp only [names, List.mem_cons, List.not_mem_nil, or_false, not_or] at other
    simp [other]

end Tile

/-! ### Entities -/

namespace ConnectionsRecord

/-- The record, none where there are no wires. -/
def unlessEmpty (record : ConnectionsRecord) : Option ConnectionsRecord :=
  if record.isEmpty then none else some record

theorem getD_unlessEmpty (record : ConnectionsRecord) : record.unlessEmpty.getD .empty = record := by
  rw [unlessEmpty]
  split
  · rename_i none
    exact (eq_empty_of_isEmpty none).symm
  · rfl

end ConnectionsRecord

namespace EntityRecord

variable {record : EntityRecord}

/-- The fields of an entity's kind and its other keys are together the keys that were read. -/
theorem own_entity (sorted : record.rest.Sorted) (table : PrototypeTable) :
    (record.entity table).own = record.rest := by
  have known : (record.entity table).fields.Sorted := List.Pairwise.filter _ sorted
  have others : (record.entity table).extra.Sorted := List.Pairwise.filter _ sorted
  refine (Fields.sorted_overwrite others _).ext sorted fun key => ?_
  rw [Fields.lookup_overwrite _ known]
  change ((record.rest.filter fun field => (record.knownFields table).contains field.1).lookup key).or
    ((record.rest.filter fun field => !(record.knownFields table).contains field.1).lookup key) = _
  rw [Fields.lookup_filter record.rest fun key => (record.knownFields table).contains key,
    Fields.lookup_filter record.rest fun key => !(record.knownFields table).contains key]
  cases (record.knownFields table).contains key <;> simp

/-- What stands in an entity that was read and is written again. -/
theorem field?_rewrite (sorted : record.rest.Sorted) (table : PrototypeTable) (number : Nat)
    (key : String) : (record.rewrite table number).field? key =
      if key = "entity_number" then some (.ofNat number)
      else if key = "neighbours" then
        if record.neighbourNumbers = [] then record.rest.lookup key
        else some (.array (record.neighbourNumbers.map Document.ofNat))
      else if key = "connections" then
        if (record.connections.getD .empty).distinct.isEmpty then record.rest.lookup key
        else some (record.connections.getD .empty).distinct.write
      else if key = "tags" then
        if record.tags.getD [] = [] then record.rest.lookup key
        else some (.object (record.tags.getD []))
      else if key = "items" then
        if record.items.getD [] = [] then record.rest.lookup key
        else some (.object ((record.items.getD []).map fun (item, count) => (item, .ofNat count)))
      else if key = "direction" then
        if record.direction.getD .north = .north then record.rest.lookup key
        else some (record.direction.getD .north).write
      else if key = "position" then
        some (.zero + record.position - GridPosition.zero.toPoint).write
      else if key = "name" then some (.text record.name)
      else record.rest.lookup key := by
  have written := (record.entity table).lookup_writeFields number
    (.zero + record.position - GridPosition.zero.toPoint) (record.connections.getD .empty).distinct
    record.neighbourNumbers key
  rw [own_entity sorted table] at written
  exact written

theorem kept (before : Document) (record : EntityRecord) (table : PrototypeTable) (i : Nat)
    (formed : before.WellFormed) (reads : EntityRecord.read before = .ok record) :
    EntityKept i before (record.rewrite table (i + 1)) := by
  have small := small_of_read reads
  obtain ⟨fields, rfl, -, held⟩ := read_eq_ok_iff.mp reads
  have rest := Fields.lookup_rest formed.sorted names
  rw [held.rest] at rest
  have sorted : record.rest.Sorted := held.rest ▸ Fields.sorted_ofList _
  have own : ∀ key ∈ names, record.rest.lookup key = none := by
    intro key known
    rw [rest, if_pos known]
  have written := field?_rewrite sorted table (i + 1)
  refine ⟨?_, ?_, ?_, ?_, ?_, ?_, ?_, ?_, fun key other => ?_⟩
  · rw [written]
    rfl
  · rw [written, field?_of_holds_text held.name]
    rfl
  · obtain ⟨place, found, readPlace⟩ := held.position
    obtain ⟨⟨m, x⟩, n, y⟩ := Point.exists_quanta?_of_read (formed.lookup found) readPlace
    obtain ⟨sumX, sumY⟩ := Point.quanta?_from_zero x y
    obtain ⟨q, back, sameX, sameY⟩ := Point.read_write sumX sumY
    refine ⟨record.position, q, ⟨place, found, readPlace⟩, ⟨_, written "position", back⟩, ?_, ?_⟩
    · exact Binary64.sameValue_of_quanta? sameX x
    · exact Binary64.sameValue_of_quanta? sameY y
  · refine .of_default Direction.write .north held.direction
      (fun _ _ => Direction.read_eq_ok_iff.mp) (fun direction same => ?_) (fun north => ?_)
      fun turned => ?_
    · have back := Direction.read_eq_ok_iff.mpr (@rfl _ direction.write)
      exact Except.ok.inj (back.symm.trans (Direction.read_eq_ok_iff.mpr same))
    · rw [written]
      simp [north, own "direction" (by decide)]
    · rw [written]
      simp [turned]
  · refine ⟨record.connections, (record.connections.getD .empty).distinct.unlessEmpty,
      held.connections, .of_lookup ConnectionsRecord.write ?_ (fun told mem => ?_) (.of_mismatch rfl), ?_⟩
    · rw [ConnectionsRecord.unlessEmpty]
      refine (written "connections").trans ?_
      by_cases none : (record.connections.getD .empty).distinct.isEmpty
      · simp [none, own "connections" (by decide)]
      · simp [none]
    · rw [ConnectionsRecord.unlessEmpty] at mem
      split at mem
      · contradiction
      · obtain rfl := Option.some.inj mem
        exact ConnectionsRecord.read_write small.distinct
    · rw [ConnectionsRecord.getD_unlessEmpty]
      exact ⟨ConnectionsRecord.circuitEnds_ofPoints _ _, ConnectionsRecord.copperEnds_ofPoints _ _⟩
  · refine .of_default (fun numbers : List Nat => .array (numbers.map Document.ofNat)) []
      held.neighbours Reader.eq_of_naturals (fun numbers same => ?_) (fun none => ?_) fun some => ?_
    · exact List.map_eq_nil_iff.mp (Document.array.inj same)
    · rw [written]
      simp [neighbourNumbers, none, own "neighbours" (by decide)]
    · rw [written]
      simp [neighbourNumbers, some]
  · refine .of_default
      (fun counts : Fields Nat => .object (counts.map fun (item, count) => (item, .ofNat count))) []
      held.items Reader.eq_of_counts (fun counts same => ?_) (fun none => ?_) fun some => ?_
    · exact List.map_eq_nil_iff.mp (Document.object.inj same)
    · rw [written]
      simp [none, own "items" (by decide)]
    · rw [written]
      simp [some]
  · refine .of_default Document.object [] held.tags Reader.eq_of_documents (fun tags same => ?_)
      (fun none => ?_) fun some => ?_
    · exact Document.object.inj same
    · rw [written]
      simp [none, own "tags" (by decide)]
    · rw [written]
      simp [some]
  · rw [written, rest, if_neg other, Document.field?_object]
    simp only [names, List.mem_cons, List.not_mem_nil, or_false, not_or] at other
    simp [other]

end EntityRecord
end FactoryBlueprint
