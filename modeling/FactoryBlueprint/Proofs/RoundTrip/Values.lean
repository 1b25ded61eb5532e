import FactoryBlueprint.Proofs.Blueprint.Reading
import FactoryBlueprint.Proofs.Document.Written
import FactoryBlueprint.Proofs.Number.Binary64

/-! # Reading values that were written

Every value within its range is read back from the document that it is written as.
-/

namespace FactoryBlueprint

/-! ### Written fields -/

/-- A reader that takes no `null`. -/
def Reader.Solid {α : Type} (read : Reader α) : Prop := ∀ a, read .null ≠ .ok a

theorem Reader.Solid.of_mismatch {α : Type} {read : Reader α} {mismatch : Mismatch}
    (rejects : read .null = .error mismatch) : read.Solid := by
  intro a taken
  rw [rejects] at taken
  contradiction

theorem Reader.solid_number : Reader.Solid Reader.number := by
  intro a taken
  simp [Reader.number] at taken

theorem RecordFields.ofFields (declared : List String) (bindings : List (String × Document)) :
    RecordFields declared (.ofFields bindings) (Fields.overwrite [] bindings) :=
  .object (Reader.repeated?_of_sorted (Fields.sorted_ofList bindings) _ _ _)

/-- A field that is written for a value reads as the value. -/
theorem HoldsOptional.of_lookup {α : Type} {fields : List (String × Document)} {key : String}
    {read : Reader α} (write : α → Document) {value : Option α}
    (found : fields.lookup key = value.map write) (reads : ∀ a ∈ value, read (write a) = .ok a)
    (solid : read.Solid) : HoldsOptional fields key read value := by
  cases value with
  | none => exact holdsOptional_none_iff.mpr (present?_eq_none_iff.mpr (.inl found))
  | some a =>
    have back := reads a rfl
    refine holdsOptional_some_iff.mpr ⟨write a, present?_eq_some_iff.mpr ⟨found, ?_⟩, back⟩
    intro null
    rw [null] at back
    exact solid a back

theorem Reader.list_map_write {α : Type} {read : Reader α} {write : α → Document} {as : List α}
    (reads : ∀ a ∈ as, read (write a) = .ok a) :
    Reader.list read (.array (as.map write)) = .ok as := by
  refine Reader.list_eq_ok_iff.mpr ⟨_, rfl, ?_⟩
  rw [List.forall₂_map_left_iff, List.forall₂_same]
  exact reads

/-! ### Positions, versions and directions -/

theorem GridPosition.read_write {position : GridPosition} (fits : position.Fits) :
    GridPosition.read position.write = .ok position := by
  refine read_eq_ok_iff.mpr ⟨_, .ofFields _ _, ⟨.integer position.x, ?_, ?_⟩,
    ⟨.integer position.y, ?_, ?_⟩⟩
  · simp [Fields.overwrite_cons, Fields.overwrite_nil, Fields.lookup_insert]
  · exact Reader.int32_eq_ok_iff.mpr ⟨rfl, fits.x⟩
  · simp [Fields.overwrite_cons, Fields.overwrite_nil, Fields.lookup_insert]
  · exact Reader.int32_eq_ok_iff.mpr ⟨rfl, fits.y⟩

theorem ofNumber_of_quanta? {x : Binary64} {quanta : Int} (counts : x.quanta? = some quanta) :
    Document.ofNumber x = .number x := by
  rw [Document.ofNumber, if_pos (Binary64.isFinite_iff.mpr ⟨quanta, counts⟩)]

/-- A coordinate is read back as the same number, though zero may lose its sign. -/
theorem number_writeCoordinate {x : Binary64} {quanta : Int} (counts : x.quanta? = some quanta) :
    ∃ y, Reader.number (writeCoordinate x) = .ok y ∧ y.quanta? = some quanta := by
  rw [writeCoordinate]
  split
  · rename_i n whole
    have same := Binary64.whole?_eq_some whole
    split
    · rename_i small
      exact ⟨.ofInt n, rfl, (Binary64.quanta?_ofInt small).trans (same.symm.trans counts)⟩
    · exact ⟨x, by rw [ofNumber_of_quanta? counts]; rfl, counts⟩
  · exact ⟨x, by rw [ofNumber_of_quanta? counts]; rfl, counts⟩

theorem Point.read_write {point : Point} {i j : Int} (x : point.x.quanta? = some i)
    (y : point.y.quanta? = some j) : ∃ q, Point.read point.write = .ok q ∧
      q.x.quanta? = some i ∧ q.y.quanta? = some j := by
  obtain ⟨qx, readX, sameX⟩ := number_writeCoordinate x
  obtain ⟨qy, readY, sameY⟩ := number_writeCoordinate y
  refine ⟨⟨qx, qy⟩, read_eq_ok_iff.mpr ⟨_, .ofFields _ _, ⟨_, ?_, readX⟩, ⟨_, ?_, readY⟩⟩,
    sameX, sameY⟩
  · simp [Fields.overwrite_cons, Fields.overwrite_nil, Fields.lookup_insert]
  · simp [Fields.overwrite_cons, Fields.overwrite_nil, Fields.lookup_insert]

/-- Numbers that count as many quanta are written alike, since zero is written without a sign. -/
theorem writeCoordinate_congr {x y : Binary64} {quanta : Int} (first : x.quanta? = some quanta)
    (second : y.quanta? = some quanta) : writeCoordinate x = writeCoordinate y := by
  by_cases none : quanta = 0
  · subst none
    rw [writeCoordinate, writeCoordinate, Binary64.whole?_zero first, Binary64.whole?_zero second]
    rfl
  · rw [Binary64.eq_of_quanta? first second none]

theorem Point.write_congr {p q : Point} {i j : Int} (x : p.x.quanta? = some i)
    (y : p.y.quanta? = some j) (alsoX : q.x.quanta? = some i) (alsoY : q.y.quanta? = some j) :
    p.write = q.write := by
  rw [Point.write, Point.write, writeCoordinate_congr x alsoX, writeCoordinate_congr y alsoY]

/-! ### Colours -/

namespace Color

theorem inRange_of_badChannel? {color : Color} (none : color.badChannel? = none) :
    ∀ channel ∈ color.channels, ∃ quanta, channel.2.quanta? = some quanta := by
  intro channel mem
  have fine := List.find?_eq_none.mp (Option.map_eq_none_iff.mp none) channel mem
  simp only [Bool.not_eq_true, Bool.not_eq_false', Bool.and_eq_true, decide_eq_true_eq] at fine
  exact Binary64.quanta?_of_inRange (by decide) fine.1 fine.2

/-- Only colours in range are read. -/
theorem badChannel?_of_read {document : Document} {color : Color}
    (reads : Color.read document = .ok color) : color.badChannel? = none := by
  simp only [read, bind_eq_ok_iff] at reads
  obtain ⟨formed, -, result⟩ := reads
  split at result
  · exact nomatch result
  · rename_i fine
    obtain rfl := Except.ok.inj result
    exact fine

theorem solid_read : Reader.Solid Color.read := by
  intro color taken
  simp only [read, readForm, bind_eq_ok_iff] at taken
  obtain ⟨formed, impossible, -⟩ := taken
  contradiction

/-- The channels that a colour is written with are those that are read. -/
theorem readForm_write {color : Color} (fine : color.badChannel? = none) :
    readForm color.write = .ok color := by
  have number : ∀ channel ∈ color.channels,
      Reader.number (.ofNumber channel.2) = .ok channel.2 := by
    intro channel mem
    obtain ⟨quanta, counts⟩ := inRange_of_badChannel? fine channel mem
    rw [ofNumber_of_quanta? counts]
    rfl
  have written : color.write = .object (Fields.overwrite [] ([("r", Document.ofNumber color.r),
      ("g", .ofNumber color.g), ("b", .ofNumber color.b)] ++
        Document.optionalField "a" Document.ofNumber color.a)) := by
    obtain ⟨r, g, b, a⟩ := color
    cases a <;> rfl
  have reads : Reader.ofObject "ColorRepr" ["r", "g", "b", "a"]
      (Fields.overwrite [] ([("r", Document.ofNumber color.r), ("g", .ofNumber color.g),
        ("b", .ofNumber color.b)] ++ Document.optionalField "a" Document.ofNumber color.a))
      (fun entries => Color.mk <$> entries.required "r" Reader.number <*>
        entries.required "g" Reader.number <*> entries.required "b" Reader.number <*>
        entries.optional "a" Reader.number) = .ok color := by
    refine Reader.ofObject_eq_ok_iff.mpr ⟨Reader.repeated?_of_sorted (Fields.sorted_ofList _) _ _ _, ?_⟩
    simp only [Reading.eq_ok_iff_gives, Reading.gives_seq_iff, Reading.gives_map_iff]
    simp only [Reading.Gives, Entries.required_eq_ok_iff, Entries.optional_eq_ok_iff]
    refine ⟨color.r, ⟨.ofNumber color.r, ?_, number ("r", color.r) (by simp [channels])⟩,
      color.g, ⟨.ofNumber color.g, ?_, number ("g", color.g) (by simp [channels])⟩,
      color.b, ⟨.ofNumber color.b, ?_, number ("b", color.b) (by simp [channels])⟩,
      color.a, HoldsOptional.of_lookup Document.ofNumber ?_ (fun a given => ?_)
        Reader.solid_number, rfl⟩
    · simp [Fields.overwrite_cons, Fields.lookup_insert]
    · simp [Fields.overwrite_cons, Fields.lookup_insert]
    · simp [Fields.overwrite_cons, Fields.lookup_insert]
    · simp [Fields.overwrite_cons, Fields.lookup_insert]
    · exact number ("a", a) (by simp [channels, Option.mem_def.mp given])
  rw [written]
  simp only [readForm, reads]

theorem read_write {color : Color} (fine : color.badChannel? = none) :
    Color.read color.write = .ok color := by
  simp only [read, readForm_write fine, bind_eq_ok_iff]
  exact ⟨color, rfl, by rw [fine]; rfl⟩

end Color

theorem Version.read_write (version : Version) : Version.read version.write = .ok version := by
  have word : Reader.natural 64 version.write = .ok version.packed.toNat :=
    Reader.natural_eq_ok_iff.mpr ⟨rfl, version.packed.toNat_lt⟩
  simp only [read, word]
  simp

theorem Direction.ofCode?_eq_some_iff {code : Nat} {direction : Direction} :
    ofCode? code = some direction ↔ code = direction.code := by
  constructor
  · intro found
    obtain ⟨bound, rfl⟩ := List.getElem?_eq_some_iff.mp found
    exact (List.Nodup.idxOf_getElem (by decide) code bound).symm
  · rintro rfl
    exact direction.ofCode?_code

/-- A direction is read from the one document that it is written as. -/
theorem Direction.read_eq_ok_iff {document : Document} {direction : Direction} :
    Direction.read document = .ok direction ↔ document = direction.write := by
  simp only [read, bind_eq_ok_iff, Reader.natural_eq_ok_iff]
  constructor
  · rintro ⟨code, ⟨rfl, -⟩, result⟩
    split at result
    · rename_i found
      obtain rfl := Except.ok.inj result
      rw [ofCode?_eq_some_iff.mp found]
      rfl
    · contradiction
  · rintro rfl
    have small : direction.code < 2 ^ 8 := by cases direction <;> decide
    refine ⟨direction.code, ⟨rfl, small⟩, ?_⟩
    rw [direction.ofCode?_code]
    rfl

/-! ### Signals and conditions -/

theorem SignalType.read_write (type : SignalType) :
    SignalType.read Reader.unit (.text type.name) = .ok type := by
  cases type <;> rfl

theorem Signal.read_write (signal : Signal) : Signal.read signal.write = .ok signal := by
  refine read_eq_ok_iff.mpr ⟨_, .ofFields _ _, ⟨.text signal.name, ?_, rfl⟩,
    ⟨.text signal.type.name, ?_, signal.type.read_write⟩⟩
  · simp [Fields.overwrite_cons, Fields.overwrite_nil, Fields.lookup_insert]
  · simp [Fields.overwrite_cons, Fields.overwrite_nil, Fields.lookup_insert]

theorem Icon.read_write {icon : Icon} (small : icon.index < 2 ^ 8) :
    Icon.read icon.write = .ok icon := by
  refine read_eq_ok_iff.mpr ⟨_, .ofFields _ _, ⟨icon.signal.write, ?_, icon.signal.read_write⟩,
    ⟨.ofNat icon.index, ?_, Reader.natural_eq_ok_iff.mpr ⟨rfl, small⟩⟩⟩
  · simp [Fields.overwrite_cons, Fields.overwrite_nil, Fields.lookup_insert]
  · simp [Fields.overwrite_cons, Fields.overwrite_nil, Fields.lookup_insert]

theorem Comparator.read_write (comparator : Comparator) :
    Comparator.read comparator.write = .ok comparator := by
  cases comparator <;> rfl

theorem Condition.read_write {condition : Condition}
    (constant : ∀ constant ∈ condition.constant, Fits32 constant) :
    Condition.read condition.write = .ok condition := by
  refine read_eq_ok_iff.mpr ⟨_, .ofFields _ _, ⟨?_, ?_, ?_, ?_⟩⟩
  · refine HoldsOptional.of_lookup Signal.write ?_ (fun signal _ => signal.read_write) (.of_mismatch rfl)
    simp [Fields.overwrite_append]
  · refine HoldsOptional.of_lookup Comparator.write ?_
      (fun comparator _ => comparator.read_write) (.of_mismatch rfl)
    simp [Fields.overwrite_append]
  · refine HoldsOptional.of_lookup Document.integer ?_
      (fun n mem => Reader.int32_eq_ok_iff.mpr ⟨rfl, constant n mem⟩) (.of_mismatch rfl)
    simp [Fields.overwrite_append]
  · refine HoldsOptional.of_lookup Signal.write ?_ (fun signal _ => signal.read_write) (.of_mismatch rfl)
    simp [Fields.overwrite_append]

/-! ### Wires -/

theorem WireEnd.read_write {type key : String} (other : "entity_id" ≠ key) {far : WireEnd Nat}
    (target : far.target < 2 ^ 64) (small : far.Small) :
    WireEnd.read type key (far.write key) = .ok far := by
  refine read_eq_ok_iff.mpr ⟨_, .ofFields _ _, ⟨.ofNat far.target, ?_, ?_⟩, ?_⟩
  · exact WireEnd.field?_write_target other far
  · exact Reader.natural_eq_ok_iff.mpr ⟨rfl, target⟩
  · refine HoldsOptional.of_lookup Document.ofNat ?_
      (fun terminal mem => Reader.natural_eq_ok_iff.mpr ⟨rfl, small terminal mem⟩) (.of_mismatch rfl)
    have optional := Fields.lookup_overwrite_optionalField
      (Fields.insert "entity_id" (.ofNat far.target) []) key key Document.ofNat far.terminal
    rw [if_pos rfl, Fields.lookup_insert, if_neg other.symm, List.lookup_nil, Option.or_none]
      at optional
    exact optional

theorem SmallEnds.read_write {type key : String} (other : "entity_id" ≠ key)
    {ends : List (WireEnd Nat)} (small : SmallEnds ends) :
    Reader.list (WireEnd.read type key) (.array (ends.map (·.write key))) = .ok ends :=
  Reader.list_map_write fun far mem => WireEnd.read_write other (small far mem).1 (small far mem).2

theorem CircuitRecord.read_write {record : CircuitRecord}
    (small : ∀ color, SmallEnds (record.ends color)) :
    CircuitRecord.read record.write = .ok record := by
  refine read_eq_ok_iff.mpr ⟨_, .ofFields _ _, ⟨?_, ?_⟩⟩
  · refine HoldsOptional.of_lookup (fun ends => .array (ends.map (·.write "circuit_id"))) ?_
      (fun _ given => SmallEnds.read_write (by decide) ?_) (.of_mismatch rfl)
    · simp [Fields.overwrite_append]
    · have red := small .red
      rwa [ends, points, Option.mem_def.mp given] at red
  · refine HoldsOptional.of_lookup (fun ends => .array (ends.map (·.write "circuit_id"))) ?_
      (fun _ given => SmallEnds.read_write (by decide) ?_) (.of_mismatch rfl)
    · simp [Fields.overwrite_append]
    · have green := small .green
      rwa [ends, points, Option.mem_def.mp given] at green

theorem ConnectionsRecord.read_write {record : ConnectionsRecord} (small : record.Small) :
    ConnectionsRecord.read record.write = .ok record := by
  have circuits : ∀ side, ∀ inner ∈ record.circuit side,
      CircuitRecord.read inner.write = .ok inner := by
    intro side inner given
    refine CircuitRecord.read_write fun color => ?_
    have ends := small.circuit side color
    rwa [circuitEnds, Option.mem_def.mp given] at ends
  have coppers : ∀ side, ∀ ends ∈ record.copper side,
      Reader.list (WireEnd.read "CopperPointRecord" "wire_id")
        (.array (ends.map (·.write "wire_id"))) = .ok ends := by
    intro side ends given
    refine SmallEnds.read_write (by decide) ?_
    have here := small.copper side
    rwa [copperEnds, Option.mem_def.mp given] at here
  refine read_eq_ok_iff.mpr ⟨_, .ofFields _ _, ⟨?_, ?_, ?_, ?_⟩⟩
  · refine HoldsOptional.of_lookup _ ?_ (circuits .input) (.of_mismatch rfl)
    simp [Fields.overwrite_append]
  · refine HoldsOptional.of_lookup _ ?_ (circuits .output) (.of_mismatch rfl)
    simp [Fields.overwrite_append]
  · refine HoldsOptional.of_lookup _ ?_ (coppers .left) (.of_mismatch rfl)
    simp [Fields.overwrite_append]
  · refine HoldsOptional.of_lookup _ ?_ (coppers .right) (.of_mismatch rfl)
    simp [Fields.overwrite_append]

end FactoryBlueprint
