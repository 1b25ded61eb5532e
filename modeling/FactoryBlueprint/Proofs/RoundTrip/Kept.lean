import FactoryBlueprint.Proofs.Blueprint.Record
import FactoryBlueprint.Proofs.Entity.Record
import FactoryBlueprint.Proofs.RoundTrip.Values

/-! # What a document keeps

What it means that a document kept everything of another one but defaults: for each kind of record,
which fields are unchanged, which may be left out and which read the same in another spelling.
-/

namespace FactoryBlueprint

/-- The trees that documents are: objects have their keys in order and none twice, integers have 64
bits and fractional numbers are finite. -/
inductive Document.WellFormed : Document → Prop
  | null : WellFormed .null
  | bool (value : Bool) : WellFormed (.bool value)
  | integer {value : Int} (low : -(2 ^ 63) ≤ value) (high : value < 2 ^ 64) :
      WellFormed (.integer value)
  | number {value : Binary64} (finite : value.isFinite = true) : WellFormed (.number value)
  | text (value : String) : WellFormed (.text value)
  | array {items : List Document} (each : ∀ item ∈ items, WellFormed item) :
      WellFormed (.array items)
  | object {fields : List (String × Document)} (sorted : Fields.Sorted fields)
      (each : ∀ field ∈ fields, WellFormed field.2) : WellFormed (.object fields)

namespace Document.WellFormed

theorem lookup {fields : List (String × Document)} (formed : WellFormed (.object fields))
    {key : String} {value : Document} (found : fields.lookup key = some value) :
    value.WellFormed := by
  cases formed with
  | object sorted each => exact each _ (Fields.mem_of_lookup found)

theorem sorted {fields : List (String × Document)} (formed : WellFormed (.object fields)) :
    Fields.Sorted fields := by
  cases formed with
  | object sorted each => exact sorted

theorem items {document : Document} (formed : document.WellFormed) :
    ∀ item ∈ document.items, item.WellFormed := by
  cases formed with
  | array each => exact each
  | _ => exact fun _ mem => absurd mem List.not_mem_nil

theorem itemsAt {fields : List (String × Document)} (formed : WellFormed (.object fields))
    (key : String) : ∀ item ∈ (Document.object fields).itemsAt [key], item.WellFormed := by
  rw [Document.itemsAt_cons, Document.field?_object]
  cases found : List.lookup key fields with
  | none => exact fun _ mem => absurd mem List.not_mem_nil
  | some value => exact (formed.lookup found).items

end Document.WellFormed

/-! ### Single fields -/

/-- A field is unchanged, but left out if it was `null` or one of the defaults. -/
def KeptUnless (defaults : List Document) (key : String) (before after : Document) : Prop :=
  ∀ value, after.field? key = some value ↔
    before.field? key = some value ∧ value ≠ .null ∧ value ∉ defaults

/-- An optional field reads as the same value. -/
def ReadsAlike {α : Type} (read : Reader α) (key : String) (before after : Document) : Prop :=
  ∃ value, HoldsOptional before.fields key read value ∧ HoldsOptional after.fields key read value

/-- All fields but those named are unchanged. -/
def KeptBeside (names : List String) (before after : Document) : Prop :=
  ∀ key ∉ names, after.field? key = before.field? key

/-! ### Records -/

/-- What is kept of an entity, and which number it has. -/
structure EntityKept (i : Nat) (before after : Document) : Prop where
  number : after.field? "entity_number" = some (.ofNat (i + 1))
  name : after.field? "name" = before.field? "name"
  position : ∃ p q, Holds before.fields "position" Point.read p ∧
    Holds after.fields "position" Point.read q ∧ q.x.sameValue p.x ∧ q.y.sameValue p.y
  direction : KeptUnless [.ofNat 0] "direction" before after
  connections : ∃ c d, HoldsOptional before.fields "connections" ConnectionsRecord.read c ∧
    HoldsOptional after.fields "connections" ConnectionsRecord.read d ∧
    (∀ side color, (d.getD .empty).circuitEnds side color =
      Distinct.addAll [] ((c.getD .empty).circuitEnds side color)) ∧
    ∀ side, (d.getD .empty).copperEnds side =
      Distinct.addAll [] ((c.getD .empty).copperEnds side)
  neighbours : KeptUnless [.array []] "neighbours" before after
  items : KeptUnless [.object []] "items" before after
  tags : KeptUnless [.object []] "tags" before after
  others : KeptBeside EntityRecord.names before after

structure TileKept (before after : Document) : Prop where
  name : after.field? "name" = before.field? "name"
  position : ∃ p, Holds before.fields "position" GridPosition.read p ∧
    Holds after.fields "position" GridPosition.read p
  others : KeptBeside Tile.names before after

structure WaitKept (before after : Document) : Prop where
  type : after.field? "type" = before.field? "type"
  compareType : KeptUnless [] "compare_type" before after
  ticks : KeptUnless [] "ticks" before after
  condition : ReadsAlike Condition.read "condition" before after
  others : KeptBeside WaitCondition.names before after

structure StopKept (before after : Document) : Prop where
  station : after.field? "station" = before.field? "station"
  waits : List.Forall₂ WaitKept (before.itemsAt ["wait_conditions"])
    (after.itemsAt ["wait_conditions"])
  others : KeptBeside Stop.names before after

structure ScheduleKept (before after : Document) : Prop where
  stops : List.Forall₂ StopKept (before.itemsAt ["schedule"]) (after.itemsAt ["schedule"])
  locomotives : after.itemsAt ["locomotives"] = before.itemsAt ["locomotives"]
  others : KeptBeside Schedule.names before after

/-- What is kept of a blueprint. A version that was not told is the current one afterwards. -/
structure BlueprintKept (before after : Document) : Prop where
  item : after.field? "item" = before.field? "item"
  label : KeptUnless [] "label" before after
  labelColor : ReadsAlike Color.read "label_color" before after
  description : KeptUnless [] "description" before after
  icons : ∃ c d, HoldsOptional before.fields "icons" (Reader.list Icon.read) c ∧
    HoldsOptional after.fields "icons" (Reader.list Icon.read) d ∧ d.getD [] = c.getD []
  version : ∃ v, HoldsOptional before.fields "version" Version.read v ∧
    Holds after.fields "version" Version.read (v.getD .current)
  snapToGrid : ReadsAlike GridPosition.read "snap-to-grid" before after
  absoluteSnapping : KeptUnless [.bool true] "absolute-snapping" before after
  relative : ∃ c d, HoldsOptional before.fields "position-relative-to-grid" GridPosition.read c ∧
    HoldsOptional after.fields "position-relative-to-grid" GridPosition.read d ∧
    d.getD .zero = c.getD .zero
  entities : (after.itemsAt ["entities"]).length = (before.itemsAt ["entities"]).length
  entity : ∀ (i : Nat) old new, (before.itemsAt ["entities"])[i]? = some old →
    (after.itemsAt ["entities"])[i]? = some new → EntityKept i old new
  tiles : List.Forall₂ TileKept (before.itemsAt ["tiles"]) (after.itemsAt ["tiles"])
  schedules : List.Forall₂ ScheduleKept (before.itemsAt ["schedules"]) (after.itemsAt ["schedules"])
  others : KeptBeside BlueprintRecord.names before after

/-- The document keeps the index and everything of the blueprint but defaults. -/
structure Document.Kept (before after : Document) : Prop where
  index : after.field? "index" = before.field? "index"
  blueprint : ∃ old new, before.field? "blueprint" = some old ∧
    after.field? "blueprint" = some new ∧ BlueprintKept old new

end FactoryBlueprint
