import FactoryBlueprint.Proofs.Document.Reader
import FactoryBlueprint.Schedule.Basic

/-! # What schedule documents hold

Which schedule, stop, wait and condition the fields of an object hold, field by field.
-/

namespace FactoryBlueprint

namespace Signal

structure Holds (fields : List (String × Document)) (signal : Signal) : Prop where
  name : FactoryBlueprint.Holds fields "name" Reader.text signal.name
  type : FactoryBlueprint.Holds fields "type" SignalType.read signal.type

theorem read_eq_ok_iff {document : Document} {signal : Signal} :
    read document = .ok signal ↔
      ∃ fields, RecordFields ["name", "type"] document fields ∧ Holds fields signal := by
  refine Reader.record_eq_ok_iff fun fields positional => ?_
  simp only [Reading.eq_ok_iff_gives, Reading.gives_seq_iff, Reading.gives_map_iff]
  simp only [Reading.Gives, Entries.required_eq_ok_iff]
  constructor
  · rintro ⟨_, name, _, type, rfl⟩
    exact ⟨name, type⟩
  · rintro ⟨name, type⟩
    exact ⟨_, name, _, type, rfl⟩

end Signal

namespace Icon

structure Holds (fields : List (String × Document)) (icon : Icon) : Prop where
  signal : FactoryBlueprint.Holds fields "signal" Signal.read icon.signal
  index : FactoryBlueprint.Holds fields "index" (Reader.natural 8) icon.index

theorem read_eq_ok_iff {document : Document} {icon : Icon} :
    read document = .ok icon ↔
      ∃ fields, RecordFields ["signal", "index"] document fields ∧ Holds fields icon := by
  refine Reader.record_eq_ok_iff fun fields positional => ?_
  simp only [Reading.eq_ok_iff_gives, Reading.gives_seq_iff, Reading.gives_map_iff]
  simp only [Reading.Gives, Entries.required_eq_ok_iff]
  constructor
  · rintro ⟨_, signal, _, index, rfl⟩
    exact ⟨signal, index⟩
  · rintro ⟨signal, index⟩
    exact ⟨_, signal, _, index, rfl⟩

end Icon

namespace Condition

structure Holds (fields : List (String × Document)) (condition : Condition) : Prop where
  firstSignal : HoldsOptional fields "first_signal" Signal.read condition.firstSignal
  comparator : HoldsOptional fields "comparator" Comparator.read condition.comparator
  constant : HoldsOptional fields "constant" Reader.int32 condition.constant
  secondSignal : HoldsOptional fields "second_signal" Signal.read condition.secondSignal

theorem read_eq_ok_iff {document : Document} {condition : Condition} :
    read document = .ok condition ↔ ∃ fields,
      RecordFields ["first_signal", "comparator", "constant", "second_signal"] document fields ∧
        Holds fields condition := by
  refine Reader.record_eq_ok_iff fun fields positional => ?_
  simp only [Reading.eq_ok_iff_gives, Reading.gives_seq_iff, Reading.gives_map_iff]
  simp only [Reading.Gives, Entries.optional_eq_ok_iff]
  constructor
  · rintro ⟨_, first, _, comparator, _, constant, _, second, rfl⟩
    exact ⟨first, comparator, constant, second⟩
  · rintro ⟨first, comparator, constant, second⟩
    exact ⟨_, first, _, comparator, _, constant, _, second, rfl⟩

end Condition

namespace WaitCondition

/-- The fields that a wait has of its own. -/
def names : List String := ["type", "compare_type", "ticks", "condition"]

structure Holds (fields : List (String × Document)) (wait : WaitCondition) : Prop where
  kind : FactoryBlueprint.Holds fields "type" Reader.text wait.kind
  compareType : HoldsOptional fields "compare_type" Reader.text wait.compareType
  ticks : HoldsOptional fields "ticks" (Reader.natural 32) wait.ticks
  condition : HoldsOptional fields "condition" Condition.read wait.condition
  extra : Fields.ofList (Fields.without fields names) = wait.extra

theorem read_eq_ok_iff {document : Document} {wait : WaitCondition} :
    read document = .ok wait ↔ ∃ fields, document = .object fields ∧
      (⟨fields, "WaitCondition", names, false⟩ : Entries).repeated? = none ∧ Holds fields wait := by
  rw [read, Reader.openRecord_eq_ok_iff]
  refine exists_congr fun fields => and_congr_right fun _ => and_congr_right fun _ => ?_
  simp only [Reading.eq_ok_iff_gives, Reading.gives_seq_iff, Reading.gives_map_iff]
  simp only [Reading.Gives, Entries.required_eq_ok_iff, Entries.optional_eq_ok_iff,
    Reading.ofValue_eq_ok_iff]
  constructor
  · rintro ⟨_, kind, _, compareType, _, ticks, _, condition, _, extra, rfl⟩
    exact ⟨kind, compareType, ticks, condition, extra⟩
  · rintro ⟨kind, compareType, ticks, condition, extra⟩
    exact ⟨_, kind, _, compareType, _, ticks, _, condition, _, extra, rfl⟩

end WaitCondition

namespace Stop

/-- The fields that a stop has of its own. -/
def names : List String := ["station", "wait_conditions"]

structure Holds (fields : List (String × Document)) (stop : Stop) : Prop where
  station : FactoryBlueprint.Holds fields "station" Reader.text stop.station
  waits : HoldsDefault fields "wait_conditions" [] (Reader.list WaitCondition.read) stop.waits
  extra : Fields.ofList (Fields.without fields names) = stop.extra

theorem read_eq_ok_iff {document : Document} {stop : Stop} :
    read document = .ok stop ↔ ∃ fields, document = .object fields ∧
      (⟨fields, "Stop", names, false⟩ : Entries).repeated? = none ∧ Holds fields stop := by
  rw [read, Reader.openRecord_eq_ok_iff]
  refine exists_congr fun fields => and_congr_right fun _ => and_congr_right fun _ => ?_
  simp only [Reading.eq_ok_iff_gives, Reading.gives_seq_iff, Reading.gives_map_iff]
  simp only [Reading.Gives, Entries.required_eq_ok_iff, Entries.withDefault_eq_ok_iff,
    Reading.ofValue_eq_ok_iff]
  constructor
  · rintro ⟨_, station, _, waits, _, extra, rfl⟩
    exact ⟨station, waits, extra⟩
  · rintro ⟨station, waits, extra⟩
    exact ⟨_, station, _, waits, _, extra, rfl⟩

end Stop

namespace Schedule

/-- The fields that a schedule has of its own. -/
def names : List String := ["schedule", "locomotives"]

structure Holds (fields : List (String × Document)) (schedule : Schedule Nat) : Prop where
  stops : HoldsDefault fields "schedule" [] (Reader.list Stop.read) schedule.stops
  locomotives : HoldsDefault fields "locomotives" [] (Reader.list (Reader.natural 64))
    schedule.locomotives
  extra : Fields.ofList (Fields.without fields names) = schedule.extra

theorem read_eq_ok_iff {document : Document} {schedule : Schedule Nat} :
    read document = .ok schedule ↔ ∃ fields, document = .object fields ∧
      (⟨fields, "ScheduleRecord", names, false⟩ : Entries).repeated? = none ∧
        Holds fields schedule := by
  rw [read, Reader.openRecord_eq_ok_iff]
  refine exists_congr fun fields => and_congr_right fun _ => and_congr_right fun _ => ?_
  simp only [Reading.eq_ok_iff_gives, Reading.gives_seq_iff, Reading.gives_map_iff]
  simp only [Reading.Gives, Entries.withDefault_eq_ok_iff, Reading.ofValue_eq_ok_iff]
  constructor
  · rintro ⟨_, stops, _, locomotives, _, extra, rfl⟩
    exact ⟨stops, locomotives, extra⟩
  · rintro ⟨stops, locomotives, extra⟩
    exact ⟨_, stops, _, locomotives, _, extra, rfl⟩

end Schedule
end FactoryBlueprint
