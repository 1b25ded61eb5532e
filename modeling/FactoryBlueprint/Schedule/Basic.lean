import FactoryBlueprint.Icons
import FactoryBlueprint.Schedule.Stop
import FactoryBlueprint.Association
import FactoryBlueprint.Store.Distinct

/-! # Schedules

A schedule is a list of stops with the locomotives that run it. In a blueprint the locomotives are
associations, in a document the numbers of entities.
-/

namespace FactoryBlueprint

structure Schedule (ref : Type) where
  stops : List Stop
  locomotives : List ref
  /-- All other keys. -/
  extra : Fields Document

namespace Schedule

variable {ref : Type}

def empty : Schedule ref := ⟨[], [], []⟩

instance : Inhabited (Schedule ref) := ⟨empty⟩

/-- The first stop at a station, and the schedule without it. -/
def removeStop? (schedule : Schedule ref) (station : String) : Option (Stop × Schedule ref) := do
  let stop ← schedule.stops.find? (·.station = station)
  pure (stop, { schedule with stops := schedule.stops.eraseP (·.station = station) })

/-- The schedule with a locomotive, if it does not run it already. -/
def addLocomotive (schedule : Schedule Association) (locomotive : Association) :
    Schedule Association :=
  { schedule with locomotives := Distinct.add schedule.locomotives locomotive }

/-- The schedule without the locomotives of the given key. -/
def removeLocomotive (schedule : Schedule Association) (locomotive : Key) :
    Schedule Association :=
  { schedule with locomotives := schedule.locomotives.filter (!·.pointsTo locomotive) }

/-- Warns of an unknown kind of wait and of the signals of its condition. -/
def waitWarnings (table : PrototypeTable) (station : String) (wait : WaitCondition) :
    List Warning :=
  (if WaitCondition.kinds.contains wait.kind then [] else [.unknownWaitKind wait.kind station]) ++
    wait.condition.toList.flatMap fun condition => condition.signals.flatMap (·.warnings table)

/-- Warns of unknown keys and of what is amiss with the wait conditions. -/
def warnings (schedule : Schedule ref) (table : PrototypeTable) : List Warning :=
  (if schedule.extra.isEmpty then []
    else [.unknownKeys "schedule" (Fields.keys schedule.extra)]) ++
    schedule.stops.flatMap fun stop => stop.waits.flatMap (waitWarnings table stop.station)

def read : Reader (Schedule Nat) :=
  Reader.openRecord "ScheduleRecord" ["schedule", "locomotives"] fun entries =>
    Schedule.mk <$> entries.withDefault "schedule" [] (Reader.list Stop.read) <*>
      entries.withDefault "locomotives" [] (Reader.list (Reader.natural 64)) <*>
      Reading.ofValue entries.rest

def write (schedule : Schedule Nat) : Document :=
  .object (Fields.overwrite schedule.extra
    [("schedule", .array (schedule.stops.map (·.write))),
      ("locomotives", .array (schedule.locomotives.map Document.ofNat))])

end Schedule
end FactoryBlueprint
