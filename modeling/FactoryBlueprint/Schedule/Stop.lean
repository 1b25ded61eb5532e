import FactoryBlueprint.Schedule.Condition

/-! # Stops

A train waits at a stop until its wait conditions are met.
-/

namespace FactoryBlueprint

structure WaitCondition where
  kind : String
  /-- How the condition joins the one before it, `and` or `or`. -/
  compareType : Option String
  ticks : Option Nat
  condition : Option Condition
  /-- All other keys. -/
  extra : Fields Document

namespace WaitCondition

/-- The kinds that there are. -/
def kinds : List String :=
  ["time", "inactivity", "full", "empty", "item_count", "fluid_count", "circuit",
    "robots_inactive", "passenger_present", "passenger_not_present"]

/-- A wait of the given kind, as an alternative to the one before it. -/
def ofKind (kind : String) : WaitCondition := ⟨kind, some "or", none, none, []⟩

def time (ticks : Nat) : WaitCondition := { ofKind "time" with ticks := some ticks }

def inactivity (ticks : Nat) : WaitCondition := { ofKind "inactivity" with ticks := some ticks }

def full : WaitCondition := ofKind "full"

def empty : WaitCondition := ofKind "empty"

def circuit (condition : Condition) : WaitCondition :=
  { ofKind "circuit" with condition := some condition }

def itemCount (condition : Condition) : WaitCondition :=
  { ofKind "item_count" with condition := some condition }

/-- The wait joined to the one before it by `and`. -/
def and (wait : WaitCondition) : WaitCondition := { wait with compareType := some "and" }

def read : Reader WaitCondition :=
  Reader.openRecord "WaitCondition" ["type", "compare_type", "ticks", "condition"] fun entries =>
    WaitCondition.mk <$> entries.required "type" Reader.text <*>
      entries.optional "compare_type" Reader.text <*>
      entries.optional "ticks" (Reader.natural 32) <*>
      entries.optional "condition" Condition.read <*> Reading.ofValue entries.rest

def write (wait : WaitCondition) : Document :=
  .object (Fields.overwrite (Fields.ofList (("type", .text wait.kind) ::
    (Document.optionalField "compare_type" Document.text wait.compareType ++
      Document.optionalField "ticks" Document.ofNat wait.ticks ++
      Document.optionalField "condition" Condition.write wait.condition))) wait.extra)

end WaitCondition

structure Stop where
  station : String
  waits : List WaitCondition
  /-- All other keys. -/
  extra : Fields Document

namespace Stop

def read : Reader Stop :=
  Reader.openRecord "Stop" ["station", "wait_conditions"] fun entries =>
    Stop.mk <$> entries.required "station" Reader.text <*>
      entries.withDefault "wait_conditions" [] (Reader.list WaitCondition.read) <*>
      Reading.ofValue entries.rest

def write (stop : Stop) : Document :=
  let waits := if stop.waits.isEmpty then none else some stop.waits
  .object (Fields.overwrite (Fields.ofList (("station", .text stop.station) ::
    Document.optionalField "wait_conditions" (fun waits => .array (waits.map (·.write))) waits))
    stop.extra)

end Stop
end FactoryBlueprint
