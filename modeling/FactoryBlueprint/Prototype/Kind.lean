import FactoryBlueprint.Document.Reader

/-! # Kinds of entities

The kind of a prototype decides which keys of its own an entity may have and which wires it takes.
-/

namespace FactoryBlueprint

inductive Kind where
  | container
  | logisticContainer
  | storageTank
  | assemblingMachine
  | furnace
  | inserter
  | transportBelt
  | undergroundBelt
  | splitter
  | linkedBelt
  | electricPole
  | powerSwitch
  | constantCombinator
  | arithmeticCombinator
  | deciderCombinator
  | lamp
  | locomotive
  | cargoWagon
  | fluidWagon
  | artilleryWagon
  | straightRail
  | curvedRail
  | trainStop
  | railSignal
  | turret
  | radar
  | offshorePump
  | rocketSilo
  | generator
  | playerPort
  | simpleEntityWithOwner
  | generic
  deriving DecidableEq, Inhabited

namespace Kind

/-- Every kind with its name. -/
def names : List (String × Kind) :=
  [("container", .container), ("logistic-container", .logisticContainer),
    ("storage-tank", .storageTank), ("assembling-machine", .assemblingMachine),
    ("furnace", .furnace), ("inserter", .inserter), ("transport-belt", .transportBelt),
    ("underground-belt", .undergroundBelt), ("splitter", .splitter), ("linked-belt", .linkedBelt),
    ("electric-pole", .electricPole), ("power-switch", .powerSwitch),
    ("constant-combinator", .constantCombinator), ("arithmetic-combinator", .arithmeticCombinator),
    ("decider-combinator", .deciderCombinator), ("lamp", .lamp), ("locomotive", .locomotive),
    ("cargo-wagon", .cargoWagon), ("fluid-wagon", .fluidWagon),
    ("artillery-wagon", .artilleryWagon), ("straight-rail", .straightRail),
    ("curved-rail", .curvedRail), ("train-stop", .trainStop), ("rail-signal", .railSignal),
    ("turret", .turret), ("radar", .radar), ("offshore-pump", .offshorePump),
    ("rocket-silo", .rocketSilo), ("generator", .generator), ("player-port", .playerPort),
    ("simple-entity-with-owner", .simpleEntityWithOwner), ("generic", .generic)]

def name (kind : Kind) : String :=
  ((names.find? fun (_, other) => other = kind).map (·.1)).getD "generic"

def ofName? (name : String) : Option Kind := names.lookup name

theorem ofName?_name (kind : Kind) : ofName? kind.name = some kind := by
  cases kind <;> rfl

def read : Reader Kind := Reader.variant names

/-- The keys that an entity of this kind may have besides those of every entity. -/
def knownFields : Kind → List String
  | .container => ["bar"]
  | .logisticContainer => ["bar", "request_filters", "request_from_buffers", "control_behavior"]
  | .assemblingMachine => ["recipe"]
  | .inserter =>
    ["control_behavior", "override_stack_size", "drop_position", "pickup_position", "filters",
      "filter_mode"]
  | .transportBelt | .constantCombinator | .arithmeticCombinator | .deciderCombinator | .lamp
  | .railSignal | .offshorePump => ["control_behavior"]
  | .undergroundBelt => ["type"]
  | .splitter => ["input_priority", "output_priority", "filter"]
  | .linkedBelt => ["type", "link_id"]
  | .powerSwitch => ["switch_state", "control_behavior"]
  | .locomotive => ["orientation", "color"]
  | .cargoWagon => ["orientation", "inventory"]
  | .fluidWagon => ["orientation"]
  | .artilleryWagon => ["orientation", "artillery_auto_targeting"]
  | .trainStop => ["station", "color", "manual_trains_limit", "control_behavior"]
  | .rocketSilo => ["recipe", "auto_launch"]
  | .simpleEntityWithOwner | .playerPort => ["variation"]
  | .storageTank | .furnace | .electricPole | .straightRail | .curvedRail | .turret | .radar
  | .generator | .generic => []

/-- Locomotives and wagons. -/
def isRollingStock : Kind → Bool
  | .locomotive | .cargoWagon | .fluidWagon | .artilleryWagon => true
  | _ => false

/-- Kinds that may face any of the eight compass points. -/
def allowsDiagonal : Kind → Bool
  | .straightRail | .curvedRail | .railSignal => true
  | kind => kind.isRollingStock

/-- Kinds with a circuit output beside the input. -/
def hasOutputSide : Kind → Bool
  | .arithmeticCombinator | .deciderCombinator => true
  | _ => false

/-- Kinds with the two copper terminals of a power switch. -/
def hasCopperTerminals (kind : Kind) : Bool := kind = .powerSwitch

end Kind
end FactoryBlueprint
