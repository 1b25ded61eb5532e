import FactoryBlueprint.Prototype.Table

/-! # The built-in prototype table

The entities, tiles and signals of the game without additions. Every entity but the rails is also an
item signal.
-/

namespace FactoryBlueprint.PrototypeTable

def chestBox : Box := .square 0.35

def smallBox : Box := .square 0.15

def beltBox : Box := .square 0.4

def machineBox : Box := .square 1.2

def combinatorBox : Box := .ofBounds (-0.35) (-0.65) 0.35 0.65

def locomotiveBox : Box := .ofBounds (-0.6) (-2.6) 0.6 2.6

def wagonBox : Box := .ofBounds (-0.6) (-2.4) 0.6 2.4

/-- Entities that have a prototype of their own. -/
def singleEntities : List EntityPrototype :=
  [{ EntityPrototype.building "wooden-chest" .container chestBox with
        inventorySize := some 16, circuitReach := some 9.0 },
    { EntityPrototype.building "iron-chest" .container chestBox with
        inventorySize := some 32, circuitReach := some 9.0 },
    { EntityPrototype.building "steel-chest" .container chestBox with
        inventorySize := some 48, circuitReach := some 9.0 },
    { EntityPrototype.building "storage-tank" .storageTank (.square 1.3) with
        circuitReach := some 9.0 },
    .building "assembling-machine-1" .assemblingMachine machineBox,
    .building "assembling-machine-2" .assemblingMachine machineBox,
    .building "assembling-machine-3" .assemblingMachine machineBox,
    .building "stone-furnace" .furnace (.square 0.8),
    .building "steel-furnace" .furnace (.square 0.875),
    .building "electric-furnace" .furnace machineBox,
    .building "linked-belt" .linkedBelt beltBox,
    { EntityPrototype.building "small-electric-pole" .electricPole smallBox with
        copperReach := some 7.5, circuitReach := some 7.5 },
    { EntityPrototype.building "medium-electric-pole" .electricPole smallBox with
        copperReach := some 9.0, circuitReach := some 9.0 },
    { EntityPrototype.building "big-electric-pole" .electricPole (.square 0.65) with
        copperReach := some 30.0, circuitReach := some 30.0 },
    { EntityPrototype.building "substation" .electricPole (.square 0.7) with
        copperReach := some 18.0, circuitReach := some 18.0 },
    { EntityPrototype.building "power-switch" .powerSwitch (.square 0.7) with
        circuitReach := some 10.0 },
    { EntityPrototype.building "constant-combinator" .constantCombinator chestBox with
        circuitReach := some 9.0 },
    { EntityPrototype.building "arithmetic-combinator" .arithmeticCombinator combinatorBox with
        circuitReach := some 9.0 },
    { EntityPrototype.building "decider-combinator" .deciderCombinator combinatorBox with
        circuitReach := some 9.0 },
    { EntityPrototype.building "small-lamp" .lamp smallBox with circuitReach := some 9.0 },
    { EntityPrototype.building "locomotive" .locomotive locomotiveBox with
        tileWidth := 2, tileHeight := 6 },
    { EntityPrototype.building "cargo-wagon" .cargoWagon wagonBox with
        tileWidth := 2, tileHeight := 6, inventorySize := some 40 },
    { EntityPrototype.building "fluid-wagon" .fluidWagon wagonBox with
        tileWidth := 2, tileHeight := 6 },
    { EntityPrototype.building "artillery-wagon" .artilleryWagon wagonBox with
        tileWidth := 2, tileHeight := 6 },
    { EntityPrototype.building "straight-rail" .straightRail
        (.ofBounds (-0.7) (-0.99) 0.7 0.99) with
        mask := .rail, onRailGrid := true },
    { EntityPrototype.building "curved-rail" .curvedRail (.ofBounds (-0.75) (-0.55) 0.75 1.6) with
        mask := .rail, tileWidth := 4, tileHeight := 8, onRailGrid := true },
    { EntityPrototype.building "train-stop" .trainStop (.square 0.5) with
        tileWidth := 2, tileHeight := 2, circuitReach := some 9.0, onRailGrid := true },
    { EntityPrototype.building "rail-signal" .railSignal (.square 0.2) with
        circuitReach := some 9.0 },
    { EntityPrototype.building "rail-chain-signal" .railSignal (.square 0.2) with
        circuitReach := some 9.0 },
    .building "gun-turret" .turret (.square 0.9),
    .building "laser-turret" .turret (.square 0.9),
    { EntityPrototype.building "flamethrower-turret" .turret (.ofBounds (-0.7) (-1.2) 0.7 1.2) with
        tileWidth := 2, tileHeight := 3 },
    .building "radar" .radar (.square 1.4),
    { EntityPrototype.building "offshore-pump" .offshorePump (.ofBounds (-0.6) (-1.05) 0.6 0.3) with
        tileWidth := 1, tileHeight := 2, circuitReach := some 9.0 },
    .building "rocket-silo" .rocketSilo (.square 4.4),
    .building "steam-engine" .generator (.ofBounds (-1.35) (-2.35) 1.35 2.35),
    { EntityPrototype.building "player-port" .playerPort (.square 0.3) with
        tileWidth := 2, tileHeight := 2 },
    .building "simple-entity-with-owner" .simpleEntityWithOwner (.square 0.3)]

/-- Chests of the logistic network. -/
def logisticChests : List EntityPrototype :=
  ["logistic-chest-passive-provider", "logistic-chest-active-provider", "logistic-chest-storage",
    "logistic-chest-requester", "logistic-chest-buffer"].map fun name =>
    { EntityPrototype.building name .logisticContainer chestBox with
      inventorySize := some 48, circuitReach := some 9.0 }

def inserters : List EntityPrototype :=
  ["burner-inserter", "inserter", "long-handed-inserter", "fast-inserter", "filter-inserter",
    "stack-inserter", "stack-filter-inserter"].map fun name =>
    { EntityPrototype.building name .inserter smallBox with circuitReach := some 9.0 }

/-- Belts, underground belts and splitters of the three speeds. -/
def belts : List EntityPrototype :=
  ["", "fast-", "express-"].flatMap fun tier =>
    [{ EntityPrototype.building (tier ++ "transport-belt") .transportBelt beltBox with
        circuitReach := some 9.0 },
      .building (tier ++ "underground-belt") .undergroundBelt beltBox,
      .building (tier ++ "splitter") .splitter (.ofBounds (-0.9) (-0.4) 0.9 0.4)]

def vanillaEntities : List EntityPrototype := singleEntities ++ logisticChests ++ inserters ++ belts

def vanillaTiles : List String :=
  ["stone-path", "concrete", "hazard-concrete-left", "hazard-concrete-right", "refined-concrete",
    "refined-hazard-concrete-left", "refined-hazard-concrete-right", "landfill"]

/-- Items that are not placed as entities. -/
def vanillaItems : List String :=
  ["wood", "coal", "stone", "iron-ore", "copper-ore", "uranium-ore", "iron-plate", "copper-plate",
    "steel-plate", "stone-brick", "plastic-bar", "sulfur", "iron-gear-wheel", "copper-cable",
    "electronic-circuit", "advanced-circuit", "processing-unit", "engine-unit",
    "electric-engine-unit", "battery", "rail", "landfill", "concrete", "refined-concrete",
    "automation-science-pack", "logistic-science-pack", "military-science-pack",
    "chemical-science-pack", "production-science-pack", "utility-science-pack",
    "space-science-pack"]

def vanillaFluids : List String :=
  ["water", "steam", "crude-oil", "heavy-oil", "light-oil", "petroleum-gas", "lubricant",
    "sulfuric-acid"]

/-- Letters and digits, each with a virtual signal. -/
def signalCharacters : List Char := "ABCDEFGHIJKLMNOPQRSTUVWXYZ0123456789".toList

/-- Virtual signals besides those of letters and digits. -/
def specialSignals : List String :=
  ["signal-red", "signal-green", "signal-blue", "signal-yellow", "signal-pink", "signal-cyan",
    "signal-white", "signal-grey", "signal-black", "signal-check", "signal-info", "signal-dot",
    "signal-everything", "signal-anything", "signal-each"]

/-- Every signal with its type. -/
def vanillaSignals : List (String × SignalType) :=
  let placeable := vanillaEntities.filter fun p => p.kind ≠ .straightRail ∧ p.kind ≠ .curvedRail
  placeable.map (fun p => (p.name, .item)) ++ vanillaItems.map (fun name => (name, .item)) ++
    vanillaFluids.map (fun name => (name, .fluid)) ++
    signalCharacters.map (fun c => ("signal-" ++ c.toString, .virtual)) ++
    specialSignals.map (fun name => (name, .virtual))

/-- The built-in table. -/
def vanilla : PrototypeTable where
  entities := vanillaEntities.foldl (fun map p => map.insert p.name p) ∅
  tiles := vanillaTiles.foldl (fun map name => map.insert name (.floor name)) ∅
  signals := vanillaSignals.foldl (fun map (name, type) => map.insert name type) ∅

end FactoryBlueprint.PrototypeTable
