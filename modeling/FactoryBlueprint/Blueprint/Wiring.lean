import FactoryBlueprint.Blueprint.Basic

/-! # Wiring

Red and green wires join circuit terminals, copper wires join electric poles and the terminals of
power switches. Both ends record a wire.
-/

namespace FactoryBlueprint.Blueprint

/-- An entity with its position in the blueprint. -/
structure Endpoint where
  key : Key
  entity : Entity
  position : Point

/-- The entity under a key; groups take no wires. -/
def endpoint (blueprint : Blueprint) (key : Key) : Except Error Endpoint :=
  match blueprint.entities.entity? key, blueprint.entities.worldPosition? key with
  | some entity, some position => .ok ⟨key, entity, position⟩
  | _, _ => .error .entityNotFound

/-- The refusal to wire an entity. -/
def refuse {α : Type} (entity : Entity) (fault : ConnectionFault) : Except Error α :=
  .error (.notConnectable entity.name fault)

/-- Edits two entities, one after the other. If the second is not there, the first stays edited. -/
def modifyBoth (blueprint : Blueprint) (a b : Key) (f g : Entity → Entity) : Edited Unit :=
  match blueprint.entities.modify? blueprint.table a f with
  | none => (blueprint, .error .entityNotFound)
  | some entities =>
    match entities.modify? blueprint.table b g with
    | none => ({ blueprint with entities := entities }, .error .entityNotFound)
    | some entities => ({ blueprint with entities := entities }, .ok ())

/-- Warns of a wire that is longer than its reach. -/
def lengthWarnings (blueprint : Blueprint) (a b : Point) (reach : Binary64) :
    Except Error (List Warning) :=
  let distance := a.distance b
  blueprint.mode.accept (if reach < distance then [.wireTooLong distance reach] else [])

/-! ### Circuits -/

/-- The reach of circuit wires at a terminal, and whether the entity has both terminals. -/
def circuitReach (blueprint : Blueprint) (entity : Entity) (side : CircuitSide) :
    Except Error (Binary64 × Bool) :=
  match blueprint.table.entity? entity.name with
  | none => refuse entity .unknownEntity
  | some prototype =>
    match prototype.circuitReach with
    | none => refuse entity .noCircuit
    | some reach =>
      let both := prototype.kind.hasOutputSide
      if side = .output ∧ !both then refuse entity .noOutputSide else .ok (reach, both)

/-- The number of a terminal where it must be told, at entities with both. -/
def told (both : Bool) (side : CircuitSide) : Option Nat := if both then some side.code else none

/-- Checks a circuit wire; gives the far end that each entity records, and the warnings. -/
def checkCircuit (blueprint : Blueprint) (a b : Key) (sideA sideB : CircuitSide) :
    Except Error (WireEnd Association × WireEnd Association × List Warning) := do
  let first ← blueprint.endpoint a
  let second ← blueprint.endpoint b
  if a = b ∧ sideA = sideB then refuse first.entity .terminalToItself
  let (reachA, bothA) ← blueprint.circuitReach first.entity sideA
  let (reachB, bothB) ← blueprint.circuitReach second.entity sideB
  let warnings ← blueprint.lengthWarnings first.position second.position (min reachA reachB)
  pure (⟨blueprint.entities.associate b, told bothB sideB⟩,
    ⟨blueprint.entities.associate a, told bothA sideA⟩, warnings)

/-- Joins a terminal of `a` and a terminal of `b` by a wire. -/
def addCircuit (blueprint : Blueprint) (color : WireColor) (a b : Key)
    (sideA sideB : CircuitSide) : Edited (List Warning) :=
  match blueprint.checkCircuit a b sideA sideB with
  | .error error => (blueprint, .error error)
  | .ok (toB, toA, warnings) =>
    let (blueprint, outcome) := blueprint.modifyBoth a b
      (fun entity => { entity with connections := entity.connections.addCircuit sideA color toB })
      (fun entity => { entity with connections := entity.connections.addCircuit sideB color toA })
    (blueprint, outcome.map fun _ => warnings)

/-- Removes the wire of a colour between a terminal of `a` and a terminal of `b`. -/
def removeCircuit (blueprint : Blueprint) (color : WireColor) (a b : Key)
    (sideA sideB : CircuitSide) : Edited Unit :=
  let found := do pure (← blueprint.endpoint a, ← blueprint.endpoint b)
  match found with
  | .error error => (blueprint, .error error)
  | .ok (first, second) =>
    let terminal (endpoint : Endpoint) (side : CircuitSide) :=
      told (endpoint.entity.kind blueprint.table).hasOutputSide side
    blueprint.modifyBoth a b
      (fun entity =>
        { entity with
          connections := entity.connections.removeCircuit sideA color b (terminal second sideB) })
      (fun entity =>
        { entity with
          connections := entity.connections.removeCircuit sideB color a (terminal first sideA) })

/-! ### Copper between poles -/

/-- The reach of copper wires at a pole. -/
def poleReach (blueprint : Blueprint) (entity : Entity) : Except Error Binary64 :=
  match ((blueprint.table.entity? entity.name).filter (·.isPowerConnectable)).bind
      (·.copperReach) with
  | some reach => .ok reach
  | none => refuse entity .notAPole

/-- Checks a copper wire between poles; gives the warnings. -/
def checkPower (blueprint : Blueprint) (a b : Key) : Except Error (List Warning) := do
  let first ← blueprint.endpoint a
  let second ← blueprint.endpoint b
  if a = b then refuse first.entity .poleToItself
  let reachA ← blueprint.poleReach first.entity
  let reachB ← blueprint.poleReach second.entity
  blueprint.lengthWarnings first.position second.position (min reachA reachB)

/-- Warns if the pole under a key has too many neighbours. -/
def neighbourWarnings (blueprint : Blueprint) (key : Key) : Except Error (List Warning) :=
  match blueprint.entities.entity? key with
  | none => .ok []
  | some entity =>
    let count := entity.neighbours.length
    blueprint.mode.accept (if Warning.maxNeighbours < count then
      [.tooManyNeighbours entity.name count] else [])

/-- Joins two poles by a copper wire. The wire stays even if a pole then has too many. -/
def addPower (blueprint : Blueprint) (a b : Key) : Edited (List Warning) :=
  match blueprint.checkPower a b with
  | .error error => (blueprint, .error error)
  | .ok warnings =>
    let link (key : Key) (entity : Entity) : Entity :=
      { entity with
        neighbours := Distinct.add entity.neighbours (blueprint.entities.associate key) }
    let (joined, outcome) := blueprint.modifyBoth a b (link b) (link a)
    (joined, do
      outcome
      let first ← joined.neighbourWarnings a
      let second ← joined.neighbourWarnings b
      pure (warnings ++ first ++ second))

/-- The pole without the neighbours of a key. -/
def unlink (key : Key) (entity : Entity) : Entity :=
  { entity with neighbours := entity.neighbours.filter (!·.pointsTo key) }

/-- Removes the copper wire between two poles. -/
def removePower (blueprint : Blueprint) (a b : Key) : Edited Unit :=
  blueprint.modifyBoth a b (unlink b) (unlink a)

/-- Unlinks a key from the targets of associations that are in the blueprint, until one of them is
no entity. -/
def unlinkAll (blueprint : Blueprint) (key : Key) : List Association → Edited Unit
  | [] => (blueprint, .ok ())
  | association :: rest =>
    if blueprint.entities.holds association then
      match blueprint.entities.modify? blueprint.table association.target (unlink key) with
      | some entities => unlinkAll { blueprint with entities := entities } key rest
      | none => (blueprint, .error .entityNotFound)
    else unlinkAll blueprint key rest

/-- Removes every copper wire between a pole and other poles. -/
def removeAllPower (blueprint : Blueprint) (key : Key) : Edited Unit :=
  match blueprint.entities.entity? key with
  | none => (blueprint, .error .entityNotFound)
  | some entity =>
    match blueprint.unlinkAll key entity.neighbours with
    | (blueprint, .error error) => (blueprint, .error error)
    | (blueprint, .ok ()) =>
      match blueprint.entities.modify? blueprint.table key fun entity =>
          { entity with neighbours := [] } with
      | some entities => ({ blueprint with entities := entities }, .ok ())
      | none => (blueprint, .error .entityNotFound)

/-! ### Copper at power switches -/

/-- Checks a copper wire between a power switch and a pole. -/
def checkCopper (blueprint : Blueprint) (switch pole : Key) : Except Error Unit := do
  let first ← blueprint.endpoint switch
  let second ← blueprint.endpoint pole
  if !(first.entity.kind blueprint.table).hasCopperTerminals then
    refuse first.entity .noCopperTerminals
  if second.entity.kind blueprint.table ≠ .electricPole then refuse second.entity .notAPole

/-- Joins a terminal of a power switch and a pole by a copper wire. -/
def addCopper (blueprint : Blueprint) (switch : Key) (side : CopperSide) (pole : Key) :
    Edited Unit :=
  match blueprint.checkCopper switch pole with
  | .error error => (blueprint, .error error)
  | .ok () =>
    let toPole := ⟨blueprint.entities.associate pole, some CopperSide.left.code⟩
    let toSwitch := ⟨blueprint.entities.associate switch, some side.code⟩
    blueprint.modifyBoth switch pole
      (fun entity => { entity with connections := entity.connections.addCopper side toPole })
      (fun entity => { entity with connections := entity.connections.addCopper .left toSwitch })

/-- Removes the copper wire between a terminal of a power switch and a pole. -/
def removeCopper (blueprint : Blueprint) (switch : Key) (side : CopperSide) (pole : Key) :
    Edited Unit :=
  blueprint.modifyBoth switch pole
    (fun entity => { entity with connections := entity.connections.removeCopper side pole })
    (fun entity => { entity with connections := entity.connections.removeCopper .left switch })

end FactoryBlueprint.Blueprint
