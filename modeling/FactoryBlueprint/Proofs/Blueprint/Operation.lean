import FactoryBlueprint.Blueprint.Contents
import FactoryBlueprint.Blueprint.Import
import FactoryBlueprint.Blueprint.Wiring
import FactoryBlueprint.Proofs.Blueprint.Fits

/-! # Operations and runs

An `Operation` is a call of one of the operations on blueprints, with its arguments. It may succeed
or be refused, and `Operation.apply` is the blueprint that it leaves in either case. A blueprint is
`Reachable` if a run of operations leads to it from an empty blueprint or from one that was read.
-/

namespace FactoryBlueprint

/-- A call with its arguments. -/
inductive Operation where
  | setLabel (label : Option String)
  | setLabelColor (color : Option Color)
  | setDescription (description : Option String)
  | setIcons (icons : List Icon)
  | setIconsByName (names : List String)
  | setVersion (version : Version)
  | setVersionComponents (components : List Nat)
  | setGridSize (size : Option GridPosition)
  | setGridPosition (position : Option GridPosition)
  | setAbsoluteSnapping (absolute : Bool)
  | setPositionRelativeToGrid (position : Option GridPosition)
  | setIndex (index : Option Nat)
  | setMode (mode : ValidationMode)
  | recalculate
  | insertEntity (i : Nat) (item : Item) (merge : Bool)
  | addEntity (item : Item) (merge : Bool)
  | setEntity (i : Nat) (item : Item)
  | removeEntity (i : Nat)
  | removeEntityKey (key : Key)
  | modifyEntity (key : Key) (f : Entity → Entity)
  | setEntities (list : ListId) (items : List Item)
  | clearEntities
  | insertTile (i : Nat) (tile : Tile) (merge : Bool)
  | addTile (tile : Tile) (merge : Bool)
  | setTile (i : Nat) (tile : Tile)
  | removeTile (i : Nat)
  | setTiles (tiles : List Tile)
  | clearTiles
  | addSchedule (schedule : Schedule Association)
  | insertSchedule (i : Nat) (schedule : Schedule Association)
  | setSchedule (i : Nat) (schedule : Schedule Association)
  | removeSchedule (i : Nat)
  | clearSchedules
  /-- Any other change to the schedules, which are open to the caller. -/
  | editSchedules (f : List (Schedule Association) → List (Schedule Association))
  | forgetLocomotive (key : Key)
  | removeStop (i : Nat) (station : String)
  | addLocomotive (i : Nat) (key : Key)
  | removeLocomotive (i : Nat) (key : Key)
  | addCircuit (color : WireColor) (a b : Key) (sideA sideB : CircuitSide)
  | removeCircuit (color : WireColor) (a b : Key) (sideA sideB : CircuitSide)
  | addPower (a b : Key)
  | removePower (a b : Key)
  | removeAllPower (key : Key)
  | addCopper (switch : Key) (side : CopperSide) (pole : Key)
  | removeCopper (switch : Key) (side : CopperSide) (pole : Key)
  /-- Goes on with a copy whose entity list has the given id. -/
  | duplicate (list : ListId)

namespace Operation

/-- The blueprint that a call leaves, whether it succeeds or not. -/
def apply (blueprint : Blueprint) : Operation → Blueprint
  | setLabel label => { blueprint with label := label }
  | setLabelColor color => (blueprint.setLabelColor color).1
  | setDescription description => { blueprint with description := description }
  | setIcons icons => (blueprint.setIcons icons).1
  | setIconsByName names => (blueprint.setIconsByName names).1
  | setVersion version => { blueprint with version := version }
  | setVersionComponents components => (blueprint.setVersionComponents components).1
  | setGridSize size => { blueprint with snappingGridSize := size }
  | setGridPosition position => { blueprint with snappingGridPosition := position }
  | setAbsoluteSnapping absolute => { blueprint with absoluteSnapping := absolute }
  | setPositionRelativeToGrid position => { blueprint with positionRelativeToGrid := position }
  | setIndex index => { blueprint with index := index }
  | setMode mode => { blueprint with mode := mode }
  | recalculate => blueprint.recalculate.1
  | insertEntity i item merge => (blueprint.insertEntity i item merge).1
  | addEntity item merge => (blueprint.addEntity item merge).1
  | setEntity i item => (blueprint.setEntity i item).1
  | removeEntity i => (blueprint.removeEntity i).1
  | removeEntityKey key => (blueprint.removeEntityKey key).1
  | modifyEntity key f => (blueprint.modifyEntity key f).1
  | setEntities list items => (blueprint.setEntities list items).1
  | clearEntities => blueprint.clearEntities
  | insertTile i tile merge => (blueprint.insertTile i tile merge).1
  | addTile tile merge => (blueprint.addTile tile merge).1
  | setTile i tile => (blueprint.setTile i tile).1
  | removeTile i => (blueprint.removeTile i).1
  | setTiles tiles => (blueprint.setTiles tiles).1
  | clearTiles => blueprint.clearTiles
  | addSchedule schedule => blueprint.addSchedule schedule
  | insertSchedule i schedule => (blueprint.insertSchedule i schedule).1
  | setSchedule i schedule => (blueprint.setSchedule i schedule).1
  | removeSchedule i => (blueprint.removeSchedule i).1
  | clearSchedules => blueprint.clearSchedules
  | editSchedules f => { blueprint with schedules := f blueprint.schedules }
  | forgetLocomotive key => blueprint.forgetLocomotive key
  | removeStop i station => (blueprint.removeStop i station).1
  | addLocomotive i key => (blueprint.addLocomotive i key).1
  | removeLocomotive i key => (blueprint.removeLocomotive i key).1
  | addCircuit color a b sideA sideB => (blueprint.addCircuit color a b sideA sideB).1
  | removeCircuit color a b sideA sideB => (blueprint.removeCircuit color a b sideA sideB).1
  | addPower a b => (blueprint.addPower a b).1
  | removePower a b => (blueprint.removePower a b).1
  | removeAllPower key => (blueprint.removeAllPower key).1
  | addCopper switch side pole => (blueprint.addCopper switch side pole).1
  | removeCopper switch side pole => (blueprint.removeCopper switch side pole).1
  | duplicate list => blueprint.duplicate list

/-- The arguments of a call are values within their ranges. -/
def Fits : Operation → Prop
  | setGridSize value | setGridPosition value | setPositionRelativeToGrid value =>
    ∀ position ∈ value, position.Fits
  | setIndex value => ∀ index ∈ value, index ≤ RootRecord.maxIndex
  | insertEntity _ item _ | addEntity item _ | setEntity _ item => item.Fits
  | modifyEntity _ f => ∀ entity : Entity, entity.Fits → (f entity).Fits
  | setEntities _ items => ∀ item ∈ items, item.Fits
  | insertTile _ tile _ | addTile tile _ | setTile _ tile => tile.Fits
  | setTiles tiles => ∀ tile ∈ tiles, tile.Fits
  | addSchedule schedule | insertSchedule _ schedule | setSchedule _ schedule => schedule.Fits
  | editSchedules f => ∀ schedules : List (Schedule Association),
      (∀ schedule ∈ schedules, schedule.Fits) → ∀ schedule ∈ f schedules, schedule.Fits
  | _ => True

end Operation

namespace Blueprint

/-- A run of operations, each of which is allowed where it is called. -/
inductive Run (allowed : Blueprint → Operation → Prop) (start : Blueprint) : Blueprint → Prop
  | start : Run allowed start start
  | step {blueprint : Blueprint} (operation : Operation) (run : Run allowed start blueprint)
      (permitted : allowed blueprint operation) : Run allowed start (operation.apply blueprint)

/-- Where everything is allowed, any list of calls goes on with a run. -/
theorem Run.calls {start blueprint : Blueprint} (operations : List Operation)
    (run : Run (fun _ _ => True) start blueprint) :
    Run (fun _ _ => True) start (operations.foldl Operation.apply blueprint) := by
  induction operations generalizing blueprint with
  | nil => exact run
  | cons operation rest ih => exact ih (run.step operation trivial)

/-- A blueprint as it is made: empty, or read from a document. -/
inductive Initial : Blueprint → Prop
  | empty (table : PrototypeTable) (list : ListId) : Initial (Blueprint.empty table list)
  | read {table : PrototypeTable} {mode : ValidationMode} {list : ListId} {document : Document}
      {blueprint : Blueprint} {warnings : List Warning}
      (read : ofDocument table mode list document = .ok (blueprint, warnings)) : Initial blueprint

/-- A blueprint that operations can lead to. -/
def Reachable (allowed : Blueprint → Operation → Prop) (blueprint : Blueprint) : Prop :=
  ∃ start, Initial start ∧ Run allowed start blueprint

end Blueprint
end FactoryBlueprint
