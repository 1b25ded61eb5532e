import FactoryBlueprint.Blueprint.Basic
import FactoryBlueprint.Blueprint.Record
import FactoryBlueprint.Proofs.Connections.Terminals
import FactoryBlueprint.Proofs.Document.Fields
import Mathlib.Algebra.Order.Ring.Int
import Mathlib.Data.List.Nodup

/-! # Values within their ranges

Counts, positions and terminals have a fixed number of binary digits, and keyed fields are in key
order. `Fits` says so of each type of value, and what merging and wiring do to an entity keeps it
so.
-/

namespace FactoryBlueprint

/-- Within 32 bits, with a sign. -/
def Fits32 (n : Int) : Prop := -2147483648 ≤ n ∧ n ≤ 2147483647

structure GridPosition.Fits (position : GridPosition) : Prop where
  x : Fits32 position.x
  y : Fits32 position.y

/-- What 32 bits can hold they hold. -/
theorem wrap32_of_fits {n : Int} (fits : Fits32 n) : wrap32 n = n :=
  Int.bmod_eq_of_le_mul_two (by have := fits.1; omega) (by have := fits.2; omega)

theorem fits_wrap32 (n : Int) : Fits32 (wrap32 n) := by
  have low := @Int.le_bmod n 4294967296 (by decide)
  have high := @Int.bmod_lt n 4294967296 (by decide)
  rw [wrap32, Fits32]
  omega

namespace GridPosition

/-- The difference of the positions has 32 bits on both axes. -/
structure SubFits (p q : GridPosition) : Prop where
  x : Fits32 (p.x - q.x)
  y : Fits32 (p.y - q.y)

theorem fits_sub (p q : GridPosition) : (p - q).Fits := ⟨fits_wrap32 _, fits_wrap32 _⟩

theorem SubFits.sub_eq {p q : GridPosition} (fits : p.SubFits q) :
    p - q = ⟨p.x - q.x, p.y - q.y⟩ := by
  change (⟨wrap32 (p.x - q.x), wrap32 (p.y - q.y)⟩ : GridPosition) = _
  rw [wrap32_of_fits fits.x, wrap32_of_fits fits.y]

theorem Fits.sub_zero {position : GridPosition} (fits : position.Fits) :
    position - .zero = position := by
  have within : position.SubFits .zero :=
    ⟨(Int.sub_zero position.x).symm ▸ fits.x, (Int.sub_zero position.y).symm ▸ fits.y⟩
  rw [within.sub_eq]
  change (⟨position.x - 0, position.y - 0⟩ : GridPosition) = position
  rw [Int.sub_zero, Int.sub_zero]

end GridPosition

/-! ### Wires -/

/-- The number of the terminal has 8 bits. -/
def WireEnd.Small {ref : Type} (far : WireEnd ref) : Prop :=
  ∀ terminal ∈ far.terminal, terminal < 2 ^ 8

/-- The numbers of terminals at far ends have 8 bits. -/
def FarEndsFit (ends : List (WireEnd Association)) : Prop := ∀ far ∈ ends, far.Small

namespace FarEndsFit

variable {ends others : List (WireEnd Association)} {entry : WireEntry}

theorem nil : FarEndsFit [] := List.forall_mem_nil _

theorem add (fits : FarEndsFit entry.ends) {far : WireEnd Association} (small : far.Small) :
    FarEndsFit (entry.add far).ends := by
  intro other mem
  rcases Distinct.mem_add.mp mem with old | rfl
  · exact fits other old
  · exact small

theorem addAll (fits : FarEndsFit ends) (more : FarEndsFit others) :
    FarEndsFit (Distinct.addAll ends others) := by
  intro far mem
  rcases Distinct.mem_addAll.mp mem with old | new
  · exact fits far old
  · exact more far new

theorem remove (fits : FarEndsFit entry.ends) (leaves : WireEnd Association → Bool) :
    FarEndsFit (entry.remove leaves).ends := by
  rw [WireEntry.ends_remove]
  exact fun far mem => fits far (List.mem_filter.mp mem).1

/-- Where the far ends lead does not matter. -/
theorem map (fits : FarEndsFit ends) (rename : Association → Association) :
    FarEndsFit (ends.map fun far => ⟨rename far.target, far.terminal⟩) := by
  intro far mem
  obtain ⟨before, given, rfl⟩ := List.mem_map.mp mem
  exact fits before given

end FarEndsFit

structure Connections.Fits (connections : Connections) : Prop where
  circuit : ∀ side color, FarEndsFit (connections.circuit side color)
  copper : ∀ side, FarEndsFit (connections.copper side)

namespace Connections

variable {connections others : Connections}

namespace Fits

theorem empty : Connections.empty.Fits where
  circuit side color := by cases side <;> cases color <;> exact .nil
  copper side := by cases side <;> exact .nil

theorem modifyCircuit (fits : connections.Fits) {side : CircuitSide} {color : WireColor}
    {f : WireEntry → WireEntry}
    (keeps : ∀ entry : WireEntry, FarEndsFit entry.ends → FarEndsFit (f entry).ends) :
    (connections.modifyCircuit side color f).Fits where
  circuit other wire := by
    rw [circuit_modifyCircuit]
    split
    · exact keeps _ (fits.circuit side color)
    · exact fits.circuit other wire
  copper other := by
    rw [copper_modifyCircuit]
    exact fits.copper other

theorem modifyCopper (fits : connections.Fits) {side : CopperSide}
    {f : WireEntry → WireEntry}
    (keeps : ∀ entry : WireEntry, FarEndsFit entry.ends → FarEndsFit (f entry).ends) :
    (connections.modifyCopper side f).Fits where
  circuit other color := by
    rw [circuit_modifyCopper]
    exact fits.circuit other color
  copper other := by
    rw [copper_modifyCopper]
    split
    · exact keeps _ (fits.copper side)
    · exact fits.copper other

theorem addCircuit (fits : connections.Fits) (side : CircuitSide) (color : WireColor)
    {far : WireEnd Association} (small : far.Small) : (connections.addCircuit side color far).Fits :=
  fits.modifyCircuit fun _ old => old.add small

theorem merge (fits : connections.Fits) (more : others.Fits) : (connections.merge others).Fits where
  circuit side color := by
    rw [circuit_merge]
    exact (fits.circuit side color).addAll (more.circuit side color)
  copper side := by
    rw [copper_merge]
    exact (fits.copper side).addAll (more.copper side)

end Fits
end Connections

/-! ### Entities and tiles -/

structure Entity.Fits (entity : Entity) : Prop where
  connections : entity.connections.Fits
  items : ∀ field ∈ entity.items, field.2 < 2 ^ 32
  fields : entity.fields.Sorted
  extra : entity.extra.Sorted

theorem Entity.Fits.merge {entity other : Entity} (fits : entity.Fits) (more : other.Fits) :
    (entity.merge other).Fits where
  connections := fits.connections.merge more.connections
  items := by
    intro field mem
    rcases Fields.mem_overwrite mem with new | old
    · exact more.items field new
    · exact fits.items field old
  fields := by
    simp only [Entity.merge]
    split
    · exact fits.fields.insert _ _
    · exact fits.fields
  extra := fits.extra

namespace Item

mutual

/-- The entities in an item, in order. -/
def entities : Item → List Entity
  | .entity e => [e]
  | .group _ _ members => entitiesOfAll members

def entitiesOfAll : List Item → List Entity
  | [] => []
  | item :: items => entities item ++ entitiesOfAll items

end

theorem mem_entitiesOfAll {items : List Item} {e : Entity} :
    e ∈ entitiesOfAll items ↔ ∃ item ∈ items, e ∈ item.entities := by
  induction items with
  | nil => simp [entitiesOfAll]
  | cons item items ih => rw [entitiesOfAll, List.mem_append, ih, List.exists_mem_cons_iff]

def Fits (item : Item) : Prop := ∀ e ∈ item.entities, e.Fits

end Item

structure Tile.Fits (tile : Tile) : Prop where
  position : tile.position.Fits
  extra : tile.extra.Sorted

theorem Tile.Fits.merge {tile : Tile} (fits : tile.Fits) (other : Tile) :
    (tile.merge other).Fits where
  position := fits.position
  extra := Fields.sorted_overwrite fits.extra other.extra

/-! ### Schedules -/

structure WaitCondition.Fits (wait : WaitCondition) : Prop where
  ticks : ∀ ticks ∈ wait.ticks, ticks < 2 ^ 32
  constant : ∀ condition ∈ wait.condition, ∀ constant ∈ condition.constant, Fits32 constant
  extra : wait.extra.Sorted

structure Stop.Fits (stop : Stop) : Prop where
  waits : ∀ wait ∈ stop.waits, wait.Fits
  extra : stop.extra.Sorted

structure Schedule.Fits {ref : Type} (schedule : Schedule ref) : Prop where
  stops : ∀ stop ∈ schedule.stops, stop.Fits
  extra : schedule.extra.Sorted

theorem Schedule.removeStop?_eq_some {schedule after : Schedule Association} {station : String}
    {stop : Stop} (removed : schedule.removeStop? station = some (stop, after)) :
    after = { schedule with stops := schedule.stops.eraseP (·.station = station) } := by
  simp only [Schedule.removeStop?, Option.bind_eq_bind, Option.bind_eq_some_iff, Option.pure_def,
    Option.some.injEq, Prod.mk.injEq] at removed
  obtain ⟨_, _, _, rfl⟩ := removed
  rfl

theorem Schedule.Fits.removeStop? {schedule after : Schedule Association} {station : String}
    {stop : Stop} (fits : schedule.Fits)
    (removed : schedule.removeStop? station = some (stop, after)) : after.Fits := by
  rw [Schedule.removeStop?_eq_some removed]
  exact ⟨fun stop mem => fits.stops stop (List.mem_of_mem_eraseP mem), fits.extra⟩

/-! ### Blueprints -/

namespace Blueprint

/-- What is said about the whole fits, and the schedules do. -/
structure HeaderFits (blueprint : Blueprint) : Prop where
  gridSize : ∀ size ∈ blueprint.snappingGridSize, size.Fits
  gridPosition : ∀ position ∈ blueprint.snappingGridPosition, position.Fits
  relative : ∀ position ∈ blueprint.positionRelativeToGrid, position.Fits
  index : ∀ index ∈ blueprint.index, index ≤ RootRecord.maxIndex
  schedules : ∀ schedule ∈ blueprint.schedules, schedule.Fits

structure Fits (blueprint : Blueprint) : Prop extends blueprint.HeaderFits where
  entities : ∀ key entity, blueprint.entities.entity? key = some entity → entity.Fits
  tiles : ∀ key tile, blueprint.tiles.tile? key = some tile → tile.Fits

end Blueprint
end FactoryBlueprint
