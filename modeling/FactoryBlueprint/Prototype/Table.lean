import FactoryBlueprint.Prototype.Basic
import FactoryBlueprint.Signal
import Std.Data.TreeMap

/-! # Prototype tables

A table says which entities, tiles and signals exist. Prototypes are looked up by name; a name is
registered once, except that an entity may be replaced.
-/

namespace FactoryBlueprint

structure PrototypeTable where
  entities : Std.TreeMap String EntityPrototype
  tiles : Std.TreeMap String TilePrototype
  signals : Std.TreeMap String SignalType

/-- A name that is already taken in one of the three parts of a table. -/
structure DuplicateName where
  table : String
  name : String

def DuplicateName.message (duplicate : DuplicateName) : String :=
  s!"duplicate {duplicate.table} prototype '{duplicate.name}'"

namespace PrototypeTable

def empty : PrototypeTable := ⟨∅, ∅, ∅⟩

instance : Inhabited PrototypeTable := ⟨empty⟩

def entity? (table : PrototypeTable) (name : String) : Option EntityPrototype :=
  table.entities[name]?

def tile? (table : PrototypeTable) (name : String) : Option TilePrototype := table.tiles[name]?

def signalType? (table : PrototypeTable) (name : String) : Option SignalType := table.signals[name]?

/-- The names of all entity prototypes, sorted. -/
def entityNames (table : PrototypeTable) : List String := table.entities.keys

/-- Adds an entity prototype or replaces the one of its name. -/
def putEntity (table : PrototypeTable) (prototype : EntityPrototype) : PrototypeTable :=
  { table with entities := table.entities.insert prototype.name prototype }

def registerEntity (table : PrototypeTable) (prototype : EntityPrototype) :
    Except DuplicateName PrototypeTable :=
  if table.entities.contains prototype.name then .error ⟨"entity", prototype.name⟩
  else .ok (table.putEntity prototype)

def registerTile (table : PrototypeTable) (prototype : TilePrototype) :
    Except DuplicateName PrototypeTable :=
  if table.tiles.contains prototype.name then .error ⟨"tile", prototype.name⟩
  else .ok { table with tiles := table.tiles.insert prototype.name prototype }

def registerSignal (table : PrototypeTable) (name : String) (type : SignalType) :
    Except DuplicateName PrototypeTable :=
  if table.signals.contains name then .error ⟨"signal", name⟩
  else .ok { table with signals := table.signals.insert name type }

end PrototypeTable
end FactoryBlueprint
