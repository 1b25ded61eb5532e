import FactoryBlueprint.Association
import FactoryBlueprint.Store.Distinct

/-! # Wires

An entity has an input terminal for red and green wires, some have an output terminal, and a power
switch has a left and a right terminal for copper wires. `Connections` has an entry for each terminal
and kind of wire there, which lists the far ends, none of them twice. What has no wires has no entry.
-/

namespace FactoryBlueprint

inductive WireColor where
  | red
  | green
  deriving DecidableEq

namespace WireColor

def all : List WireColor := [.red, .green]

def name : WireColor → String
  | .red => "red"
  | .green => "green"

end WireColor

/-- Terminal for red and green wires. -/
inductive CircuitSide where
  | input
  | output
  deriving DecidableEq

namespace CircuitSide

def all : List CircuitSide := [.input, .output]

/-- The number of the terminal. -/
def code : CircuitSide → Nat
  | .input => 1
  | .output => 2

def ofCode? (code : Nat) : Option CircuitSide := all.find? (·.code = code)

end CircuitSide

/-- Copper terminal of a power switch. -/
inductive CopperSide where
  | left
  | right
  deriving DecidableEq

namespace CopperSide

def all : List CopperSide := [.left, .right]

/-- The number of the terminal. -/
def code : CopperSide → Nat
  | .left => 0
  | .right => 1

def ofCode? (code : Nat) : Option CopperSide := all.find? (·.code = code)

end CopperSide

/-- The far end of a wire: the entity there and the number of its terminal where that is told. -/
structure WireEnd (ref : Type) where
  target : ref
  terminal : Option Nat
  deriving DecidableEq

/-- The far ends of the wires of one kind at one terminal. A terminal without such wires has no entry:
an entry is dropped with its last far end. -/
structure WireEntry where
  ends? : Option (List (WireEnd Association))
  some_end : ends? ≠ some []
  deriving DecidableEq

namespace WireEntry

def absent : WireEntry := ⟨none, nofun⟩

/-- The far ends, none where there is no entry. -/
def ends (entry : WireEntry) : List (WireEnd Association) := entry.ends?.getD []

/-- The entry with `far`, which makes it where there is none. -/
def add (entry : WireEntry) (far : WireEnd Association) : WireEntry :=
  ⟨some (Distinct.add entry.ends far), by simp [Distinct.add_ne_nil]⟩

def addAll (entry : WireEntry) (fars : List (WireEnd Association)) : WireEntry :=
  fars.foldl add entry

/-- The entry without the far ends that `leaves` picks. -/
def remove (entry : WireEntry) (leaves : WireEnd Association → Bool) : WireEntry :=
  match entry.ends? with
  | none => entry
  | some ends =>
    if empty : ends.filter (!leaves ·) = [] then absent
    else ⟨some (ends.filter (!leaves ·)), by simpa using empty⟩

def mapTargets (entry : WireEntry) (f : Association → Association) : WireEntry where
  ends? := entry.ends?.map (List.map fun far => ⟨f far.target, far.terminal⟩)
  some_end := by simpa using entry.some_end

end WireEntry

/-- The red and green wires at one terminal. -/
structure CircuitEntries where
  red : WireEntry
  green : WireEntry
  deriving DecidableEq

namespace CircuitEntries

def empty : CircuitEntries := ⟨.absent, .absent⟩

def entry (circuit : CircuitEntries) : WireColor → WireEntry
  | .red => circuit.red
  | .green => circuit.green

def modify (circuit : CircuitEntries) (color : WireColor) (f : WireEntry → WireEntry) :
    CircuitEntries :=
  match color with
  | .red => { circuit with red := f circuit.red }
  | .green => { circuit with green := f circuit.green }

end CircuitEntries

/-- The far ends of all wires of an entity. -/
structure Connections where
  input : CircuitEntries
  output : CircuitEntries
  copperLeft : WireEntry
  copperRight : WireEntry
  deriving DecidableEq

namespace Connections

def empty : Connections := ⟨.empty, .empty, .absent, .absent⟩

instance : Inhabited Connections := ⟨empty⟩

/-- The wires of one colour at one terminal. -/
def circuitEntry (connections : Connections) (side : CircuitSide) (color : WireColor) : WireEntry :=
  match side with
  | .input => connections.input.entry color
  | .output => connections.output.entry color

/-- The copper wires at one terminal. -/
def copperEntry (connections : Connections) : CopperSide → WireEntry
  | .left => connections.copperLeft
  | .right => connections.copperRight

/-- The far ends of the wires of one colour at one terminal. -/
def circuit (connections : Connections) (side : CircuitSide) (color : WireColor) :
    List (WireEnd Association) :=
  (connections.circuitEntry side color).ends

/-- The far ends of the copper wires at one terminal. -/
def copper (connections : Connections) (side : CopperSide) : List (WireEnd Association) :=
  (connections.copperEntry side).ends

def modifyCircuit (connections : Connections) (side : CircuitSide) (color : WireColor)
    (f : WireEntry → WireEntry) : Connections :=
  match side with
  | .input => { connections with input := connections.input.modify color f }
  | .output => { connections with output := connections.output.modify color f }

def modifyCopper (connections : Connections) (side : CopperSide) (f : WireEntry → WireEntry) :
    Connections :=
  match side with
  | .left => { connections with copperLeft := f connections.copperLeft }
  | .right => { connections with copperRight := f connections.copperRight }

def addCircuit (connections : Connections) (side : CircuitSide) (color : WireColor)
    (far : WireEnd Association) : Connections :=
  connections.modifyCircuit side color (·.add far)

/-- Without the wires of one colour at one terminal that lead to the given terminal of `target`. -/
def removeCircuit (connections : Connections) (side : CircuitSide) (color : WireColor)
    (target : Key) (terminal : Option Nat) : Connections :=
  connections.modifyCircuit side color
    (·.remove fun far => far.target.pointsTo target && far.terminal = terminal)

def addCopper (connections : Connections) (side : CopperSide) (far : WireEnd Association) :
    Connections :=
  connections.modifyCopper side (·.add far)

/-- Without the copper wires at one terminal that lead to `target`. -/
def removeCopper (connections : Connections) (side : CopperSide) (target : Key) : Connections :=
  connections.modifyCopper side (·.remove fun far => far.target.pointsTo target)

/-- The terminals and colours that have an entry, with their far ends. -/
def circuitEntries (connections : Connections) :
    List (CircuitSide × WireColor × List (WireEnd Association)) :=
  CircuitSide.all.flatMap fun side => WireColor.all.filterMap fun color =>
    (connections.circuitEntry side color).ends?.map (side, color, ·)

/-- The terminals that have an entry for copper wires, with their far ends. -/
def copperEntries (connections : Connections) : List (CopperSide × List (WireEnd Association)) :=
  CopperSide.all.filterMap fun side => (connections.copperEntry side).ends?.map (side, ·)

/-- True if there is no entry. -/
def isEmpty (connections : Connections) : Bool :=
  connections.circuitEntries.isEmpty && connections.copperEntries.isEmpty

/-- Every far end, those of circuits first. -/
def targets (connections : Connections) : List Association :=
  (connections.circuitEntries.flatMap fun (_, _, ends) => ends.map (·.target)) ++
    connections.copperEntries.flatMap fun (_, ends) => ends.map (·.target)

/-- The wires of both; those of the first keep their places. -/
def merge (connections others : Connections) : Connections :=
  let circuits := others.circuitEntries.foldl (fun connections (side, color, ends) =>
    ends.foldl (·.addCircuit side color ·) connections) connections
  others.copperEntries.foldl (fun connections (side, ends) =>
    ends.foldl (·.addCopper side ·) connections) circuits

/-- The wires with `f` applied to every target. -/
def mapTargets (connections : Connections) (f : Association → Association) : Connections where
  input := ⟨connections.input.red.mapTargets f, connections.input.green.mapTargets f⟩
  output := ⟨connections.output.red.mapTargets f, connections.output.green.mapTargets f⟩
  copperLeft := connections.copperLeft.mapTargets f
  copperRight := connections.copperRight.mapTargets f

end Connections
end FactoryBlueprint
