import FactoryBlueprint.Prototype.Table
import FactoryBlueprint.Validation

/-! # Signals and icons against a prototype table

The table knows the type of every signal. A blueprint shows at most four icons, in slots 1 to 4.
-/

namespace FactoryBlueprint

-- Powers are those of the core library wherever this is imported.
attribute [local instance (high)] instPowNat

namespace Signal

/-- The signal of the given name with the type that the table knows. -/
def ofName (table : PrototypeTable) (name : String) : Except Error Signal :=
  match table.signalType? name with
  | some type => .ok ⟨name, type⟩
  | none => .error (.located "signal.name" (.unknownSignalName name))

/-- Warns of a signal that the table does not know, or knows with another type. -/
def warnings (signal : Signal) (table : PrototypeTable) : List Warning :=
  match table.signalType? signal.name with
  | none => [.unknownSignal signal.name]
  | some expected =>
    if expected = signal.type then [] else [.mismatchedSignal signal.name expected signal.type]

end Signal

namespace Icon

/-- Slots are numbered in eight bits. -/
def slotBits : Nat := 8

/-- Icons of the given signals, in slots from 1 on. -/
def ofNames (table : PrototypeTable) (names : List String) : Except Error (List Icon) :=
  names.zipIdx.mapM fun (name, i) => do
    pure ⟨← Signal.ofName table name, (i + 1) % 2 ^ slotBits⟩

/-- The first icon outside the slots, as an error at its place. -/
def slotError? (icons : List Icon) : Option Error :=
  (icons.zipIdx.find? fun (icon, _) => !(1 ≤ icon.index && icon.index ≤ maxCount)).map
    fun (icon, i) => .located s!"blueprint.icons[{i}].index" (.iconSlot icon.index)

/-- Checks the count and the slots of icons, then their signals. -/
def check (icons : List Icon) (mode : ValidationMode) (table : PrototypeTable) :
    Except Error (List Warning) :=
  if mode = .none then .ok []
  else if maxCount < icons.length then
    .error (.located "blueprint.icons" (.tooManyIcons icons.length))
  else
    match slotError? icons with
    | some error => .error error
    | none => mode.accept (icons.flatMap (·.signal.warnings table))

end Icon
end FactoryBlueprint
