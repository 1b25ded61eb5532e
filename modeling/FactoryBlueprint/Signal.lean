import FactoryBlueprint.Document.Reader

/-! # Signals and icons

A signal is a name with its type. Up to four signals are shown as the icons of a blueprint.
-/

namespace FactoryBlueprint

inductive SignalType where
  | item
  | fluid
  | virtual
  deriving DecidableEq, Inhabited

namespace SignalType

/-- Every type with its name. -/
def names : List (String × SignalType) :=
  [("item", .item), ("fluid", .fluid), ("virtual", .virtual)]

def name : SignalType → String
  | .item => "item"
  | .fluid => "fluid"
  | .virtual => "virtual"

/-- Reads a type; `nothing` reads what a name may be bound to. -/
def read (nothing : Reader Unit := Reader.unit) : Reader SignalType := Reader.variant names nothing

end SignalType

structure Signal where
  name : String
  type : SignalType
  deriving DecidableEq, Inhabited

namespace Signal

def read : Reader Signal := Reader.record "SignalId" ["name", "type"] fun entries =>
  Signal.mk <$> entries.required "name" Reader.text <*> entries.required "type" SignalType.read

def write (signal : Signal) : Document :=
  .ofFields [("name", .text signal.name), ("type", .text signal.type.name)]

end Signal

/-- A signal shown in one of the slots 1 to 4. -/
structure Icon where
  signal : Signal
  index : Nat
  deriving DecidableEq, Inhabited

namespace Icon

/-- The most icons that a blueprint shows, and the last slot. -/
def maxCount : Nat := 4

def read : Reader Icon := Reader.record "Icon" ["signal", "index"] fun entries =>
  Icon.mk <$> entries.required "signal" Signal.read <*>
    entries.required "index" (Reader.natural 8)

def write (icon : Icon) : Document :=
  .ofFields [("signal", icon.signal.write), ("index", .ofNat icon.index)]

end Icon
end FactoryBlueprint
