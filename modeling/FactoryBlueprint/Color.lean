import FactoryBlueprint.Number.Decimal
import FactoryBlueprint.Document.Reader

/-! # Colours

A colour has red, green and blue channels and optionally alpha, either all from 0 to 1 or all from 0
to 255. Documents hold it as an object of channels or an array of three or four.
-/

namespace FactoryBlueprint

structure Color where
  r : Binary64
  g : Binary64
  b : Binary64
  a : Option Binary64
  deriving DecidableEq

/-- A channel outside 0 to 255. -/
structure Color.BadChannel where
  name : String
  value : Binary64

namespace Color

/-- The channels that the colour has, by name. -/
def channels (color : Color) : List (String × Binary64) :=
  [("r", color.r), ("g", color.g), ("b", color.b)] ++ (color.a.map fun a => ("a", a)).toList

/-- The first channel that is not from 0 to 255. -/
def badChannel? (color : Color) : Option BadChannel :=
  (color.channels.find? fun (_, value) => !(0 ≤ value && value ≤ 255)).map fun (name, value) =>
    ⟨name, value⟩

def BadChannel.message (bad : BadChannel) : String :=
  "channel must be within [0, 255], found " ++ NumberLayout.message.render bad.value

/-- Every channel is at most 1. -/
def isUnitScale (color : Color) : Bool := color.channels.all fun (_, value) => value ≤ 1

/-- The alpha channel; a colour without one is opaque on its own scale. -/
def alpha (color : Color) : Binary64 := color.a.getD (if color.isUnitScale then 1 else 255)

/-- The colour in one of its two forms, channels unchecked. -/
def readForm : Reader Color
  | .array items =>
    match items.mapM Reader.number with
    | .ok [r, g, b] => .ok ⟨r, g, b, none⟩
    | .ok [r, g, b, a] => .ok ⟨r, g, b, some a⟩
    | .ok other => .error (.broken s!"color must have 3 or 4 channels, found {other.length}")
    | .error _ => .error (.noForm "ColorRepr")
  | .object fields =>
    let read := Reader.ofObject "ColorRepr" ["r", "g", "b", "a"] fields fun entries =>
      Color.mk <$> entries.required "r" Reader.number <*> entries.required "g" Reader.number <*>
        entries.required "b" Reader.number <*> entries.optional "a" Reader.number
    match read with
    | .ok color => .ok color
    | .error _ => .error (.noForm "ColorRepr")
  | _ => .error (.noForm "ColorRepr")

def read : Reader Color := fun document => do
  let color ← readForm document
  match color.badChannel? with
  | some bad => .error (.broken bad.message)
  | none => pure color

def write (color : Color) : Document :=
  .ofFields (color.channels.map fun (name, value) => (name, .ofNumber value))

end Color
end FactoryBlueprint
