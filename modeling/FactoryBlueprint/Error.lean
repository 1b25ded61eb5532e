import FactoryBlueprint.Codec.BlueprintString
import FactoryBlueprint.Color
import FactoryBlueprint.Geometry.Extent
import FactoryBlueprint.Version
import FactoryBlueprint.Warning

/-! # Errors

An `Error` is the reason why an operation on a blueprint was refused. Faults in external data carry
the dotted path of the place where they were found.
-/

namespace FactoryBlueprint

/-- What is wrong at some place of external data. -/
inductive FormatFault where
  | mismatch (cause : Mismatch)
  | channel (bad : Color.BadChannel)
  | version (fault : Version.Fault)
  /-- A name without a signal of that name. -/
  | unknownSignalName (name : String)
  | tooManyIcons (count : Nat)
  /-- An icon slot outside 1 to 4. -/
  | iconSlot (index : Nat)
  | notAnObject
  | notAnIndex
  | wrongItem (expected found : String)
  /-- A number of an entity that is not there. -/
  | noSuchEntity (number count : Nat)

/-- A fault in external data and its place, such as `blueprint.entities[3].position`. -/
structure FormatError where
  path : String
  fault : FormatFault

/-- Why an entity cannot take a wire or run a schedule. -/
inductive ConnectionFault where
  | terminalToItself
  | unknownEntity
  | noCircuit
  | noOutputSide
  | poleToItself
  | notAPole
  | noCopperTerminals
  | notALocomotive

inductive Error where
  | format (error : FormatError)
  /-- An entity refers to one that is not in the blueprint. -/
  | danglingReference (name : String) (position : Point)
  /-- A schedule refers to a locomotive that is not in the blueprint. -/
  | danglingLocomotive (schedule slot : Nat)
  | oversize (size : Oversize)
  | wrongKind (expected found : String)
  | malformedString (fault : StringFault)
  /-- A warning where no warning is accepted. -/
  | promoted (warning : Warning)
  | indexOutOfRange (index length : Nat)
  | entityNotFound
  | notConnectable (name : String) (fault : ConnectionFault)

def FormatFault.message : FormatFault → String
  | mismatch cause => cause.message
  | channel bad => bad.message
  | version fault => fault.message
  | unknownSignalName name => s!"unknown signal name '{name}'"
  | tooManyIcons count => s!"at most {Icon.maxCount} icons are allowed, found {count}"
  | iconSlot index => s!"icon index must be between 1 and {Icon.maxCount}, found {index}"
  | notAnObject => "expected an object"
  | notAnIndex => "expected an integer in 0..=65535"
  | wrongItem expected found => s!"expected '{expected}', found '{found}'"
  | noSuchEntity number count =>
    s!"entity number {number} does not refer to an entity (1..={count})"

def FormatError.message (error : FormatError) : String := error.path ++ ": " ++ error.fault.message

def ConnectionFault.message : ConnectionFault → String
  | terminalToItself => "cannot wire a terminal to itself"
  | unknownEntity => "unknown entity"
  | noCircuit => "not circuit connectable"
  | noOutputSide => "has no output side"
  | poleToItself => "cannot wire a pole to itself"
  | notAPole => "only electric poles take copper wire"
  | noCopperTerminals => "has no copper terminals"
  | notALocomotive => "only locomotives can run a schedule"

namespace Error

/-- A fault at a place of external data. -/
def located (path : String) (fault : FormatFault) : Error := .format ⟨path, fault⟩

def message : Error → String
  | format error => "format error at " ++ error.message
  | danglingReference name position =>
    s!"'{name}' at {position.text} has a connection to an entity that is not in this blueprint"
  | danglingLocomotive schedule slot =>
    s!"schedule {schedule} references a locomotive that is not in this blueprint (slot {slot})"
  | oversize size =>
    s!"resulting blueprint would be {size.width}x{size.height} tiles; " ++
      s!"the limit is {Extent.maxTiles}x{Extent.maxTiles}"
  | wrongKind expected found => s!"expected '{expected}' blueprintable, found '{found}'"
  | malformedString fault => "malformed blueprint string: " ++ fault.message
  | promoted warning => "warning promoted under pedantic validation: " ++ warning.message
  | indexOutOfRange index length =>
    s!"index {index} out of range for collection of length {length}"
  | entityNotFound => "no such entity in this blueprint"
  | notConnectable name fault => s!"cannot connect '{name}': " ++ fault.message

end Error

/-- An error if a channel of the colour found at `path` is out of range. -/
def Color.check (color : Color) (path : String) : Except Error Unit :=
  match color.badChannel? with
  | some bad => .error (.located (path ++ "." ++ bad.name) (.channel bad))
  | none => .ok ()

/-- An error if the extent is beyond the limit. -/
def Extent.check (extent : Extent) : Except Error Unit :=
  match extent.oversize? with
  | some size => .error (.oversize size)
  | none => .ok ()

/-- The extent that also covers `box`, or an error if that is beyond the limit. -/
def Extent.extendOver (extent : Extent) (box : Box) : Except Error Extent :=
  match extent.extend box with
  | (grown, .ok ()) => .ok grown
  | (_, .error size) => .error (.oversize size)

/-- Reads a document found at `path`. -/
def Reader.locate {α : Type} (read : Reader α) (path : String) (document : Document) :
    Except Error α :=
  match read document with
  | .ok a => .ok a
  | .error cause => .error (.located path (.mismatch cause))

end FactoryBlueprint
