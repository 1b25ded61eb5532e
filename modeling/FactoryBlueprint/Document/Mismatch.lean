import FactoryBlueprint.Number.Decimal
import FactoryBlueprint.Text.Quoted
import FactoryBlueprint.Document.Basic

/-! # Documents that do not have the expected form

A `Mismatch` is the reason why a document cannot be read as a value of some type. `Mismatch.message`
is its only wording.
-/

namespace FactoryBlueprint

inductive Mismatch where
  /-- A document of another sort than the one expected. -/
  | wrongType (found : Document) (expected : String)
  /-- A document of the right sort with a value that is not allowed. -/
  | wrongValue (found : Document) (expected : String)
  | missingField (name : String)
  | repeatedField (name : String)
  | wrongLength (length : Nat) (expected : String)
  /-- A name that is none of the given ones. -/
  | unknownVariant (name : String) (variants : List String)
  /-- A document that has none of the forms of a type. -/
  | noForm (type : String)
  /-- A value that breaks a rule of its own type. -/
  | broken (rule : String)
  deriving Inhabited

namespace Mismatch

/-- What a document is, in a message. -/
def describe : Document → String
  | .null => "null"
  | .bool value => "boolean `" ++ (if value then "true" else "false") ++ "`"
  | .integer value => "integer `" ++ toString value ++ "`"
  | .number value => "floating point `" ++ NumberLayout.document.render value ++ "`"
  | .text value => "string " ++ Quoted.text value
  | .array _ => "sequence"
  | .object _ => "map"

def message : Mismatch → String
  | wrongType found expected => s!"invalid type: {describe found}, expected {expected}"
  | wrongValue found expected => s!"invalid value: {describe found}, expected {expected}"
  | missingField name => s!"missing field `{name}`"
  | repeatedField name => s!"duplicate field `{name}`"
  | wrongLength length expected => s!"invalid length {length}, expected {expected}"
  | unknownVariant name variants =>
    let known := variants.map fun variant => "`" ++ variant ++ "`"
    s!"unknown variant `{name}`, expected one of " ++ ", ".intercalate known
  | noForm type => s!"data did not match any variant of untagged enum {type}"
  | broken rule => rule

end Mismatch
end FactoryBlueprint
