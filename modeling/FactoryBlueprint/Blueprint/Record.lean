import FactoryBlueprint.Error

/-! # Blueprint documents

The root of a document is an object that holds a blueprint under its kind, and possibly an index.
The objects within the blueprint are left as documents here.
-/

namespace FactoryBlueprint

/-- A blueprint as a document holds it. -/
structure BlueprintRecord where
  item : String
  label : Option String
  labelColor : Option Color
  description : Option String
  icons : Option (List Icon)
  version : Option Version
  snapToGrid : Option GridPosition
  absoluteSnapping : Option Bool
  positionRelativeToGrid : Option GridPosition
  entities : List Document
  tiles : List Document
  schedules : List Document
  extra : Fields Document

def BlueprintRecord.read : Reader BlueprintRecord :=
  Reader.openRecord "BlueprintRecord" ["item", "label", "label_color", "description", "icons",
      "version", "snap-to-grid", "absolute-snapping", "position-relative-to-grid", "entities",
      "tiles", "schedules"] fun entries =>
    BlueprintRecord.mk <$> entries.required "item" Reader.text <*>
      entries.optional "label" Reader.text <*> entries.optional "label_color" Color.read <*>
      entries.optional "description" Reader.text <*>
      entries.optional "icons" (Reader.list Icon.read) <*>
      entries.optional "version" Version.read <*>
      entries.optional "snap-to-grid" GridPosition.read <*>
      entries.optional "absolute-snapping" Reader.bool <*>
      entries.optional "position-relative-to-grid" GridPosition.read <*>
      entries.withDefault "entities" [] (Reader.list Reader.document) <*>
      entries.withDefault "tiles" [] (Reader.list Reader.document) <*>
      entries.withDefault "schedules" [] (Reader.list Reader.document) <*>
      Reading.ofValue entries.rest

/-- The root of a document: a blueprint and its index in a book. -/
structure RootRecord where
  blueprint : BlueprintRecord
  index : Option Nat

namespace RootRecord

/-- The largest index. -/
def maxIndex : Nat := 65535

/-- What a root object holds, by its first key besides the index. -/
def kindFound (root : Fields Document) : String :=
  ((Fields.keys root).find? (· ≠ "index")).getD "nothing"

/-- The index of a root object, if it has one. -/
def readIndex (root : Fields Document) : Except Error (Option Nat) :=
  match root.lookup "index" with
  | none => .ok none
  | some document =>
    match document.natural? with
    | some index => if index ≤ maxIndex then .ok (some index) else .error fault
    | none => .error fault
where
  fault : Error := .located "index" .notAnIndex

/-- Reads a document that should hold an object of the given kind. -/
def read (kind : String) : Document → Except Error RootRecord
  | .object root =>
    match root.lookup kind with
    | none => .error (.wrongKind kind (kindFound root))
    | some inner => do
      let index ← readIndex root
      let blueprint ← BlueprintRecord.read.locate kind inner
      if blueprint.item ≠ kind then
        .error (.located (kind ++ ".item") (.wrongItem kind blueprint.item))
      else pure ⟨blueprint, index⟩
  | _ => .error (.located "<root>" .notAnObject)

end RootRecord
end FactoryBlueprint
