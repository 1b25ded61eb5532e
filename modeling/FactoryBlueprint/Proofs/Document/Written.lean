import FactoryBlueprint.Connections.Record
import FactoryBlueprint.Proofs.Document.Fields

/-! # Looking into written documents

A record is written as fields over others, and fields of absent values are left out. This module
says what then stands under a key, and reads what stands at the end of a path of keys.
-/

namespace FactoryBlueprint

namespace Fields

variable {α : Type}

@[simp] theorem lookup_overwrite_singleton (fields : Fields α) (name key : String) (value : α) :
    (fields.overwrite [(name, value)]).lookup key =
      if key = name then some value else fields.lookup key :=
  lookup_insert fields name key value

/-- A value that is present hides what stood under its name, one that is absent does not. -/
@[simp] theorem lookup_overwrite_optionalField {β : Type} (fields : Fields Document)
    (name key : String) (write : β → Document) (value : Option β) :
    (fields.overwrite (Document.optionalField name write value)).lookup key =
      if key = name then (value.map write).or (fields.lookup key) else fields.lookup key := by
  cases value with
  | none => simp [Document.optionalField, overwrite_nil]
  | some b => exact (lookup_insert fields name key (write b)).trans (by simp)

/-- A field that is left out by a condition hides nothing under it. -/
@[simp] theorem lookup_overwrite_unless (fields : Fields α) (out : Prop) [Decidable out]
    (name key : String) (value : α) :
    (fields.overwrite (if out then [] else [(name, value)])).lookup key =
      if key = name then if out then fields.lookup key else some value else fields.lookup key := by
  split
  · simp [overwrite_nil]
  · rw [lookup_overwrite_singleton]

/-- A value that is left out by a condition hides nothing under it. -/
theorem map_unless_or {β : Type} (out : Prop) [Decidable out] (b : β) (write : β → α)
    (hidden : Option α) :
    ((if out then none else some b).map write).or hidden =
      if out then hidden else some (write b) := by
  split <;> rfl

end Fields

namespace Document

@[simp] theorem field?_object (fields : Fields Document) (key : String) :
    (object fields).field? key = fields.lookup key := rfl

@[simp] theorem field?_ofFields (bindings : List (String × Document)) (key : String) :
    (ofFields bindings).field? key = (Fields.overwrite [] bindings).lookup key := rfl

/-- The items of an array; nothing else has any. -/
def items : Document → List Document
  | .array items => items
  | _ => []

/-- The document at the end of a path of keys. -/
def follow? (document : Document) (path : List String) : Option Document :=
  path.foldlM field? document

/-- The items of the array at the end of a path of keys, none if nothing is there. -/
def itemsAt (document : Document) (path : List String) : List Document :=
  ((document.follow? path).map items).getD []

@[simp] theorem itemsAt_nil (document : Document) : document.itemsAt [] = document.items := rfl

@[simp] theorem itemsAt_cons (document : Document) (key : String) (path : List String) :
    document.itemsAt (key :: path) =
      ((document.field? key).map (·.itemsAt path)).getD [] := by
  cases found : document.field? key with
  | none => simp [itemsAt, follow?, found]
  | some inner => simp [itemsAt, follow?, found]

end Document

end FactoryBlueprint
