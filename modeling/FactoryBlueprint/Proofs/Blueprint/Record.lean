import FactoryBlueprint.Blueprint.Record
import FactoryBlueprint.Proofs.Document.Reader

/-! # What blueprint documents hold

`BlueprintRecord.Holds` says field by field which record an object holds, and `read_eq_ok_iff` that
reading gives this record and no other.
-/

namespace FactoryBlueprint.BlueprintRecord

/-- The fields that a blueprint has of its own. -/
def names : List String :=
  ["item", "label", "label_color", "description", "icons", "version", "snap-to-grid",
    "absolute-snapping", "position-relative-to-grid", "entities", "tiles", "schedules"]

/-- The record that the fields of an object make. -/
structure Holds (fields : List (String × Document)) (record : BlueprintRecord) : Prop where
  item : FactoryBlueprint.Holds fields "item" Reader.text record.item
  label : HoldsOptional fields "label" Reader.text record.label
  labelColor : HoldsOptional fields "label_color" Color.read record.labelColor
  description : HoldsOptional fields "description" Reader.text record.description
  icons : HoldsOptional fields "icons" (Reader.list Icon.read) record.icons
  version : HoldsOptional fields "version" Version.read record.version
  snapToGrid : HoldsOptional fields "snap-to-grid" GridPosition.read record.snapToGrid
  absoluteSnapping : HoldsOptional fields "absolute-snapping" Reader.bool record.absoluteSnapping
  relative : HoldsOptional fields "position-relative-to-grid" GridPosition.read
    record.positionRelativeToGrid
  entities : HoldsDefault fields "entities" [] (Reader.list Reader.document) record.entities
  tiles : HoldsDefault fields "tiles" [] (Reader.list Reader.document) record.tiles
  schedules : HoldsDefault fields "schedules" [] (Reader.list Reader.document) record.schedules
  extra : Fields.ofList (Fields.without fields names) = record.extra

theorem read_eq_ok_iff {document : Document} {record : BlueprintRecord} :
    read document = .ok record ↔ ∃ fields, document = .object fields ∧
      (⟨fields, "BlueprintRecord", names, false⟩ : Entries).repeated? = none ∧
        Holds fields record := by
  rw [read, Reader.openRecord_eq_ok_iff]
  refine exists_congr fun fields => and_congr_right fun _ => and_congr_right fun _ => ?_
  simp only [Reading.eq_ok_iff_gives, Reading.gives_seq_iff, Reading.gives_map_iff]
  simp only [Reading.Gives, Entries.required_eq_ok_iff, Entries.optional_eq_ok_iff,
    Entries.withDefault_eq_ok_iff, Reading.ofValue_eq_ok_iff]
  constructor
  · rintro ⟨_, item, _, label, _, color, _, description, _, icons, _, version, _, size, _, absolute,
      _, relative, _, entities, _, tiles, _, schedules, _, extra, rfl⟩
    exact ⟨item, label, color, description, icons, version, size, absolute, relative, entities,
      tiles, schedules, extra⟩
  · rintro ⟨item, label, color, description, icons, version, size, absolute, relative, entities,
      tiles, schedules, extra⟩
    exact ⟨_, item, _, label, _, color, _, description, _, icons, _, version, _, size, _, absolute,
      _, relative, _, entities, _, tiles, _, schedules, _, extra, rfl⟩

end FactoryBlueprint.BlueprintRecord

namespace FactoryBlueprint

theorem Document.natural?_eq_some_iff {document : Document} {n : Nat} :
    document.natural? = some n ↔ document = .ofNat n := by
  cases document with
  | integer value =>
    simp only [natural?, ofNat, Document.integer.injEq]
    split
    · rw [Option.some.injEq]
      omega
    · constructor
      · intro counts
        contradiction
      · omega
  | _ => constructor <;> intro same <;> contradiction

namespace RootRecord

/-- An index is read from the number that it is written as. -/
theorem readIndex_eq_ok_iff {fields : Fields Document} {index : Option Nat} :
    readIndex fields = .ok index ↔
      fields.lookup "index" = index.map Document.ofNat ∧ ∀ n ∈ index, n ≤ maxIndex := by
  constructor
  · intro read
    unfold readIndex at read
    split at read
    · rename_i missing
      obtain rfl := Except.ok.inj read
      exact ⟨missing, nofun⟩
    · rename_i document found
      split at read
      · rename_i n told
        split at read
        · rename_i small
          obtain rfl := Except.ok.inj read
          refine ⟨?_, fun m same => ?_⟩
          · rw [found, Document.natural?_eq_some_iff.mp told]
            rfl
          · rw [← Option.some.inj same]
            exact small
        · exact nomatch read
      · exact nomatch read
  · rintro ⟨found, small⟩
    rw [readIndex, found]
    cases index with
    | none => rfl
    | some n =>
      have told : (Document.ofNat n).natural? = some n := Document.natural?_eq_some_iff.mpr rfl
      simp [told, small n rfl]

/-- A root is read from an object that holds a blueprint and possibly an index. -/
theorem read_eq_ok_iff {kind : String} {document : Document} {root : RootRecord} :
    read kind document = .ok root ↔ ∃ fields inner, document = .object fields ∧
      fields.lookup kind = some inner ∧ readIndex fields = .ok root.index ∧
      BlueprintRecord.read inner = .ok root.blueprint ∧ root.blueprint.item = kind := by
  constructor
  · intro reads
    unfold read at reads
    split at reads
    · rename_i fields
      split at reads
      · exact nomatch reads
      · rename_i inner found
        simp only [bind_eq_ok_iff, Reader.locate_eq_ok_iff] at reads
        obtain ⟨index, indexRead, record, recordRead, result⟩ := reads
        split at result
        · exact nomatch result
        · rename_i same
          obtain rfl := Except.ok.inj result
          exact ⟨fields, inner, rfl, found, indexRead, recordRead, Decidable.not_not.mp same⟩
    · exact nomatch reads
  · rintro ⟨fields, inner, rfl, found, indexRead, recordRead, same⟩
    simp only [read, found, bind_eq_ok_iff, Reader.locate_eq_ok_iff]
    refine ⟨root.index, indexRead, root.blueprint, recordRead, ?_⟩
    rw [if_neg (Decidable.not_not.mpr same)]
    rfl

end RootRecord
end FactoryBlueprint
