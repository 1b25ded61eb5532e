import FactoryBlueprint.Proofs.Blueprint.Inspection
import FactoryBlueprint.Proofs.RoundTrip.Documents
import FactoryBlueprint.Proofs.RoundTrip.Rereading

/-! # Reading back what is said about the whole

The root of a written document is read back (`read_documentOf`), and a blueprint with the header and
the tiles that are read from it is written as the same document (`documentOf_header`).
-/

namespace FactoryBlueprint.Blueprint

open FactoryBlueprint.Numbering

/-- The record that the root of a document is read as, where the blueprint is written with the given
entities and schedules. -/
def rootOf (blueprint : Blueprint) (entities schedules : List Document) : RootRecord where
  blueprint :=
    { item := kind
      label := blueprint.label
      labelColor := blueprint.labelColor
      description := blueprint.description
      icons := unlessEmpty blueprint.icons
      version := some blueprint.version
      snapToGrid := blueprint.snappingGridSize
      absoluteSnapping := if blueprint.absoluteSnapping then none else some false
      positionRelativeToGrid := blueprint.positionRelativeToGrid.filter (· ≠ .zero)
      entities := entities
      tiles := blueprint.tiles.tiles.map (·.write blueprint.origin)
      schedules := schedules
      extra := blueprint.extra }
  index := blueprint.index

/-- Documents in an array are read back as they are. -/
theorem holdsDefault_documents {fields : List (String × Document)} {key : String}
    {documents : List Document}
    (found : fields.lookup key = (unlessEmpty documents).map Document.array) :
    HoldsDefault fields key [] (Reader.list Reader.document) documents := by
  refine .of_lookup (fun document => document) ?_ fun _ _ => rfl
  rw [List.map_id', found]

variable {blueprint : Blueprint}

theorem holds_documentFields (apart : blueprint.KeysApart) (fits : blueprint.HeaderFits)
    (sound : blueprint.Sound) (entities schedules : List Document) :
    BlueprintRecord.Holds (blueprint.documentFields entities schedules)
      (blueprint.rootOf entities schedules).blueprint := by
  have found := lookup_documentFields apart entities schedules
  refine ⟨⟨_, found "item", rfl⟩, ?_, ?_, ?_, ?_, ?_, ?_, ?_, ?_, ?_, ?_, ?_, ?_⟩
  · exact .of_lookup Document.text (found "label") (fun _ _ => rfl) (.of_mismatch rfl)
  · exact .of_lookup Color.write (found "label_color")
      (fun color given => Color.read_write (sound.color color given)) Color.solid_read
  · exact .of_lookup Document.text (found "description") (fun _ _ => rfl) (.of_mismatch rfl)
  · refine .of_lookup (fun icons => .array (icons.map Icon.write)) ((found "icons").trans ?_)
      (fun icons mem => Reader.list_map_write fun icon inIcons => Icon.read_write ?_) (.of_mismatch rfl)
    · change (unlessEmpty (blueprint.icons.map (·.write))).map Document.array = _
      rw [unlessEmpty_map, Option.map_map]
      rfl
    · exact sound.icon_lt icon (eq_of_mem_unlessEmpty mem ▸ inIcons)
  · exact .of_lookup Version.write (found "version")
      (fun version _ => Version.read_write version) (.of_mismatch rfl)
  · exact .of_lookup GridPosition.write (found "snap-to-grid")
      (fun size given => GridPosition.read_write (fits.gridSize size given)) (.of_mismatch rfl)
  · refine .of_lookup Document.bool ((found "absolute-snapping").trans ?_) (fun _ _ => rfl)
      (.of_mismatch rfl)
    cases absolute : blueprint.absoluteSnapping <;> simp [rootOf, absolute]
  · refine .of_lookup GridPosition.write (found "position-relative-to-grid")
      (fun position given => GridPosition.read_write ?_) (.of_mismatch rfl)
    exact fits.relative position (Option.mem_filter_iff.mp given).1
  · exact holdsDefault_documents (found "entities")
  · exact holdsDefault_documents (found "tiles")
  · exact holdsDefault_documents (found "schedules")
  · refine Fields.rest_eq (Fields.sorted_overwrite apart.sorted _) apart.sorted apart.undeclared
      fun key other => (found key).trans ?_
    simp only [BlueprintRecord.names, List.mem_cons, List.not_mem_nil, or_false, not_or] at other
    simp [other, rootOf]

/-- The root of a written document is read back. -/
theorem read_documentOf (apart : blueprint.KeysApart) (fits : blueprint.HeaderFits)
    (sound : blueprint.Sound) (entities schedules : List Document) :
    RootRecord.read kind (blueprint.documentOf entities schedules) =
      .ok (blueprint.rootOf entities schedules) := by
  have sorted : (blueprint.documentFields entities schedules).Sorted :=
    Fields.sorted_overwrite apart.sorted _
  refine RootRecord.read_eq_ok_iff.mpr ⟨_, _, rfl, field?_documentOf entities schedules,
    RootRecord.readIndex_eq_ok_iff.mpr ⟨?_, fits.index⟩, ?_, rfl⟩
  · exact field?_documentOf_index blueprint entities schedules
  · exact BlueprintRecord.read_eq_ok_iff.mpr ⟨_, rfl, Reader.repeated?_of_sorted sorted _ _ _,
      holds_documentFields apart fits sound entities schedules⟩

/-- A blueprint with the header that is read from a document is written as the same document, if its
tiles are told from the origin of the first. -/
theorem documentOf_header {after : Blueprint} {table : PrototypeTable} {list : ListId}
    (entities schedules : List Document)
    (rest : after = { header table list (blueprint.rootOf entities schedules) with
      entities := after.entities
      tiles := after.tiles
      schedules := after.schedules
      extent := after.extent })
    (laid : after.tiles.tiles = blueprint.tiles.tiles.map (·.relativeTo blueprint.origin)) :
    after.documentOf entities schedules = blueprint.documentOf entities schedules := by
  have label : after.label = blueprint.label := by rw [rest]; rfl
  have color : after.labelColor = blueprint.labelColor := by rw [rest]; rfl
  have description : after.description = blueprint.description := by rw [rest]; rfl
  have icons : after.icons = blueprint.icons := by rw [rest]; exact unlessEmpty_getD _
  have version : after.version = blueprint.version := by rw [rest]; rfl
  have size : after.snappingGridSize = blueprint.snappingGridSize := by rw [rest]; rfl
  have absolute : after.absoluteSnapping = blueprint.absoluteSnapping := by
    rw [rest]
    cases absolute : blueprint.absoluteSnapping <;> simp [header, rootOf, absolute]
  have relative : after.positionRelativeToGrid =
      blueprint.positionRelativeToGrid.filter (· ≠ .zero) := by rw [rest]; rfl
  have index : after.index = blueprint.index := by rw [rest]; rfl
  have extra : after.extra = blueprint.extra := by rw [rest]; rfl
  have origin : after.origin = .zero := by rw [rest]; rfl
  have tiles : after.tiles.tiles.map (·.write after.origin) =
      blueprint.tiles.tiles.map (·.write blueprint.origin) := by
    rw [laid, origin, List.map_map]
    exact List.map_congr_left fun tile _ => tile.write_relativeTo blueprint.origin
  have filtered : (blueprint.positionRelativeToGrid.filter (· ≠ .zero)).filter (· ≠ .zero) =
      blueprint.positionRelativeToGrid.filter (· ≠ .zero) := by
    cases given : blueprint.positionRelativeToGrid with
    | none => rfl
    | some position => by_cases zero : position = .zero <;> simp [Option.filter, zero]
  rw [documentOf, documentOf, documentFields, documentFields, exportHeader, exportHeader, label,
    color, description, icons, version, size, absolute, relative, filtered, index, extra, tiles]

end FactoryBlueprint.Blueprint
