import FactoryBlueprint.Proofs.Blueprint.Readable
import FactoryBlueprint.Proofs.RoundTrip.Entities

/-! # Reading and writing a document

Whatever document is read, what was read can be written, and the document that is written keeps
everything of the one that was read but defaults (`ofDocument_keeps`).
-/

namespace FactoryBlueprint

open FactoryBlueprint.Numbering

theorem unlessEmpty_map {α β : Type} (f : α → β) (as : List α) :
    unlessEmpty (as.map f) = (unlessEmpty as).map (List.map f) := by
  cases as <;> rfl

theorem Reader.eq_of_bool (document : Document) (b : Bool) (reads : Reader.bool document = .ok b) :
    document = .bool b := Reader.bool_eq_ok_iff.mp reads

/-- A default that is left out is the default again. -/
theorem getD_filter_ne {α : Type} [DecidableEq α] (value : Option α) (default : α) :
    (value.filter (· ≠ default)).getD default = value.getD default := by
  cases value with
  | none => rfl
  | some a => by_cases same : a = default <;> simp [Option.filter, same]

/-- What an optional field reads as was read from some document. -/
theorem HoldsOptional.exists_read {α : Type} {fields : List (String × Document)} {key : String}
    {read : Reader α} {value : Option α} (held : HoldsOptional fields key read value) :
    ∀ a ∈ value, ∃ document, read document = .ok a := by
  intro a given
  rw [Option.mem_def.mp given] at held
  obtain ⟨document, -, reads⟩ := holdsOptional_some_iff.mp held
  exact ⟨document, reads⟩

/-- An optional position is kept where it is written. -/
theorem HoldsOptional.gridPosition {fields written : List (String × Document)} {key : String}
    {value kept : Option GridPosition} (held : HoldsOptional fields key GridPosition.read value)
    (some : ∀ position ∈ kept, position ∈ value)
    (found : written.lookup key = kept.map GridPosition.write) :
    HoldsOptional written key GridPosition.read kept := by
  refine .of_lookup GridPosition.write found (fun position given => ?_) (.of_mismatch rfl)
  obtain ⟨document, reads⟩ := held.exists_read position (some position given)
  exact GridPosition.read_write (GridPosition.fits_of_read reads)

/-- Icons are kept where they are written. -/
theorem HoldsOptional.icons {fields written : List (String × Document)} {key : String}
    {value : Option (List Icon)} (held : HoldsOptional fields key (Reader.list Icon.read) value)
    (found : written.lookup key =
      (unlessEmpty ((value.getD []).map (·.write))).map Document.array) :
    HoldsOptional written key (Reader.list Icon.read) (unlessEmpty (value.getD [])) := by
  rw [unlessEmpty_map, Option.map_map] at found
  refine .of_lookup _ found (fun icons given => Reader.list_map_write fun icon mem => ?_)
    (.of_mismatch rfl)
  have told : icons ∈ value := by
    cases value with
    | none => exact nomatch given
    | some icons => exact congrArg some (eq_of_mem_unlessEmpty given).symm
  obtain ⟨document, reads⟩ := held.exists_read icons told
  obtain ⟨_, -, paired⟩ := Reader.list_eq_ok_iff.mp reads
  obtain ⟨_, _, readIcon⟩ := exists_of_mem_right paired mem
  obtain ⟨_, -, within⟩ := Icon.read_eq_ok_iff.mp readIcon
  obtain ⟨_, -, index⟩ := within.index
  exact Icon.read_write (Reader.natural_eq_ok_iff.mp index).2

/-- The documents in an array are read as they are. -/
theorem HoldsDefault.documents {fields : List (String × Document)} {key : String}
    {documents : List Document}
    (held : HoldsDefault fields key [] (Reader.list Reader.document) documents) :
    (Document.object fields).itemsAt [key] = documents := by
  have same := held.items.imp fun item document reads => (Except.ok.inj reads : item = document)
  rwa [List.forall₂_eq_eq_eq] at same

namespace Blueprint

variable {table : PrototypeTable} {list : ListId} {root : RootRecord}
  {entities : List EntityRecord} {tiles : List Tile} {schedules : List (Schedule Nat)}
  {blueprint : Blueprint}

theorem itemsAt_documentFields (entities schedules : List Document) (key : String) :
    (Document.object (blueprint.documentFields entities schedules)).itemsAt [key] =
      (blueprint.documentOf entities schedules).itemsAt ["blueprint", key] := by
  rw [Document.itemsAt_cons (blueprint.documentOf entities schedules), field?_documentOf,
    Option.map_some, Option.getD_some]

/-- A blueprint that was built from records keeps what they tell. -/
theorem Built.kept (built : Built table list root entities tiles schedules blueprint)
    (apart : blueprint.KeysApart) {fields : Fields Document}
    (formed : (Document.object fields).WellFormed) (isKind : root.blueprint.item = kind)
    (held : BlueprintRecord.Holds fields root.blueprint)
    (entitiesRead : List.Forall₂ (fun document record => EntityRecord.read document = .ok record)
      root.blueprint.entities entities)
    (tilesRead : List.Forall₂ (fun document tile => Tile.read document = .ok tile)
      root.blueprint.tiles tiles)
    (schedulesRead : List.Forall₂ (fun document schedule => Schedule.read document = .ok schedule)
      root.blueprint.schedules schedules) :
    BlueprintKept (.object fields) (.object (blueprint.documentFields
      (entities.zipIdx.map fun (record, i) => record.rewrite table (i + 1))
      (schedules.map Schedule.write))) := by
  have found := lookup_documentFields apart
    (entities.zipIdx.map fun (record, i) => record.rewrite table (i + 1))
    (schedules.map Schedule.write)
  have inner := fun key => @itemsAt_documentFields blueprint
    (entities.zipIdx.map fun (record, i) => record.rewrite table (i + 1))
    (schedules.map Schedule.write) key
  have extra : blueprint.extra = root.blueprint.extra := by rw [built.rest]; rfl
  have rest := Fields.lookup_rest formed.sorted BlueprintRecord.names
  rw [held.extra, ← extra] at rest
  have label : blueprint.label = root.blueprint.label := by rw [built.rest]; rfl
  have color : blueprint.labelColor = root.blueprint.labelColor := by rw [built.rest]; rfl
  have description : blueprint.description = root.blueprint.description := by rw [built.rest]; rfl
  have icons : blueprint.icons = root.blueprint.icons.getD [] := by rw [built.rest]; rfl
  have version : blueprint.version = root.blueprint.version.getD .current := by
    rw [built.rest]; rfl
  have size : blueprint.snappingGridSize = root.blueprint.snapToGrid := by rw [built.rest]; rfl
  have absolute : blueprint.absoluteSnapping = root.blueprint.absoluteSnapping.getD true := by
    rw [built.rest]; rfl
  have relative : blueprint.positionRelativeToGrid = root.blueprint.positionRelativeToGrid := by
    rw [built.rest]; rfl
  refine ⟨?_, ?_, ?_, ?_, ?_, ?_, ?_, ?_, ?_, ?_, ?_, ?_, ?_, fun key other => ?_⟩
  · rw [Document.field?_object, found, field?_of_holds_text held.item, isKind]
    rfl
  · refine .of_lookup held.label Reader.eq_of_text ((found "label").trans ?_)
    rw [label]
    rfl
  · refine ⟨root.blueprint.labelColor, held.labelColor, .of_lookup Color.write
      ((found "label_color").trans ?_) (fun color given => ?_) Color.solid_read⟩
    · rw [color]
      rfl
    · obtain ⟨document, reads⟩ := held.labelColor.exists_read color given
      exact Color.read_write (Color.badChannel?_of_read reads)
  · refine .of_lookup held.description Reader.eq_of_text ((found "description").trans ?_)
    rw [description]
    rfl
  · refine ⟨root.blueprint.icons, _, held.icons, held.icons.icons ((found "icons").trans ?_),
      unlessEmpty_getD _⟩
    rw [icons]
    rfl
  · refine ⟨root.blueprint.version, held.version, ⟨_, found "version", ?_⟩⟩
    rw [version]
    exact Version.read_write _
  · refine ⟨root.blueprint.snapToGrid, held.snapToGrid,
      held.snapToGrid.gridPosition (fun _ given => given) ((found "snap-to-grid").trans ?_)⟩
    rw [size]
    rfl
  · refine .of_default Document.bool true held.absoluteSnapping Reader.eq_of_bool
      (fun b same => Document.bool.inj same) (fun yes => ?_) fun no => ?_
    · rw [Document.field?_object, found, absolute, yes]
      rfl
    · have off := Bool.eq_false_of_not_eq_true no
      rw [Document.field?_object, found, absolute, off]
      rfl
  · refine ⟨root.blueprint.positionRelativeToGrid,
      root.blueprint.positionRelativeToGrid.filter (· ≠ .zero), held.relative,
      held.relative.gridPosition (fun position given => ?_)
        ((found "position-relative-to-grid").trans ?_), ?_⟩
    · exact (Option.mem_filter_iff.mp given).1
    · rw [relative]
      rfl
    · exact getD_filter_ne _ _
  · rw [inner, itemsAt_entities apart, held.entities.documents, List.length_map,
      List.length_zipIdx, entitiesRead.length_eq]
  · intro i old new here there
    rw [held.entities.documents] at here
    rw [inner, itemsAt_entities apart, List.getElem?_map, List.getElem?_zipIdx] at there
    obtain ⟨bound, -⟩ := List.getElem?_eq_some_iff.mp here
    have inRecords := List.getElem?_eq_getElem (entitiesRead.length_eq ▸ bound)
    rw [inRecords] at there
    obtain rfl := Option.some.inj there
    have reads := (forall₂_iff_getElem?.mp entitiesRead).2 i old _ here inRecords
    have each := formed.itemsAt "entities"
    rw [held.entities.documents] at each
    rw [Nat.zero_add]
    exact EntityRecord.kept old _ table i (each old (List.mem_of_getElem? here)) reads
  · have each := formed.itemsAt "tiles"
    rw [held.tiles.documents] at each ⊢
    rw [inner, itemsAt_tiles apart, built.origin_eq, built.laid]
    exact forall₂_kept each tilesRead Tile.kept
  · have each := formed.itemsAt "schedules"
    rw [held.schedules.documents] at each ⊢
    rw [inner, itemsAt_schedules apart]
    exact forall₂_kept each schedulesRead Schedule.kept
  · rw [Document.field?_object, found, rest, if_neg other, Document.field?_object]
    simp only [BlueprintRecord.names, List.mem_cons, List.not_mem_nil, or_false, not_or] at other
    simp [other]

theorem field?_documentOf_index (blueprint : Blueprint) (entities schedules : List Document) :
    (blueprint.documentOf entities schedules).field? "index" =
      blueprint.index.map Document.ofNat := by
  rw [documentOf, Document.field?_ofFields, Fields.overwrite_cons,
    Fields.lookup_overwrite_optionalField, if_pos rfl, Fields.lookup_insert,
    if_neg (by decide), List.lookup_nil, Option.or_none]

/-- Whatever was read can be written, and nothing but defaults is lost. -/
theorem ofDocument_keeps {mode : ValidationMode} {before : Document} {warnings : List Warning}
    (formed : before.WellFormed)
    (read : ofDocument table mode list before = .ok (blueprint, warnings)) :
    ∃ after, blueprint.toDocument = .ok after ∧ before.Kept after := by
  have reachable : Reachable (fun _ _ => True) blueprint := ⟨blueprint, .read read, .start⟩
  obtain ⟨root, entities, tiles, schedules, records, built⟩ := built_of_ofDocument read
  obtain ⟨fields, inner, rfl, found, indexRead, blueprintRead, isKind⟩ :=
    RootRecord.read_eq_ok_iff.mp records.rootRead
  obtain ⟨told, rfl, -, held⟩ := BlueprintRecord.read_eq_ok_iff.mp blueprintRead
  refine ⟨_, built.toDocument_eq, ?_, _, _, found, field?_documentOf _ _, ?_⟩
  · have index : blueprint.index = root.index := by rw [built.rest]; rfl
    rw [field?_documentOf_index, index]
    exact (RootRecord.readIndex_eq_ok_iff.mp indexRead).1.symm
  · exact built.kept reachable.keysApart (formed.lookup found) isKind held records.entitiesRead
      records.tilesRead records.schedulesRead

/-- A pole with one neighbour and a key that no kind knows, as a document. -/
def poleDocument (number neighbour : Nat) (x : Int) : Document :=
  .object [("entity_number", .ofNat number), ("mark", .bool true), ("name", .text "pole"),
    ("neighbours", .array [.ofNat neighbour]),
    ("position", .object [("x", .integer x), ("y", .integer 2)])]

/-- The same pole as a record. -/
def poleRecord (number neighbour : Nat) (x : Int) : EntityRecord :=
  ⟨"pole", some number, ⟨.ofInt x, .ofInt 2⟩, none, none, some [neighbour], none, none,
    [("mark", .bool true)]⟩

/-- Two poles that are joined, with a label and a key without a value. -/
def polesDocument : Document :=
  .object [("blueprint", .object [
    ("entities", .array [poleDocument 1 2 1, poleDocument 2 1 5]), ("item", .text "blueprint"),
    ("label", .text "line"), ("remark", .null)])]

theorem wellFormed_poleDocument {number neighbour : Nat} {x : Int} (own : number < 2 ^ 63)
    (other : neighbour < 2 ^ 63) (low : -(2 ^ 63) ≤ x) (high : x < 2 ^ 64) :
    (poleDocument number neighbour x).WellFormed := by
  refine .object (Fields.sorted_of_keys ["entity_number", "mark", "name", "neighbours", "position"]
    rfl (by decide)) ?_
  simp only [List.forall_mem_cons, Document.ofNat]
  refine ⟨.integer (by omega) (by omega), .bool _, .text _, .array ?_, .object ?_ ?_, by simp⟩
  · exact List.forall_mem_singleton.mpr (.integer (by omega) (by omega))
  · exact Fields.sorted_of_keys ["x", "y"] rfl (by decide)
  · simp only [List.forall_mem_cons]
    exact ⟨.integer low high, .integer (by decide) (by decide), by simp⟩

theorem wellFormed_polesDocument : polesDocument.WellFormed := by
  refine .object (List.pairwise_singleton _ _) (List.forall_mem_singleton.mpr (.object ?_ ?_))
  · exact Fields.sorted_of_keys ["entities", "item", "label", "remark"] rfl (by decide)
  simp only [List.forall_mem_cons]
  refine ⟨.array ?_, .text _, .text _, .null, by simp⟩
  simp only [List.forall_mem_cons]
  refine ⟨?_, ?_, by simp⟩
  · apply wellFormed_poleDocument <;> decide
  · apply wellFormed_poleDocument <;> decide

theorem numbered_poleRecord {number neighbour count : Nat} (x : Int)
    (is : IsNumber count neighbour) : (poleRecord number neighbour x).Numbered count := by
  refine ⟨⟨fun side color far mem => ?_, fun side far mem => ?_⟩, ?_⟩
  · cases side <;> cases color <;> exact absurd mem List.not_mem_nil
  · cases side <;> exact absurd mem List.not_mem_nil
  · exact List.forall_mem_singleton.mpr is

theorem exists_read_polesDocument : ∃ blueprint warnings,
    ofDocument .empty .minimum ⟨0⟩ polesDocument = .ok (blueprint, warnings) := by
  have records : ∃ root : RootRecord, root.blueprint.icons = none ∧
      Records polesDocument root [poleRecord 1 2 1, poleRecord 2 1 5] [] [] :=
    ⟨_, rfl, rfl, .cons rfl (.cons rfl .nil), .nil, .nil⟩
  obtain ⟨root, icons, records⟩ := records
  refine exists_ofDocument records ⟨?_, ?_, nofun, exists_ok_of_isOk (by decide +kernel)⟩
  · rw [icons]
    exact ⟨_, rfl⟩
  · simp only [List.forall_mem_cons]
    exact ⟨numbered_poleRecord 1 ⟨by decide, by decide⟩, numbered_poleRecord 5 ⟨by decide, by decide⟩,
      by simp⟩

theorem keeps_joined_poles : polesDocument.WellFormed ∧ ∃ blueprint warnings after,
    ofDocument .empty .minimum ⟨0⟩ polesDocument = .ok (blueprint, warnings) ∧
      blueprint.toDocument = .ok after ∧ polesDocument.Kept after := by
  obtain ⟨blueprint, warnings, read⟩ := exists_read_polesDocument
  obtain ⟨after, written, kept⟩ := ofDocument_keeps wellFormed_polesDocument read
  exact ⟨wellFormed_polesDocument, blueprint, warnings, after, read, written, kept⟩

end Blueprint
end FactoryBlueprint
