import FactoryBlueprint.Proofs.Blueprint.ReadingModes
import FactoryBlueprint.Proofs.RoundTrip.Blueprints
import FactoryBlueprint.Proofs.RoundTrip.Documents

/-! # What the table and the mode have no part in

The prototype table tells the keys of an entity's kind from its other keys, the boxes and what there
is to warn of. When a blueprint is written, the keys are joined again, so a document that was read is
written as the same document whatever the table, the mode and the list it was read into
(`toDocument_of_ofDocument`).
-/

namespace FactoryBlueprint

/-- The keys that are not an entity's own are kept in order. -/
theorem EntityRecord.sorted_rest {document : Document} {record : EntityRecord}
    (reads : EntityRecord.read document = .ok record) : record.rest.Sorted := by
  obtain ⟨fields, -, -, held⟩ := EntityRecord.read_eq_ok_iff.mp reads
  exact held.rest ▸ Fields.sorted_ofList _

/-- An entity that was read is written in the same way whatever its kind knows. -/
theorem EntityRecord.rewrite_table {record : EntityRecord} (sorted : record.rest.Sorted)
    (table other : PrototypeTable) (number : Nat) :
    record.rewrite table number = record.rewrite other number := by
  rw [rewrite, rewrite, Entity.write, Entity.write, Entity.writeFields, Entity.writeFields,
    own_entity sorted, own_entity sorted]
  rfl

namespace Blueprint

/-- Records are rewritten alike over every table. -/
theorem Records.rewrite_eq {document : Document} {root : RootRecord} {entities : List EntityRecord}
    {tiles : List Tile} {schedules : List (Schedule Nat)}
    (records : Records document root entities tiles schedules) (table other : PrototypeTable) :
    (entities.zipIdx.map fun (record, i) => record.rewrite table (i + 1)) =
      entities.zipIdx.map fun (record, i) => record.rewrite other (i + 1) := by
  refine List.map_congr_left fun entry mem => ?_
  obtain ⟨_, -, reads⟩ :=
    exists_of_mem_right records.entitiesRead (List.fst_mem_of_mem_zipIdx mem)
  exact EntityRecord.rewrite_table (EntityRecord.sorted_rest reads) table other (entry.2 + 1)

/-- Blueprints that were built from the same records are written as the same document. -/
theorem Built.toDocument_common {table other : PrototypeTable} {list list' : ListId}
    {document : Document} {root : RootRecord} {entities : List EntityRecord} {tiles : List Tile}
    {schedules : List (Schedule Nat)} {a b : Blueprint}
    (records : Records document root entities tiles schedules)
    (first : Built table list root entities tiles schedules a)
    (second : Built other list' root entities tiles schedules b) :
    ∃ written, a.toDocument = .ok written ∧ b.toDocument = .ok written := by
  have header : a.exportHeader = b.exportHeader := by rw [first.rest, second.rest]; rfl
  have extra : a.extra = b.extra := by rw [first.rest, second.rest]; rfl
  have index : a.index = b.index := by rw [first.rest, second.rest]; rfl
  refine ⟨_, first.toDocument_eq, ?_⟩
  rw [second.toDocument_eq, records.rewrite_eq table other, documentOf, documentOf, documentFields,
    documentFields, header, extra, index, first.origin_eq, second.origin_eq, first.laid,
    second.laid]

/-- A document is written back as the same document whatever the table and the mode in which it was
read. -/
theorem toDocument_of_ofDocument {table other : PrototypeTable} {mode mode' : ValidationMode}
    {list list' : ListId} {document : Document} {a b : Blueprint} {warnings warnings' : List Warning}
    (first : ofDocument table mode list document = .ok (a, warnings))
    (second : ofDocument other mode' list' document = .ok (b, warnings')) :
    ∃ written, a.toDocument = .ok written ∧ b.toDocument = .ok written := by
  obtain ⟨root, entities, tiles, schedules, records, built⟩ := built_of_ofDocument first
  obtain ⟨_, _, _, _, records', built'⟩ := built_of_ofDocument second
  obtain ⟨rfl, rfl, rfl, rfl⟩ := records.unique records'
  exact built.toDocument_common records built'

/-- A chest with a limit, as a document. -/
def chestEntry (number : Nat) : Document :=
  .object [("bar", .integer 4), ("entity_number", .ofNat number), ("name", .text "wooden-chest"),
    ("position", .object [("x", .integer 2), ("y", .integer 3)])]

/-- The same chest as a record. -/
def chestRecord (number : Nat) : EntityRecord :=
  ⟨"wooden-chest", some number, ⟨.ofInt 2, .ofInt 3⟩, none, none, none, none, none,
    [("bar", .integer 4)]⟩

/-- Two chests at the same place. -/
def chestsDocument : Document :=
  .object [("blueprint", .object [
    ("entities", .array [chestEntry 1, chestEntry 2]), ("item", .text "blueprint")])]

/-- A table that knows chests, and that they may have a limit. -/
def storageTable : PrototypeTable :=
  PrototypeTable.empty.putEntity (.building "wooden-chest" .container (.square 0.35))

theorem numbered_chestRecord (number count : Nat) : (chestRecord number).Numbered count := by
  refine ⟨⟨fun side color far mem => ?_, fun side far mem => ?_⟩, nofun⟩
  · cases side <;> cases color <;> exact absurd mem List.not_mem_nil
  · cases side <;> exact absurd mem List.not_mem_nil

theorem exists_read_chestsDocument {table : PrototypeTable} (list : ListId)
    (known : table = .empty ∨ table = storageTable) : ∃ blueprint warnings,
      ofDocument table .minimum list chestsDocument = .ok (blueprint, warnings) := by
  have records : ∃ root : RootRecord, root.blueprint.icons = none ∧
      Records chestsDocument root [chestRecord 1, chestRecord 2] [] [] :=
    ⟨_, rfl, rfl, .cons rfl (.cons rfl .nil), .nil, .nil⟩
  obtain ⟨root, icons, records⟩ := records
  refine exists_ofDocument records ⟨?_, ?_, nofun, ?_⟩
  · rw [icons]
    exact ⟨_, rfl⟩
  · simp only [List.forall_mem_cons]
    exact ⟨numbered_chestRecord 1 2, numbered_chestRecord 2 2, by simp⟩
  · rcases known with rfl | rfl <;> exact exists_ok_of_isOk (by decide +kernel)

/-- Chests that one table knows and another does not, read strictly with the one and not with the
other. -/
theorem toDocument_of_known_chests : ∃ a b warnings warnings' written,
    ofDocument storageTable .strict ⟨0⟩ chestsDocument = .ok (a, warnings) ∧
      ofDocument .empty .minimum ⟨1⟩ chestsDocument = .ok (b, warnings') ∧
      a.toDocument = .ok written ∧ b.toDocument = .ok written := by
  obtain ⟨a, warnings, first⟩ :=
    (exists_ofDocument_strict_iff storageTable ⟨0⟩ ⟨0⟩ chestsDocument).mpr
      (exists_read_chestsDocument ⟨0⟩ (.inr rfl))
  obtain ⟨b, warnings', second⟩ := exists_read_chestsDocument ⟨1⟩ (.inl rfl)
  obtain ⟨written, one, two⟩ := toDocument_of_ofDocument first second
  exact ⟨a, b, warnings, warnings', written, first, second, one, two⟩

end Blueprint
end FactoryBlueprint
