import FactoryBlueprint.Proofs.Blueprint.Change
import FactoryBlueprint.Proofs.Blueprint.Reading
import FactoryBlueprint.Proofs.Blueprint.Record

/-! # Reachable blueprints

A document is read by changes to a blueprint that holds nothing yet (`Blank`). So every reachable
blueprint is one that changes lead to from a blank one (`Reachable.changes`).
-/

namespace FactoryBlueprint

namespace Blueprint

/-! ### Reading a document by changes -/

theorem changes_importEntity {mode : ValidationMode} {before after : Blueprint} {path : String}
    {document : Document} {pending : Pending} {warnings : List Warning}
    (read : importEntity mode before path document = .ok (after, pending, warnings)) :
    Change True before after := by
  simp only [importEntity, bind_eq_ok_iff, Reader.locate_eq_ok_iff] at read
  obtain ⟨record, reads, own, -, ⟨placement, extent⟩, placed, result⟩ := read
  obtain ⟨rfl, -⟩ := Prod.mk.inj (Except.ok.inj result)
  have fits : (Item.entity (record.entity before.table)).Fits := by
    intro entity mem
    rw [List.mem_singleton.mp mem]
    exact EntityRecord.fits_entity reads before.table
  have change : Change True before (before.placed own (before.entities.insert before.table mode
      before.extent before.entities.length (.entity (record.entity before.table)) false)).1 :=
    .insertEntity mode _ false own fun _ => fits
  generalize before.entities.insert before.table mode before.extent before.entities.length
    (.entity (record.entity before.table)) false = inserted at placed change ⊢
  obtain ⟨entities, outcome⟩ := inserted
  obtain rfl : outcome = .ok (placement, extent) := placed
  exact change

theorem changes_importEntities {mode : ValidationMode} {documents : List (Document × Nat)}
    {before after : Blueprint} {pending : List Pending} {warnings : List Warning}
    (read : importEntities mode before documents = .ok (after, pending, warnings)) :
    Changes True before after := by
  induction documents generalizing before pending warnings with
  | nil =>
    obtain ⟨rfl, -⟩ := Prod.mk.inj (Except.ok.inj read)
    exact .refl
  | cons first rest ih =>
    obtain ⟨document, i⟩ := first
    simp only [importEntities, bind_eq_ok_iff] at read
    obtain ⟨⟨middle, one, own⟩, here, ⟨final, others, more⟩, later, result⟩ := read
    obtain ⟨rfl, -⟩ := Prod.mk.inj (Except.ok.inj result)
    exact .head (changes_importEntity here) (ih later)

theorem changes_connectEntity {numbering : Numbering} {before after : Blueprint}
    {pending : Pending} (small : (pending.record.connections.getD .empty).Small)
    (connected : connectEntity numbering before pending = .ok after) :
    Changes True before after := by
  unfold connectEntity at connected
  split at connected
  · obtain rfl := Except.ok.inj connected
    exact .refl
  · simp only [bind_eq_ok_iff] at connected
    obtain ⟨connections, resolved, neighbours, -, result⟩ := connected
    split at result
    · rename_i entities modified
      obtain rfl := Except.ok.inj result
      refine .single (.rewire modified (fun _ => rfl) fun _ _ _ => ?_)
      exact small.fits resolved
    · contradiction

theorem changes_connectAll {numbering : Numbering} {pending : List Pending}
    {before after : Blueprint}
    (small : ∀ one ∈ pending, (one.record.connections.getD .empty).Small)
    (connected : pending.foldlM (connectEntity numbering) before = .ok after) :
    Changes True before after := by
  induction pending generalizing before with
  | nil =>
    obtain rfl := Except.ok.inj connected
    exact .refl
  | cons first rest ih =>
    obtain ⟨here, later⟩ := List.forall_mem_cons.mp small
    rw [List.foldlM_cons, bind_eq_ok_iff] at connected
    obtain ⟨middle, one, others⟩ := connected
    exact (changes_connectEntity here one).trans (ih later others)

theorem changes_importTiles {mode : ValidationMode} {documents : List (Document × Nat)}
    {before after : Blueprint} {warnings : List Warning}
    (read : importTiles mode before documents = .ok (after, warnings)) :
    Changes True before after := by
  induction documents generalizing before warnings with
  | nil =>
    obtain ⟨rfl, -⟩ := Prod.mk.inj (Except.ok.inj read)
    exact .refl
  | cons first rest ih =>
    obtain ⟨document, i⟩ := first
    simp only [importTiles, bind_eq_ok_iff, Reader.locate_eq_ok_iff] at read
    obtain ⟨tile, reads, own, -, ⟨tiles, placement, extent⟩, inserted, ⟨final, more⟩, later,
      result⟩ := read
    obtain ⟨rfl, -⟩ := Prod.mk.inj (Except.ok.inj result)
    exact .head (.insertTile (fun _ => Tile.fits_of_read reads) inserted) (ih later)

/-! ### Blank blueprints -/

/-- A blueprint that holds no object yet. -/
structure Blank (blueprint : Blueprint) : Prop where
  entities : blueprint.entities = .empty blueprint.entities.id
  tiles : blueprint.tiles = .empty
  extent : blueprint.extent = .empty
  header : blueprint.HeaderFits
  sorted : blueprint.extra.Sorted
  undeclared : ∀ name ∈ BlueprintRecord.names, blueprint.extra.lookup name = none

theorem blank_empty (table : PrototypeTable) (list : ListId) : (empty table list).Blank where
  entities := rfl
  tiles := rfl
  extent := rfl
  header := ⟨by simp [empty], by simp [empty], by simp [empty], by simp [empty], by simp [empty]⟩
  sorted := List.Pairwise.nil
  undeclared _ _ := rfl

theorem fits_of_holdsOptional {fields : List (String × Document)} {name : String}
    {value : Option GridPosition} (held : HoldsOptional fields name GridPosition.read value) :
    ∀ position ∈ value, position.Fits := by
  intro position given
  rw [Option.mem_def.mp given] at held
  obtain ⟨_, -, reads⟩ := holdsOptional_some_iff.mp held
  exact GridPosition.fits_of_read reads

/-- Reading keeps the records for which references are pending. -/
theorem pending_of_importEntities {mode : ValidationMode} {documents : List (Document × Nat)}
    {before after : Blueprint} {pending : List Pending} {warnings : List Warning}
    (read : importEntities mode before documents = .ok (after, pending, warnings)) :
    ∀ one ∈ pending, ∃ document, EntityRecord.read document = .ok one.record := by
  induction documents generalizing before pending warnings with
  | nil =>
    obtain ⟨-, rest⟩ := Prod.mk.inj (Except.ok.inj read)
    obtain ⟨rfl, -⟩ := Prod.mk.inj rest
    simp
  | cons first rest ih =>
    obtain ⟨document, i⟩ := first
    simp only [importEntities, importEntity, bind_eq_ok_iff, Reader.locate_eq_ok_iff] at read
    obtain ⟨_, ⟨record, reads, _, -, _, -, here⟩, ⟨final, others, more⟩, later, result⟩ := read
    obtain rfl := Except.ok.inj here
    obtain ⟨rfl, same⟩ := Prod.mk.inj (Except.ok.inj result)
    obtain ⟨rfl, -⟩ := Prod.mk.inj same
    exact List.forall_mem_cons.mpr ⟨⟨document, reads⟩, ih later⟩

theorem blank_header {table : PrototypeTable} {list : ListId} {document : Document}
    {root : RootRecord} (read : RootRecord.read kind document = .ok root) :
    (header table list root).Blank := by
  obtain ⟨_, inner, -, -, indexRead, recordRead, -⟩ := RootRecord.read_eq_ok_iff.mp read
  obtain ⟨fields, -, -, held⟩ := BlueprintRecord.read_eq_ok_iff.mp recordRead
  have extra : Fields.ofList (Fields.without fields BlueprintRecord.names) =
      (header table list root).extra := held.extra
  refine ⟨rfl, rfl, rfl, ⟨?_, ?_, ?_, ?_, ?_⟩, ?_, ?_⟩
  · exact fits_of_holdsOptional held.snapToGrid
  · simp [header, empty]
  · exact fits_of_holdsOptional held.relative
  · exact (RootRecord.readIndex_eq_ok_iff.mp indexRead).2
  · simp [header, empty]
  · exact extra ▸ Fields.sorted_ofList _
  · exact fun name declared => extra ▸ Fields.lookup_ofList_without declared fields

theorem importSchedule_fits {mode : ValidationMode} {table : PrototypeTable}
    {numbering : Numbering} {path : String} {document : Document}
    {schedule : Schedule Association} {warnings : List Warning}
    (read : importSchedule mode table numbering path document = .ok (schedule, warnings)) :
    schedule.Fits := by
  simp only [importSchedule, bind_eq_ok_iff, Reader.locate_eq_ok_iff] at read
  obtain ⟨record, reads, _, -, _, -, result⟩ := read
  obtain ⟨rfl, -⟩ := Prod.mk.inj (Except.ok.inj result)
  have fits := Schedule.fits_of_read reads
  exact ⟨fits.stops, fits.extra⟩

theorem Initial.changes {blueprint : Blueprint} (initial : Initial blueprint) :
    ∃ start, start.Blank ∧ Changes True start blueprint := by
  cases initial with
  | empty table list => exact ⟨_, blank_empty table list, .refl⟩
  | read read =>
    simp only [ofDocument, bind_eq_ok_iff] at read
    obtain ⟨root, reads, _, -, _, -, ⟨placed, pending, _⟩, entities, connected, wires, ⟨tiled, _⟩,
      tiles, schedules, schedulesRead, result⟩ := read
    obtain ⟨rfl, -⟩ := Prod.mk.inj (Except.ok.inj result)
    have small : ∀ one ∈ pending, (one.record.connections.getD .empty).Small := by
      intro one mem
      obtain ⟨_, reads⟩ := pending_of_importEntities entities one mem
      exact EntityRecord.small_of_read reads
    have fits : ∀ schedule ∈ schedules.map (·.1), schedule.Fits := by
      intro schedule mem
      obtain ⟨one, given, rfl⟩ := List.mem_map.mp mem
      obtain ⟨_, _, reads⟩ := exists_of_mem_right (mapM_eq_ok_iff.mp schedulesRead) given
      exact importSchedule_fits reads
    have changes := (changes_importEntities entities).trans ((changes_connectAll small wires).trans
      ((changes_importTiles tiles).trans (changes_schedules fun _ _ => fits)))
    exact ⟨_, blank_header reads, changes⟩

theorem Run.changes {allowed : Blueprint → Operation → Prop} {fitting : Prop}
    {start blueprint : Blueprint} (run : Run allowed start blueprint)
    (fits : fitting → ∀ blueprint operation, allowed blueprint operation → operation.Fits) :
    Changes fitting start blueprint := by
  induction run with
  | start => exact .refl
  | @step blueprint operation _ permitted ih =>
    exact ih.trans (changes_apply operation fun fit => fits fit blueprint operation permitted)

/-- Changes lead to every reachable blueprint from a blank one. -/
theorem Reachable.changes {allowed : Blueprint → Operation → Prop} {blueprint : Blueprint}
    (reachable : Reachable allowed blueprint) (fitting : Prop)
    (fits : fitting → ∀ blueprint operation, allowed blueprint operation → operation.Fits) :
    ∃ start, start.Blank ∧ Changes fitting start blueprint := by
  obtain ⟨initial, made, run⟩ := reachable
  obtain ⟨start, blank, first⟩ := made.changes
  have weakened : Changes fitting start initial :=
    Relation.ReflTransGen.mono (fun _ _ => Change.weaken fun _ => trivial) _ _ first
  exact ⟨start, blank, weakened.trans (run.changes fits)⟩

end Blueprint
end FactoryBlueprint
