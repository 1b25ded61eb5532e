import FactoryBlueprint.Proofs.Blueprint.Readable
import FactoryBlueprint.Proofs.Vetting

/-! # Reading a document in another mode

A document is read step by step in the same way in every mode, and the id of the list that is made
has no part in it: in any mode that looks at structure, a document can be read as far as the mode
accepts the warnings that strict mode reports (`vets_ofDocument`).
-/

namespace FactoryBlueprint

open Reported

/-! ### Numbers that can be resolved -/

namespace Numbering

variable {numbering : Numbering}

theorem isNumber_of_namesEnd {all : List (WireEnd Association)} {points : List (WireEnd Nat)}
    (named : List.Forall₂ numbering.NamesEnd all points) :
    ∀ far ∈ points, IsNumber numbering.keys.length far.target := by
  intro far mem
  obtain ⟨_, -, names⟩ := exists_of_mem_right named mem
  exact names.1.isNumber

/-- Numbers can be resolved if they are those of entities. -/
theorem exists_resolveAll_iff (numbering : Numbering) (path : String) (numbers : List Nat) :
    (∃ associations, numbering.resolveAll path numbers = .ok associations) ↔
      ∀ number ∈ numbers, IsNumber numbering.keys.length number := by
  refine ⟨?_, exists_resolveAll path⟩
  rintro ⟨associations, resolved⟩ number mem
  obtain ⟨_, -, names⟩ := exists_of_mem_left (resolveAll_eq_ok_iff.mp resolved) mem
  exact names.isNumber

/-- Wires can be resolved if their far ends are entities. -/
theorem exists_resolveConnections_iff (numbering : Numbering) (path : String)
    (record : ConnectionsRecord) :
    (∃ connections, numbering.resolveConnections path record = .ok connections) ↔
      record.Numbered numbering.keys.length := by
  refine ⟨?_, exists_resolveConnections path⟩
  rintro ⟨connections, resolved⟩
  obtain ⟨circuit, copper⟩ := resolveConnections_eq_ok_iff.mp resolved
  constructor
  · intro side color
    obtain ⟨_, named, -⟩ := circuit side color
    exact isNumber_of_namesEnd named
  · intro side
    obtain ⟨_, named, -⟩ := copper side
    exact isNumber_of_namesEnd named

end Numbering

/-- The icons of a blueprint are checked alike, but for what becomes of the warnings. -/
theorem Icon.vets_check (icons : List Icon) (mode : ValidationMode) (table : PrototypeTable) :
    Vets (mode ≠ .none) Eq mode (ofCheck (check icons .strict table))
      (ofCheck (check icons mode table)) := by
  by_cases unchecked : mode = .none
  · subst unchecked
    refine ⟨fun _ warnings _ => .inl ⟨[], (), rfl, rfl, rfl⟩, fun looks => absurd rfl looks⟩
  · rw [check, if_neg nofun, check, if_neg unchecked]
    split
    · exact .error _ _
    · cases slotError? icons with
      | some error => exact .error error error
      | none => exact .check _

namespace Blueprint

variable {looks : Prop}

/-- The blueprint with another id for its entity list. -/
def inList (blueprint : Blueprint) (list : ListId) : Blueprint :=
  { blueprint with entities := { blueprint.entities with id := list } }

/-! ### Entities -/

/-- The checks that an entity passes when it is read, in order. -/
theorem importEntity_eq (mode : ValidationMode) {before : Blueprint}
    (vacant : before.entities.Vacant) (path : String) (document : Document) :
    ofPair (importEntity mode before path document) =
      andThen (quiet (EntityRecord.read.locate path document)) fun record =>
        andThen (ofCheck (mode.accept
            ((record.entity before.table).warnings before.table))) fun _ =>
          andThen (ofCheck (mode.accept (before.collisions (record.entity before.table)))) fun _ =>
            quiet ((before.extent.extendOver
                ((record.entity before.table).worldBox before.table .zero)).map fun grown =>
              ({ before with
                  entities := before.entities.append before.table (record.entity before.table)
                  extent := grown }, ⟨before.entities.arena.nextKey, record, path⟩)) := by
  unfold importEntity collisions
  cases EntityRecord.read.locate path document with
  | error error => rfl
  | ok record =>
    simp only [EntityList.insert_entity_eq vacant, quiet, ofCheck, ofPair, andThen, bind, Except.bind,
      Except.map, pure, Except.pure]
    cases mode.accept ((record.entity before.table).warnings before.table) with
    | error error => rfl
    | ok own =>
      cases mode.accept ((before.entities.index.query
          ((record.entity before.table).worldBox before.table .zero)).filterMap
            (before.entities.collision? before.table (record.entity before.table)
              (.zero + (record.entity before.table).position))) with
      | error error => rfl
      | ok others =>
        cases before.extent.extendOver ((record.entity before.table).worldBox before.table .zero)
        <;> simp

theorem importEntities_cons (mode : ValidationMode) (before : Blueprint) (document : Document)
    (i : Nat) (rest : List (Document × Nat)) :
    ofPair (importEntities mode before ((document, i) :: rest)) =
      andThen (ofPair (importEntity mode before s!"{kind}.entities[{i}]" document))
        fun (middle, one) => andThen (ofPair (importEntities mode middle rest))
          fun (after, others) => .ok ((after, one :: others), []) := by
  rw [importEntities]
  cases importEntity mode before s!"{kind}.entities[{i}]" document with
  | error error => rfl
  | ok first =>
    obtain ⟨middle, one, own⟩ := first
    simp only [ofPair, andThen, bind, Except.bind, Except.map]
    cases importEntities mode middle rest with
    | error error => rfl
    | ok later => simp [pure, Except.pure]

theorem vets_importEntity (mode : ValidationMode) (list : ListId) {before : Blueprint}
    (vacant : before.entities.Vacant) (path : String) (document : Document) :
    Vets looks (fun a b => b = (a.1.inList list, a.2)) mode
      (ofPair (importEntity .strict before path document))
      (ofPair (importEntity mode (before.inList list) path document)) := by
  have other : (before.inList list).entities.Vacant := vacant
  rw [importEntity_eq _ vacant, importEntity_eq _ other]
  refine (Vets.same _).andThen ?_
  rintro record - _ - - - rfl
  refine (Vets.check _).andThen fun _ _ _ _ _ _ _ => ?_
  refine (Vets.check (before.collisions (record.entity before.table))).andThen
    fun _ _ _ _ _ _ _ => ?_
  exact .map _ fun grown => rfl

/-- Entities are read alike, whatever the id of the list. -/
theorem vets_importEntities (mode : ValidationMode) (list : ListId)
    (documents : List (Document × Nat)) {before : Blueprint} (vacant : before.entities.Vacant) :
    Vets looks (fun a b => b = (a.1.inList list, a.2)) mode
      (ofPair (importEntities .strict before documents))
      (ofPair (importEntities mode (before.inList list) documents)) := by
  induction documents generalizing before with
  | nil => exact .ok rfl
  | cons first rest ih =>
    obtain ⟨document, i⟩ := first
    rw [importEntities_cons, importEntities_cons]
    refine (vets_importEntity mode list vacant _ document).andThen ?_
    rintro ⟨middle, one⟩ _ _ - read - rfl
    obtain ⟨record, grown, _, _, -, -, -, -, -, -, rfl⟩ :=
      (importEntity_eq_ok_iff vacant).mp (ofPair_eq_ok_iff.mp read)
    refine (ih (EntityList.vacant_append vacant _ _)).andThen ?_
    rintro ⟨after, others⟩ - _ - - - rfl
    exact .ok rfl

/-! ### Wires -/

/-- Pending records can be connected if they name nothing but entities. -/
theorem exists_connectAll_iff (numbering : Numbering) {pending : List Pending}
    (nodup : (pending.map (·.key)).Nodup) (before : Blueprint) (stored : ∀ one ∈ pending,
      before.entities.get? one.key = some ⟨.top, .entity (one.record.entity before.table)⟩) :
    (∃ after, pending.foldlM (connectEntity numbering) before = .ok after) ↔
      ∀ one ∈ pending, one.record.Numbered numbering.keys.length := by
  refine ⟨?_, exists_connectAll numbering nodup before stored⟩
  rintro ⟨after, connected⟩ one mem
  obtain ⟨connections, neighbours, connects, -⟩ :=
    (connected_of_foldlM nodup stored connected).stored one mem
  exact ⟨(numbering.exists_resolveConnections_iff _ _).mp ⟨_, connects.connections⟩,
    (numbering.exists_resolveAll_iff _ _).mp ⟨_, connects.neighbours⟩⟩

/-- What tiles are read into: the same table, tiles and extent. -/
structure SameGround (a b : Blueprint) : Prop where
  table : b.table = a.table
  tiles : b.tiles = a.tiles
  extent : b.extent = a.extent

/-- Wires are read alike, whatever the id of the list. -/
theorem vets_connectAll (mode : ValidationMode) (list other : ListId) {before after : Blueprint}
    {pending : List Pending} (appended : Appended before pending after)
    (nodup : (pending.map (·.key)).Nodup) :
    Vets looks SameGround mode
      (quiet (pending.foldlM (connectEntity ⟨list, pending.map (·.key)⟩) after))
      (quiet (pending.foldlM (connectEntity ⟨other, pending.map (·.key)⟩)
        (after.inList other))) := by
  have table : after.table = before.table := by rw [appended.rest]
  have stored : ∀ one ∈ pending, after.entities.get? one.key =
      some ⟨.top, .entity (one.record.entity after.table)⟩ := by
    rw [table]
    exact appended.stored
  refine .quiet ?_ fun a b first second => ?_
  · exact (exists_connectAll_iff _ nodup after stored).trans
      (exists_connectAll_iff ⟨other, _⟩ nodup (after.inList other) stored).symm
  · have one := (connected_of_foldlM nodup stored first).rest
    have moved : ∀ one ∈ pending, (after.inList other).entities.get? one.key =
        some ⟨.top, .entity (one.record.entity (after.inList other).table)⟩ := stored
    have two := (connected_of_foldlM nodup moved second).rest
    rw [one, two]
    exact ⟨rfl, rfl, rfl⟩

/-! ### Tiles and schedules -/

theorem importTiles_cons (mode : ValidationMode) (before : Blueprint) (document : Document)
    (i : Nat) (rest : List (Document × Nat)) :
    importTiles mode before ((document, i) :: rest) =
      andThen (quiet (Tile.read.locate s!"{kind}.tiles[{i}]" document)) fun tile =>
        andThen (ofCheck (mode.accept (tile.warnings before.table))) fun _ =>
          andThen (ofCheck (mode.accept (before.tiles.collisions before.table tile))) fun _ =>
            andThen (quiet (before.extent.extendOver tile.box)) fun grown =>
              importTiles mode
                { before with tiles := before.tiles.append tile, extent := grown } rest := by
  rw [importTiles]
  cases Tile.read.locate s!"{kind}.tiles[{i}]" document with
  | error error => rfl
  | ok tile =>
    simp only [TileList.insert_last_eq, quiet, ofCheck, andThen, bind, Except.bind, Except.map]
    cases mode.accept (tile.warnings before.table) with
    | error error => rfl
    | ok own =>
      cases mode.accept (before.tiles.collisions before.table tile) with
      | error error => rfl
      | ok others =>
        cases before.extent.extendOver tile.box with
        | error error => rfl
        | ok grown =>
          simp only
          cases importTiles mode
              { before with tiles := before.tiles.append tile, extent := grown } rest with
          | error error => rfl
          | ok later => simp [pure, Except.pure]

theorem vets_importTiles (mode : ValidationMode) (documents : List (Document × Nat))
    {before other : Blueprint} (same : before.SameGround other) :
    Vets looks (fun _ _ => True) mode (importTiles .strict before documents)
      (importTiles mode other documents) := by
  induction documents generalizing before other with
  | nil => exact .ok trivial
  | cons first rest ih =>
    obtain ⟨document, i⟩ := first
    obtain ⟨table, tiles, extent⟩ := same
    rw [importTiles_cons, importTiles_cons, table, tiles, extent]
    refine (Vets.same _).andThen ?_
    rintro tile - _ - - - rfl
    refine (Vets.check _).andThen fun _ _ _ _ _ _ _ => ?_
    refine (Vets.check _).andThen fun _ _ _ _ _ _ _ => ?_
    refine (Vets.same _).andThen ?_
    rintro grown - _ - - - rfl
    exact ih ⟨rfl, rfl, rfl⟩

theorem importSchedule_eq (mode : ValidationMode) (table : PrototypeTable) (numbering : Numbering)
    (path : String) (document : Document) :
    importSchedule mode table numbering path document =
      andThen (quiet (Schedule.read.locate path document)) fun record =>
        andThen (quiet (numbering.resolveAll (path ++ ".locomotives") record.locomotives))
          fun locomotives => andThen (ofCheck (mode.accept (record.warnings table))) fun _ =>
            .ok (⟨record.stops, locomotives, record.extra⟩, []) := by
  rw [importSchedule]
  cases Schedule.read.locate path document with
  | error error => rfl
  | ok record =>
    simp only [quiet, ofCheck, andThen, bind, Except.bind, Except.map]
    cases numbering.resolveAll (path ++ ".locomotives") record.locomotives with
    | error error => rfl
    | ok locomotives =>
      have same : (⟨record.stops, locomotives, record.extra⟩ :
          Schedule Association).warnings table = record.warnings table := rfl
      simp only [same]
      cases mode.accept (record.warnings table) with
      | error error => rfl
      | ok warnings => simp [pure, Except.pure]

theorem vets_importSchedule (mode : ValidationMode) (table : PrototypeTable)
    (list other : ListId) (keys : List Key) (path : String) (document : Document) :
    Vets looks (fun _ _ => True) mode (importSchedule .strict table ⟨list, keys⟩ path document)
      (importSchedule mode table ⟨other, keys⟩ path document) := by
  rw [importSchedule_eq, importSchedule_eq]
  refine (Vets.same _).andThen ?_
  rintro record - _ - - - rfl
  refine (Vets.quiet (R := fun _ _ => True) ?_ fun _ _ _ _ => trivial).andThen
    fun _ _ _ _ _ _ _ => ?_
  · exact (Numbering.exists_resolveAll_iff ⟨list, keys⟩ _ _).trans
      (Numbering.exists_resolveAll_iff ⟨other, keys⟩ _ _).symm
  · exact (Vets.check _).andThen fun _ _ _ _ _ _ _ => .ok trivial

/-! ### The whole -/

/-- The steps in which a document is read. -/
theorem ofDocument_eq (table : PrototypeTable) (mode : ValidationMode) (list : ListId)
    (document : Document) : ofDocument table mode list document =
      andThen (quiet (RootRecord.read kind document)) fun root =>
        andThen (ofCheck (Icon.check (root.blueprint.icons.getD []) mode table)) fun _ =>
          andThen (ofCheck (mode.accept (unknownKeys root.blueprint.extra))) fun _ =>
            andThen (ofPair (importEntities mode (header table list root)
              root.blueprint.entities.zipIdx)) fun (placed, pending) =>
                andThen (quiet (pending.foldlM
                  (connectEntity ⟨list, pending.map (·.key)⟩) placed)) fun connected =>
                    andThen (importTiles mode connected root.blueprint.tiles.zipIdx) fun tiled =>
                      andThen (gather (root.blueprint.schedules.zipIdx.mapM fun (document, i) =>
                        importSchedule mode table ⟨list, pending.map (·.key)⟩
                          s!"{kind}.schedules[{i}]" document)) fun schedules =>
                            .ok ({ tiled with schedules := schedules }, []) := by
  unfold ofDocument
  cases RootRecord.read kind document with
  | error error => rfl
  | ok root =>
    have icons : (header table list root).icons = root.blueprint.icons.getD [] := rfl
    have extra : (header table list root).extra = root.blueprint.extra := rfl
    simp only [icons, extra, quiet, ofCheck, ofPair, gather, andThen, bind, Except.bind, Except.map]
    cases Icon.check (root.blueprint.icons.getD []) mode table with
    | error error => rfl
    | ok iconWarnings =>
      cases mode.accept (unknownKeys root.blueprint.extra) with
      | error error => rfl
      | ok keyWarnings =>
        cases importEntities mode (header table list root) root.blueprint.entities.zipIdx with
        | error error => rfl
        | ok imported =>
          obtain ⟨placed, pending, entityWarnings⟩ := imported
          simp only
          cases pending.foldlM (connectEntity ⟨list, pending.map (·.key)⟩) placed with
          | error error => rfl
          | ok connected =>
            simp only
            cases importTiles mode connected root.blueprint.tiles.zipIdx with
            | error error => rfl
            | ok laid =>
              simp only
              cases root.blueprint.schedules.zipIdx.mapM fun (one : Document × Nat) =>
                  importSchedule mode table ⟨list, pending.map Pending.key⟩
                    s!"{kind}.schedules[{one.2}]" one.1 with
              | error error => rfl
              | ok scheduled => simp [pure, Except.pure]

/-- A document is read alike in every mode, whatever the id of the list. -/
theorem vets_ofDocument (table : PrototypeTable) (mode : ValidationMode) (list other : ListId)
    (document : Document) :
    Vets (mode ≠ .none) (fun _ _ => True) mode (ofDocument table .strict list document)
      (ofDocument table mode other document) := by
  rw [ofDocument_eq, ofDocument_eq]
  refine (Vets.same _).andThen ?_
  rintro root _ _ _ rootRead _ rfl
  refine (Icon.vets_check _ mode table).andThen fun _ _ _ _ _ _ _ => ?_
  refine (Vets.check _).andThen fun _ _ _ _ _ _ _ => ?_
  refine (vets_importEntities mode other _ (vacant_header table list root)).andThen ?_
  rintro ⟨placed, pending⟩ _ _ _ imported _ rfl
  have imported := ofPair_eq_ok_iff.mp imported
  obtain ⟨appended, -⟩ := appended_of_importEntities (vacant_header table list root) imported
  obtain ⟨-, nodup⟩ := leaves_of_importEntities (quiet_eq_ok_iff.mp rootRead).1 imported
  refine (vets_connectAll mode list other appended nodup).andThen fun a _ b _ _ _ same => ?_
  refine (vets_importTiles mode _ same).andThen fun _ _ _ _ _ _ _ => ?_
  exact (Vets.gather (fun entry => vets_importSchedule mode table list other _ _ _) _).andThen
    fun _ _ _ _ _ _ _ => .ok trivial

/-- Strict mode reads what minimum mode reads. -/
theorem exists_ofDocument_strict_iff (table : PrototypeTable) (list other : ListId)
    (document : Document) : (∃ blueprint warnings,
      ofDocument table .strict list document = .ok (blueprint, warnings)) ↔
        ∃ blueprint warnings,
          ofDocument table .minimum other document = .ok (blueprint, warnings) := by
  have vets := vets_ofDocument table .minimum list other document
  constructor
  · rintro ⟨a, warnings, first⟩
    rcases vets.accepted a warnings first with ⟨left, b, -, same, -⟩ | ⟨error, refuses, -⟩
    · exact ⟨b, left, same⟩
    · exact nomatch refuses
  · rintro ⟨b, left, done⟩
    obtain ⟨a, warnings, first, -⟩ := vets.exists_strict nofun done
    exact ⟨a, warnings, first⟩

end Blueprint
end FactoryBlueprint
