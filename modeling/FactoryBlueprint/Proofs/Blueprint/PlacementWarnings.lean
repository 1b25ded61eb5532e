import FactoryBlueprint.Proofs.Blueprint.Inspection
import FactoryBlueprint.Proofs.Blueprint.Limit
import FactoryBlueprint.Proofs.Blueprint.Filing
import FactoryBlueprint.Proofs.Blueprint.Overlaps
import FactoryBlueprint.Proofs.RoundTrip.Independence

/-! # Warnings when reading and when inspecting

Reading a document warns of each object as it comes in, and an inspection warns of the blueprint as
it stands. What a list says (`said`) grows by the warnings of each object that is appended to it, so
both tell the same (`warnings_of_ofDocument`).
-/

namespace FactoryBlueprint

/-! ### What the lists say -/

namespace EntityList

variable {table : PrototypeTable} {list after : EntityList}

/-- What there is to warn of the entity under a key by itself. -/
def ownWarnings (list : EntityList) (table : PrototypeTable) (key : Key) : List Warning :=
  (list.entity? key).elim [] (·.warnings table)

/-- What there is to warn of the entities of a list, each by itself and every two. -/
def said (list : EntityList) (table : PrototypeTable) : List Warning :=
  list.leaves.flatMap (list.ownWarnings table) ++ list.overlapWarnings table

theorem flatMap_entries (list : EntityList) (table : PrototypeTable) :
    list.entries.flatMap (fun entry => entry.2.warnings table) =
      list.leaves.flatMap (list.ownWarnings table) := by
  rw [entries, List.filterMap_eq_flatMap_toList, List.flatMap_assoc]
  refine List.flatMap_congr fun key _ => ?_
  rw [ownWarnings]
  cases list.entity? key <;> simp

/-- An entity that is appended adds its own warnings and those of its collisions. -/
theorem said_append (coherent : list.Coherent table) (filed : list.index.Filed) (entity : Entity) :
    ((list.append table entity).said table).Perm (list.said table ++ (entity.warnings table ++
      (list.index.query (entity.worldBox table .zero)).filterMap
        (list.collision? table entity (.zero + entity.position)))) := by
  have overlaps := overlapWarnings_append coherent filed entity
  have own : (list.append table entity).leaves.flatMap
      ((list.append table entity).ownWarnings table) =
        list.leaves.flatMap (list.ownWarnings table) ++ entity.warnings table := by
    have new : (list.append table entity).ownWarnings table list.arena.nextKey =
        entity.warnings table := by
      rw [ownWarnings, entity?, get?_append, if_pos rfl]
      rfl
    rw [leaves_append, List.flatMap_append, List.flatMap_singleton, new]
    congr 1
    refine List.flatMap_congr fun key mem => ?_
    rw [ownWarnings, ownWarnings, entity?, entity?, get?_append,
      if_neg (coherent.ne_nextKey mem)]
  rw [said, said, own]
  classical
  rw [List.perm_iff_count] at overlaps ⊢
  intro warning
  have here := overlaps warning
  simp only [List.count_append] at here ⊢
  omega

/-- Two lists hold the same objects, but for the wires of entities. -/
def SameButWires (list after : EntityList) : Prop :=
  ∀ key, after.get? key = list.get? key ∨ ∃ site entity connections neighbours,
    list.get? key = some ⟨site, .entity entity⟩ ∧
      after.get? key = some ⟨site, .entity { entity with
        connections := connections
        neighbours := neighbours }⟩

/-- Wires have no part in what a list says. -/
theorem said_congr (coherent : list.Coherent table) (afterCoherent : after.Coherent table)
    (filed : list.index.Filed) (afterFiled : after.index.Filed)
    (members : after.members = list.members) (same : list.SameButWires after) :
    (after.said table).Perm (list.said table) := by
  have leaves : after.leaves = list.leaves := congrArg Member.leavesOfAll members
  have own : ∀ key, after.ownWarnings table key = list.ownWarnings table key := by
    intro key
    rw [ownWarnings, ownWarnings, entity?, entity?]
    rcases same key with same | ⟨site, entity, connections, neighbours, before, now⟩
    · rw [same]
    · rw [before, now]
      rfl
  have boxes : ∀ key, after.index.box? key = list.index.box? key := by
    intro key
    rw [coherent.indexed, afterCoherent.indexed]
    rcases same key with same | ⟨site, entity, connections, neighbours, before, now⟩
    · rw [same]
    · rw [before, now]
      rfl
  rw [said, said, leaves, funext own]
  refine List.Perm.append_left _ (overlapWarnings_congr filed afterFiled coherent leaves boxes ?_)
  intro a b
  rw [overlapWarning?, overlapWarning?, entity?, entity?, entity?, entity?, worldPosition?,
    worldPosition?]
  rcases same a with first | ⟨_, _, _, _, first, now⟩ <;>
    rcases same b with second | ⟨_, _, _, _, second, later⟩
  · rw [first, second]
  · rw [first, second, later]
    rfl
  · rw [first, second, now]
    rfl
  · rw [first, second, now, later]
    rfl

end EntityList

namespace TileList

variable {list : TileList}

/-- What there is to warn of the tiles of a list, each by itself and every two. -/
def said (list : TileList) (table : PrototypeTable) : List Warning :=
  list.tiles.flatMap (·.warnings table) ++ list.overlapWarnings table

/-- A tile that is appended adds its own warnings and those of its collisions. -/
theorem said_append (coherent : list.Coherent) (filed : list.index.Filed) (table : PrototypeTable)
    (tile : Tile) : ((list.append tile).said table).Perm
      (list.said table ++ (tile.warnings table ++ list.collisions table tile)) := by
  have overlaps := overlapWarnings_append coherent filed table tile
  rw [said, said, tiles_append coherent, List.flatMap_append, List.flatMap_singleton]
  classical
  rw [List.perm_iff_count] at overlaps ⊢
  intro warning
  have here := overlaps warning
  simp only [List.count_append] at here ⊢
  omega

end TileList

namespace Blueprint

variable {before after : Blueprint}

/-! ### Reading -/

/-- What entities that are read add to what their list says is what was warned of. -/
theorem said_of_importEntities {documents : List (Document × Nat)} {pending : List Pending}
    {warnings : List Warning} (coherent : before.Coherent) (filed : before.entities.index.Filed)
    (read : importEntities .strict before documents = .ok (after, pending, warnings)) :
    (after.entities.said before.table).Perm (before.entities.said before.table ++ warnings) ∧
      after.entities.index.Filed := by
  induction documents generalizing before pending warnings with
  | nil =>
    obtain ⟨rfl, same⟩ := Prod.mk.inj (Except.ok.inj read)
    obtain ⟨-, rfl⟩ := Prod.mk.inj same
    exact ⟨.of_eq (List.append_nil _).symm, filed⟩
  | cons first rest ih =>
    obtain ⟨document, i⟩ := first
    simp only [importEntities, bind_eq_ok_iff] at read
    obtain ⟨⟨middle, one, own⟩, here, ⟨final, others, more⟩, later, result⟩ := read
    obtain ⟨rfl, same⟩ := Prod.mk.inj (Except.ok.inj result)
    obtain ⟨-, rfl⟩ := Prod.mk.inj same
    have middleCoherent := (changes_importEntity here).coherent coherent
    obtain ⟨record, grown, _, _, -, accepted, allowed, -, -, rfl, rfl⟩ :=
      (importEntity_eq_ok_iff coherent.entities.vacant).mp here
    obtain rfl := Except.ok.inj accepted
    obtain rfl := Except.ok.inj allowed
    obtain ⟨said, filed'⟩ := ih middleCoherent
      (filed.add coherent.entities.room_nextKey _) later
    have grows := EntityList.said_append coherent.entities filed (record.entity before.table)
    refine ⟨said.trans ((grows.append_right more).trans (.of_eq ?_)), filed'⟩
    simp only [List.append_assoc]
    rfl

/-- What tiles that are read add to what their list says is what was warned of. -/
theorem said_of_importTiles {documents : List (Document × Nat)} {warnings : List Warning}
    (coherent : before.tiles.Coherent) (filed : before.tiles.index.Filed)
    (read : importTiles .strict before documents = .ok (after, warnings)) :
    (after.tiles.said before.table).Perm (before.tiles.said before.table ++ warnings) := by
  induction documents generalizing before warnings with
  | nil =>
    obtain ⟨rfl, rfl⟩ := Prod.mk.inj (Except.ok.inj read)
    exact .of_eq (List.append_nil _).symm
  | cons first rest ih =>
    obtain ⟨document, i⟩ := first
    simp only [importTiles, bind_eq_ok_iff, Reader.locate_eq_ok_iff] at read
    obtain ⟨tile, -, own, accepted, ⟨tiles, placement, extent⟩, inserted, ⟨final, more⟩, later,
      result⟩ := read
    obtain ⟨rfl, rfl⟩ := Prod.mk.inj (Except.ok.inj result)
    have middleCoherent := coherent.insert inserted
    obtain ⟨⟨_, allowed, rfl⟩, -, rfl⟩ := TileList.insert_eq_ok_iff.mp inserted
    obtain rfl := Except.ok.inj accepted
    obtain rfl := Except.ok.inj allowed
    have middleFiled : (before.tiles.append tile).index.Filed :=
      filed.add coherent.room_nextKey _
    have said : (final.tiles.said before.table).Perm
        ((before.tiles.append tile).said before.table ++ more) :=
      @ih { before with tiles := before.tiles.append tile, extent := extent } more middleCoherent
        middleFiled later
    have both := said.trans
      ((TileList.said_append coherent filed before.table tile).append_right more)
    simpa only [List.append_assoc] using both

/-- References that are read change nothing but wires. -/
theorem Connected.sameButWires {numbering : Numbering} {pending : List Pending}
    (connected : Connected numbering before pending after) (stored : ∀ one ∈ pending,
      before.entities.get? one.key = some ⟨.top, .entity (one.record.entity before.table)⟩) :
    before.entities.SameButWires after.entities := by
  intro key
  by_cases mem : key ∈ pending.map (·.key)
  · obtain ⟨one, inPending, rfl⟩ := List.mem_map.mp mem
    obtain ⟨connections, neighbours, -, now⟩ := connected.stored one inPending
    exact .inr ⟨_, _, connections, neighbours, stored one inPending, now⟩
  · exact .inl (connected.kept key mem)

/-- Schedules are warned of as they are read. -/
theorem flatMap_of_importSchedules {table : PrototypeTable} {numbering : Numbering}
    (path : Nat → String) {documents : List Document}
    {schedules : List (Schedule Association × List Warning)}
    (read : documents.zipIdx.mapM (fun one =>
      importSchedule .strict table numbering (path one.2) one.1) = .ok schedules) :
    schedules.flatMap (·.2) = (schedules.map (·.1)).flatMap (·.warnings table) := by
  rw [List.flatMap_map]
  refine List.flatMap_congr fun one mem => ?_
  obtain ⟨_, -, here⟩ := exists_of_mem_right (mapM_eq_ok_iff.mp read) mem
  obtain ⟨schedule, warnings⟩ := one
  obtain ⟨_, -, -, -, -, accepted⟩ := importSchedule_eq_ok_iff.mp here
  exact (Except.ok.inj accepted).symm

/-- All that there is to warn of a blueprint with the given warnings of its icons. -/
def allWarnings (blueprint : Blueprint) (icons : List Warning) : List Warning :=
  icons ++ unknownKeys blueprint.extra ++ blueprint.entities.said blueprint.table ++
    blueprint.tiles.said blueprint.table ++
    blueprint.schedules.flatMap (·.warnings blueprint.table)

/-- Entities are read into an empty list, then wired. What is warned of is what the list says. -/
theorem said_of_wired {table : PrototypeTable} {list : ListId} {document : Document}
    {root : RootRecord} {documents : List (Document × Nat)} {placed wired : Blueprint}
    {pending : List Pending} {warnings : List Warning} {numbering : Numbering}
    (rootRead : RootRecord.read kind document = .ok root)
    (read : importEntities .strict (header table list root) documents =
      .ok (placed, pending, warnings))
    (wires : pending.foldlM (connectEntity numbering) placed = .ok wired) :
    wired = { header table list root with
        entities := wired.entities
        extent := wired.extent } ∧
      (wired.entities.Coherent table → wired.entities.index.Filed →
        (wired.entities.said table).Perm warnings) := by
  have headerCoherent : (header table list root).Coherent := (blank_header rootRead).coherent
  obtain ⟨appended, -⟩ := appended_of_importEntities headerCoherent.entities.vacant read
  obtain ⟨said, placedFiled⟩ :=
    said_of_importEntities headerCoherent SpatialIndex.filed_empty read
  have placedTable : placed.table = table := by rw [appended.rest]; rfl
  have placedCoherent := (changes_importEntities read).coherent headerCoherent
  have stored : ∀ one ∈ pending, placed.entities.get? one.key =
      some ⟨.top, .entity (one.record.entity placed.table)⟩ := by
    rw [placedTable]
    exact appended.stored
  have connected := connected_of_foldlM (leaves_of_importEntities rootRead read).2 stored wires
  refine ⟨?_, fun coherent filed => .trans ?_ said⟩
  · rw [connected.rest, appended.rest]
  · exact EntityList.said_congr (placedTable ▸ placedCoherent.entities) coherent placedFiled filed
      connected.members (connected.sameButWires stored)

/-- What is warned of when a document is read strictly is what there is to warn of. -/
theorem allWarnings_of_ofDocument {table : PrototypeTable} {list : ListId} {document : Document}
    {blueprint : Blueprint} {warnings : List Warning}
    (read : ofDocument table .strict list document = .ok (blueprint, warnings)) :
    ∃ icons, Icon.check blueprint.icons .strict blueprint.table = .ok icons ∧
      warnings.Perm (blueprint.allWarnings icons) := by
  have whole : Reachable (fun _ _ => True) blueprint := ⟨blueprint, .read read, .start⟩
  simp only [ofDocument, bind_eq_ok_iff] at read
  obtain ⟨root, rootRead, icons, iconsRead, _, keysRead, ⟨placed, pending, entityWarnings⟩,
    entitiesRead, wired, wires, ⟨tiled, tileWarnings⟩, tilesRead, schedules, schedulesRead,
    result⟩ := read
  obtain ⟨rfl, rfl⟩ := Prod.mk.inj (Except.ok.inj result)
  obtain rfl := Except.ok.inj keysRead
  have coherent := whole.coherent.entities
  have filed := whole.filed
  obtain ⟨wiredRest, entitiesSaid⟩ := said_of_wired rootRead entitiesRead wires
  have wiredTable : wired.table = table := by rw [wiredRest]; rfl
  have wiredTiles : wired.tiles = .empty := by rw [wiredRest]; rfl
  obtain ⟨tiledRest, -⟩ := importTiles_appends (wiredTiles ▸ .empty) tilesRead
  have tiledTable : tiled.table = table := by rw [tiledRest]; exact wiredTable
  have entities : tiled.entities = wired.entities := by rw [tiledRest]
  have extra : tiled.extra = (header table list root).extra := by rw [tiledRest, wiredRest]
  have tilesSaid := said_of_importTiles (wiredTiles ▸ .empty)
    (wiredTiles ▸ SpatialIndex.filed_empty) tilesRead
  rw [wiredTiles, wiredTable] at tilesSaid
  replace tilesSaid : (tiled.tiles.said table).Perm tileWarnings := tilesSaid
  have scheduled :=
    flatMap_of_importSchedules (fun i => s!"{kind}.schedules[{i}]") schedulesRead
  refine ⟨icons, ?_, ?_⟩
  · change Icon.check tiled.icons .strict tiled.table = _
    rw [tiledRest, wiredRest]
    exact iconsRead
  · change List.Perm _ (icons ++ unknownKeys tiled.extra ++ tiled.entities.said tiled.table ++
      tiled.tiles.said tiled.table ++ (schedules.map (·.1)).flatMap (·.warnings tiled.table))
    replace coherent : tiled.entities.Coherent tiled.table := coherent
    rw [extra, tiledTable, scheduled, entities]
    rw [tiledTable, entities] at coherent
    exact (((entitiesSaid coherent (entities ▸ filed)).symm.append_left _).append
      tilesSaid.symm).append_right _

/-- An inspection tells what there is to warn of. -/
theorem warnings_inspect {blueprint : Blueprint} {icons : List Warning}
    (checked : Icon.check blueprint.icons .strict blueprint.table = .ok icons) :
    (blueprint.inspect .strict).warnings.Perm (blueprint.allWarnings icons) := by
  have silent_told {α : Type} (outcome : Except Error α) : Report.told (silent outcome) = [] := by
    cases outcome <;> rfl
  have colors : (blueprint.labelColor.toList.map fun color =>
      silent (color.check (kind ++ ".color"))).flatMap Report.told = [] := by
    simp [silent_told]
  rw [inspect, if_neg (by decide), Report.warnings_foldl_absorb, checks]
  simp only [List.flatMap_append, colors, List.flatMap_cons, List.flatMap_nil, checked, silent_told,
    List.flatMap_map, ValidationMode.accept_strict, Report.told_ok, Report.empty, List.nil_append]
  rw [allWarnings, EntityList.said, TileList.said, ← EntityList.flatMap_entries]
  classical
  rw [List.perm_iff_count]
  intro warning
  simp only [List.count_append, List.count_nil]
  omega

theorem check_of_badChannel? {color : Color} (fine : color.badChannel? = none) (path : String) :
    color.check path = .ok () := by
  unfold Color.check
  split
  · rename_i bad found
    exact nomatch fine.symm.trans found
  · rfl

theorem check_of_oversize? {extent : Extent} (fine : extent.oversize? = none) :
    extent.check = .ok () := by
  unfold Extent.check
  split
  · rename_i size found
    exact nomatch fine.symm.trans found
  · rfl

/-- An inspection finds no error in a sound blueprint whose icons can be checked. -/
theorem Sound.errors_inspect {blueprint : Blueprint} (sound : blueprint.Sound)
    {icons : List Warning}
    (checked : Icon.check blueprint.icons .strict blueprint.table = .ok icons) :
    (blueprint.inspect .strict).errors = [] := by
  have silent_ok {α : Type} {outcome : Except Error α} (done : ∃ a, outcome = .ok a) :
      ∃ warnings, silent outcome = .ok warnings := by
    obtain ⟨a, rfl⟩ := done
    exact ⟨[], rfl⟩
  have colors : ∀ color ∈ blueprint.labelColor.toList,
      ∃ warnings, silent (color.check (kind ++ ".color")) = .ok warnings := fun color given =>
    silent_ok ⟨(), check_of_badChannel? (sound.color color (Option.mem_toList.mp given)) _⟩
  have extent : blueprint.extent.check = .ok () := check_of_oversize? sound.extent
  rw [inspect, if_neg (by decide), Report.errors_foldl_absorb_eq_nil_iff, checks,
    List.forall_mem_append, List.forall_mem_append, List.forall_mem_append,
    List.forall_mem_append, List.forall_mem_append]
  refine ⟨rfl, ⟨⟨⟨⟨⟨List.forall_mem_map.mpr colors, ?_⟩, ?_⟩, ?_⟩, ?_⟩, ?_⟩⟩
  · simp only [List.forall_mem_cons]
    exact ⟨⟨icons, checked⟩, silent_ok ⟨(), extent⟩, ⟨_, rfl⟩, by simp⟩
  · exact List.forall_mem_map.mpr fun entry _ => ⟨_, rfl⟩
  · exact List.forall_mem_map.mpr fun tile _ => ⟨_, rfl⟩
  · exact List.forall_mem_map.mpr fun schedule _ => ⟨_, rfl⟩
  · simp only [List.forall_mem_cons]
    exact ⟨⟨_, rfl⟩, ⟨_, rfl⟩, silent_ok sound.entities, silent_ok sound.schedules, by simp⟩

/-- What was read is sound. -/
theorem sound_of_ofDocument {table : PrototypeTable} {list : ListId} {document : Document}
    {blueprint : Blueprint} {warnings : List Warning}
    (read : ofDocument table .strict list document = .ok (blueprint, warnings)) :
    blueprint.Sound := by
  have whole : Reachable (fun _ _ => True) blueprint := ⟨blueprint, .read read, .start⟩
  obtain ⟨icons, checked, -⟩ := allWarnings_of_ofDocument read
  obtain ⟨root, entities, tiles, schedules, records, built⟩ := built_of_ofDocument read
  obtain ⟨fields, inner, rfl, found, indexRead, blueprintRead, isKind⟩ :=
    RootRecord.read_eq_ok_iff.mp records.rootRead
  obtain ⟨told, rfl, -, held⟩ := BlueprintRecord.read_eq_ok_iff.mp blueprintRead
  refine ⟨fun color given => ?_, ?_, whole.within, ?_, _, built.exportSchedules_eq⟩
  · have labelColor : blueprint.labelColor = root.blueprint.labelColor := by rw [built.rest]; rfl
    obtain ⟨document, reads⟩ := held.labelColor.exists_read color (labelColor ▸ given)
    exact Color.badChannel?_of_read reads
  · have strictly : Reported.ofCheck (Icon.check blueprint.icons .strict blueprint.table) =
        .ok ((), icons) := by
      rw [checked]
      rfl
    rcases (Icon.vets_check blueprint.icons .minimum blueprint.table).accepted _ _ strictly with
      ⟨left, a, -, done, -⟩ | ⟨error, refuses, -⟩
    · exact Reported.exists_ofCheck_iff.mp ⟨a, left, done⟩
    · exact nomatch refuses
  · exact (exportEntities_ok_iff whole.coherent .zero).mpr
      ((exportEntities_ok_iff whole.coherent _).mp ⟨_, built.exportEntities_eq⟩)

/-- The overlaps in all that there is to warn of are those that the lists tell. -/
theorem overlaps_allWarnings {blueprint : Blueprint} (coherent : blueprint.Coherent)
    {icons : List Warning}
    (checked : Icon.check blueprint.icons .strict blueprint.table = .ok icons) :
    (blueprint.allWarnings icons).filter Warning.isOverlap =
      blueprint.entities.overlapWarnings blueprint.table ++
        blueprint.tiles.overlapWarnings blueprint.table := by
  have entities : NoOverlap (blueprint.entities.leaves.flatMap
      (blueprint.entities.ownWarnings blueprint.table)) := by
    refine noOverlap_flatMap.mpr fun key _ => ?_
    rw [EntityList.ownWarnings]
    cases blueprint.entities.entity? key with
    | none => exact noOverlap_nil
    | some entity => exact entity.noOverlap blueprint.table
  have tiles : NoOverlap (blueprint.tiles.tiles.flatMap (·.warnings blueprint.table)) :=
    noOverlap_flatMap.mpr fun tile _ => tile.noOverlap blueprint.table
  have schedules : NoOverlap (blueprint.schedules.flatMap (·.warnings blueprint.table)) :=
    noOverlap_flatMap.mpr fun schedule _ => schedule.noOverlap blueprint.table
  have keys : NoOverlap (unknownKeys blueprint.extra) := by
    unfold unknownKeys
    split
    · exact noOverlap_nil
    · exact noOverlap_singleton rfl
  simp only [allWarnings, EntityList.said, TileList.said, List.filter_append,
    (Icon.noOverlap checked).filter_eq, keys.filter_eq, entities.filter_eq, tiles.filter_eq,
    schedules.filter_eq, EntityList.filter_overlapWarnings,
    TileList.filter_overlapWarnings coherent.tiles, List.nil_append, List.append_nil]

/-- A document that is read strictly is warned of as the blueprint that it is read as: with the same
warnings, and the same overlaps among them, in some order, and without an error. -/
theorem warnings_of_ofDocument {table : PrototypeTable} {list : ListId} {document : Document}
    {blueprint : Blueprint} {warnings : List Warning}
    (read : ofDocument table .strict list document = .ok (blueprint, warnings)) :
    (blueprint.inspect .strict).errors = [] ∧
      warnings.Perm (blueprint.inspect .strict).warnings ∧
      (warnings.filter Warning.isOverlap).Perm
        (blueprint.entities.overlapWarnings blueprint.table ++
          blueprint.tiles.overlapWarnings blueprint.table) := by
  obtain ⟨icons, checked, all⟩ := allWarnings_of_ofDocument read
  refine ⟨(sound_of_ofDocument read).errors_inspect checked,
    all.trans (warnings_inspect checked).symm, (all.filter _).trans (.of_eq ?_)⟩
  have whole : Reachable (fun _ _ => True) blueprint := ⟨blueprint, .read read, .start⟩
  exact overlaps_allWarnings whole.coherent checked

theorem warnings_of_overlapping_chests : ∃ blueprint warnings,
    ofDocument storageTable .strict ⟨0⟩ chestsDocument = .ok (blueprint, warnings) ∧
      (blueprint.inspect .strict).errors = [] ∧
      warnings.Perm (blueprint.inspect .strict).warnings ∧
      (warnings.filter Warning.isOverlap).Perm
        (blueprint.entities.overlapWarnings blueprint.table ++
          blueprint.tiles.overlapWarnings blueprint.table) := by
  obtain ⟨blueprint, warnings, read⟩ :=
    (exists_ofDocument_strict_iff storageTable ⟨0⟩ ⟨0⟩ chestsDocument).mpr
      (exists_read_chestsDocument ⟨0⟩ (.inr rfl))
  exact ⟨blueprint, warnings, read, warnings_of_ofDocument read⟩

end Blueprint
end FactoryBlueprint
