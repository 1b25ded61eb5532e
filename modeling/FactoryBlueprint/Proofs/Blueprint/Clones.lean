import FactoryBlueprint.Proofs.Blueprint.CircuitWires
import FactoryBlueprint.Proofs.Blueprint.Copying
import FactoryBlueprint.Proofs.Blueprint.Insertion
import FactoryBlueprint.Proofs.Blueprint.WiringTandem

/-! # Clones

A copy behaves like its original from then on: calls on both, each with what it is given in its own
list, are answered alike, and the same document is written after every call
(`Reachable.clone_in_step`). The indexes of both may list keys in another order within a cell, which
tells only where several objects at one place could absorb a newcomer. So each call that merges has
to be decided where it comes.
-/

namespace FactoryBlueprint

namespace Blueprint

variable {rename : Equiv.Perm ListId} {blueprint other : Blueprint} {α β : Type} {R : α → β → Prop}
  {mode : ValidationMode} {raised others : Raised}

/-- A call leaves twins, with answers that are alike. -/
def AnsweredInTandem (rename : Equiv.Perm ListId) (mode : ValidationMode) (raised others : Raised) :
    Edited Answer → Edited Answer → Prop :=
  InTandem rename (Error.Alike mode raised others) (Answer.Alike rename mode raised others)

/-- Results that are related make answers that are alike. -/
theorem InTandem.answered {first : Edited α} {second : Edited β} (f : α → Answer) (g : β → Answer)
    (tandem : InTandem rename Eq R first second)
    (each : ∀ a b, R a b → (f a).Alike rename mode raised others (g b)) :
    AnsweredInTandem rename mode raised others (first.1, first.2.map f)
      (second.1, second.2.map g) := by
  refine ⟨tandem.twins, OutcomesAlike.map ?_ each⟩
  exact tandem.outcomes.imp (fun _ _ same => same ▸ .same _) fun _ _ related => related

/-- A call whose success tells nothing. -/
theorem InTandem.silent {first : Edited α} {second : Edited β}
    (tandem : InTandem rename Eq R first second) :
    AnsweredInTandem rename mode raised others (first.1, first.2.map fun _ => .done)
      (second.1, second.2.map fun _ => .done) :=
  tandem.answered _ _ fun _ _ _ => .done

theorem PlacedInTandem.answered {first second : Edited Placement}
    (tandem : PlacedInTandem rename mode raised others first second) :
    AnsweredInTandem rename mode raised others (first.1, first.2.map .placed)
      (second.1, second.2.map .placed) :=
  ⟨tandem.twins, tandem.outcomes.map fun _ _ => .placed⟩

theorem ToldInTandem.answered {first second : Edited (List Warning)}
    (tandem : ToldInTandem rename mode raised others first second) :
    AnsweredInTandem rename mode raised others (first.1, first.2.map .warnings)
      (second.1, second.2.map .warnings) :=
  ⟨tandem.twins, tandem.outcomes.map fun _ _ => .told⟩

namespace Twins

/-- A call that cannot fail. -/
theorem done (twins : Twins rename blueprint other) :
    AnsweredInTandem rename mode raised others (blueprint, .ok .done) (other, .ok .done) :=
  ⟨twins, .ok .done⟩

theorem addSchedule (twins : Twins rename blueprint other) (schedule : Schedule Association) :
    Twins rename (blueprint.addSchedule schedule) (other.addSchedule (schedule.relist rename)) :=
  twins.withSchedules (by rw [twins.schedules, List.map_append, List.map_singleton])

theorem editSchedules (twins : Twins rename blueprint other)
    (f : List (Schedule Association) → List (Schedule Association)) :
    Twins rename { blueprint with schedules := f blueprint.schedules }
      { other with schedules :=
          (f (other.schedules.map (·.relist rename.symm))).map (·.relist rename) } := by
  have back : other.schedules.map (·.relist rename.symm) = blueprint.schedules := by
    rw [twins.schedules, List.map_map]
    exact (List.map_congr_left fun schedule _ => schedule.relist_symm_relist rename).trans
      (List.map_id _)
  exact twins.withSchedules (by rw [back])

theorem duplicate (twins : Twins rename blueprint other) (list : ListId) :
    Twins rename (blueprint.duplicate list) (other.duplicate (rename list)) := by
  obtain ⟨entities, tiles, entityTwins, tileTwins, rfl⟩ := twins.parts
  refine ⟨rfl, entityTwins.duplicate blueprint.table list, tileTwins.duplicate, ?_⟩
  simp [Blueprint.duplicate, entityTwins.id, Schedule.relist, Association.relist_rescope]

/-- What one call does: twins are left that are twins again, with answers that are alike. -/
theorem call (twins : Twins rename blueprint other) (operation : Operation)
    (decided : operation.Decided blueprint) :
    AnsweredInTandem rename blueprint.mode (operation.raised blueprint)
      ((operation.relist rename).raised other)
      (operation.apply blueprint, operation.answer blueprint)
      ((operation.relist rename).apply other, (operation.relist rename).answer other) := by
  cases operation with
  | setLabel label =>
    exact (twins.describe (fun blueprint => { blueprint with label := label })
      fun _ _ _ _ => rfl).done
  | setLabelColor color => exact (twins.setLabelColor color).silent
  | setDescription description =>
    exact (twins.describe (fun blueprint => { blueprint with description := description })
      fun _ _ _ _ => rfl).done
  | setIcons icons => exact (twins.setIcons icons).silent
  | setIconsByName names => exact (twins.setIconsByName names).silent
  | setVersion version =>
    exact (twins.describe (fun blueprint => { blueprint with version := version })
      fun _ _ _ _ => rfl).done
  | setVersionComponents components => exact (twins.setVersionComponents components).silent
  | setGridSize size =>
    exact (twins.describe (fun blueprint => { blueprint with snappingGridSize := size })
      fun _ _ _ _ => rfl).done
  | setGridPosition position =>
    exact (twins.describe (fun blueprint => { blueprint with snappingGridPosition := position })
      fun _ _ _ _ => rfl).done
  | setAbsoluteSnapping absolute =>
    exact (twins.describe (fun blueprint => { blueprint with absoluteSnapping := absolute })
      fun _ _ _ _ => rfl).done
  | setPositionRelativeToGrid position =>
    exact (twins.describe (fun blueprint => { blueprint with positionRelativeToGrid := position })
      fun _ _ _ _ => rfl).done
  | setIndex index =>
    exact (twins.describe (fun blueprint => { blueprint with index := index })
      fun _ _ _ _ => rfl).done
  | setMode mode =>
    exact (twins.describe (fun blueprint => { blueprint with mode := mode })
      fun _ _ _ _ => rfl).done
  | recalculate => exact twins.recalculate.silent
  | insertEntity i item merge =>
    exact (twins.insertEntity i decided).answered
  | addEntity item merge =>
    exact (twins.addEntity decided).answered
  | setEntity i item => exact (twins.setEntity i item).answered
  | removeEntity i =>
    exact (twins.removeEntity i).answered .item .item fun item _ same => same ▸ .item item
  | removeEntityKey key =>
    exact (twins.removeEntityKey key).answered .item .item fun item _ same => same ▸ .item item
  | modifyEntity key f =>
    refine (twins.modifyEntity key fun entity => ?_).silent
    rw [entity.relist_symm_relist]
  | setEntities list items =>
    exact (twins.setEntities list items).answered
  | clearEntities => exact twins.clearEntities.done
  | insertTile i tile merge =>
    exact (twins.insertTile i decided).answered
  | addTile tile merge => exact (twins.addTile decided).answered
  | setTile i tile => exact (twins.setTile i tile).answered
  | removeTile i =>
    exact (twins.removeTile i).answered .tile .tile fun tile _ same => same ▸ .tile tile
  | setTiles tiles =>
    exact (twins.setTiles tiles).answered
  | clearTiles => exact twins.clearTiles.done
  | addSchedule schedule => exact (twins.addSchedule schedule).done
  | insertSchedule i schedule => exact (twins.insertSchedule i schedule).silent
  | setSchedule i schedule =>
    exact (twins.setSchedule i schedule).answered .schedule .schedule
      fun schedule _ same => same ▸ .schedule schedule
  | removeSchedule i =>
    exact (twins.removeSchedule i).answered .schedule .schedule
      fun schedule _ same => same ▸ .schedule schedule
  | clearSchedules => exact (twins.withSchedules List.map_nil.symm).done
  | editSchedules f => exact (twins.editSchedules f).done
  | forgetLocomotive key => exact (twins.forgetLocomotive key).done
  | removeStop i station =>
    exact (twins.removeStop i station).answered .stop .stop fun stop _ same => same ▸ .stop stop
  | addLocomotive i key => exact (twins.addLocomotive i key).silent
  | removeLocomotive i key => exact (twins.removeLocomotive i key).silent
  | addCircuit color a b sideA sideB =>
    exact (twins.addCircuit color a b sideA sideB).answered .warnings .warnings
      fun warnings _ same => same ▸ .warnings warnings
  | removeCircuit color a b sideA sideB => exact (twins.removeCircuit color a b sideA sideB).silent
  | addPower a b =>
    exact (twins.addPower a b).answered .warnings .warnings
      fun warnings _ same => same ▸ .warnings warnings
  | removePower a b => exact (twins.removePower a b).silent
  | removeAllPower key => exact (twins.removeAllPower key).silent
  | addCopper switch side pole => exact (twins.addCopper switch side pole).silent
  | removeCopper switch side pole => exact (twins.removeCopper switch side pole).silent
  | duplicate list => exact (twins.duplicate list).done

/-- What a sequence of calls does: the same is seen at every step. By induction on the calls,
between which the blueprints stay twins. -/
theorem trace (operations : List Operation) {blueprint other : Blueprint}
    (twins : Twins rename blueprint other) (decided : blueprint.Decides operations) :
    List.Forall₂ (SeenAlike rename) (blueprint.trace operations)
      (other.trace (operations.map (·.relist rename))) := by
  induction operations generalizing blueprint other with
  | nil => exact .nil
  | cons operation rest ih =>
    have called := twins.call operation decided.1
    exact .cons ⟨twins.mode, called.outcomes, called.twins.toDocument⟩ (ih called.twins decided.2)

end Twins

/-- From then on, a copy behaves like its original. -/
theorem Reachable.clone_in_step {allowed : Blueprint → Operation → Prop}
    (reachable : Reachable allowed blueprint) (third : FixesThird rename blueprint)
    (operations : List Operation) (decided : blueprint.Decides operations) :
    List.Forall₂ (SeenAlike rename) (blueprint.trace operations)
      ((blueprint.duplicate (rename blueprint.entities.id)).trace
        (operations.map (·.relist rename))) :=
  (twins_duplicate reachable.coherent reachable.filed reachable.tilesFiled third).trace operations
    decided

end Blueprint

/-- A merge is decided if at most one of the entities of the list could absorb the newcomer. -/
theorem EntityList.Coherent.unrivalled {list : EntityList} {table : PrototypeTable} {offset : Point}
    {entity : Entity} (coherent : list.Coherent table)
    (one : ∀ first ∈ list.leaves, ∀ second ∈ list.leaves,
      list.absorbs entity (offset + entity.position) first = true →
        list.absorbs entity (offset + entity.position) second = true → first = second) :
    list.Unrivalled table offset entity := by
  have leaf {key : Key} (absorbs : list.absorbs entity (offset + entity.position) key = true) :
      key ∈ list.leaves := by
    refine (coherent.mem_leaves_iff key).mpr ?_
    rw [EntityList.absorbs] at absorbs
    rw [EntityList.entity?]
    cases found : list.get? key with
    | none => simp [found] at absorbs
    | some placed =>
      rw [found] at absorbs
      exact Option.isSome_of_any (Bool.and_eq_true_iff.mp absorbs).2
  exact fun first _ second _ absorbs also =>
    one first (leaf absorbs) second (leaf also) absorbs also

namespace Blueprint

/-! ### Calls on two poles and on their copy -/

/-- A pole is merged into the first one, which is cut off and removed. -/
def poleCalls : List Operation :=
  [.addEntity (.entity (poleAt 0.5)) true, .removePower ⟨0, 0⟩ ⟨1, 0⟩, .removeEntity 0]

theorem clone_in_step_scheduledPoles :
    Reachable (Tame PowerWiring) scheduledPoles ∧
      FixesThird (Equiv.swap ⟨0⟩ ⟨1⟩) scheduledPoles ∧ scheduledPoles.Decides poleCalls ∧
      List.Forall₂ (SeenAlike (Equiv.swap ⟨0⟩ ⟨1⟩)) (scheduledPoles.trace poleCalls)
        ((scheduledPoles.duplicate (Equiv.swap ⟨0⟩ ⟨1⟩ scheduledPoles.entities.id)).trace
          (poleCalls.map (·.relist (Equiv.swap ⟨0⟩ ⟨1⟩)))) := by
  have reachable : Reachable (Tame PowerWiring) scheduledPoles :=
    ⟨_, .empty poleTable ⟨0⟩, run_scheduledPoles⟩
  have third : FixesThird (Equiv.swap ⟨0⟩ ⟨1⟩) scheduledPoles := fun association held foreign =>
    Equiv.swap_apply_of_ne_of_ne foreign (list_of_holds_scheduledPoles held)
  have decided : scheduledPoles.Decides poleCalls :=
    ⟨fun _ _ => reachable.coherent.entities.unrivalled (by decide +kernel), trivial, trivial,
      trivial⟩
  exact ⟨reachable, third, decided, reachable.clone_in_step third poleCalls decided⟩

end Blueprint

/-! ### Chests in one place -/

namespace SpatialIndex

variable {box area : Box} {cell : Cell} {keys : List Key}

/-- New keys stand in a cell as they were added, if their boxes lie within it. -/
theorem cell_addAll {index : SpatialIndex} (inBox : Cell.covering box = [cell])
    (rooms : index.RoomFor keys) (distinct : keys.Nodup)
    (fresh : ∀ key ∈ keys, index.box? key = none) :
    (index.addAll (keys.map (·, box))).cell cell = index.cell cell ++ keys := by
  induction keys generalizing index with
  | nil => simp [addAll]
  | cons key rest ih =>
    obtain ⟨apart, distinct⟩ := List.nodup_cons.mp distinct
    obtain ⟨new, others⟩ := List.forall_mem_cons.mp fresh
    have added : (index.add key box).cell cell = index.cell cell ++ [key] := by
      rw [cell_add new, inBox]
      simp
    have room := rooms.room key List.mem_cons_self
    have step := @ih (index.add key box) (rooms.add List.mem_cons_self box).tail distinct
      fun other mem => by
        have differ : other ≠ key := fun same => apart (same ▸ mem)
        rw [box?_add room, if_neg differ, others other mem]
    rw [added, List.append_assoc] at step
    exact step

/-- Where all boxes and the area lie within one cell, keys are found as they were added. -/
theorem query_addAll_empty (inBox : Cell.covering box = [cell])
    (inArea : Cell.covering area = [cell]) (overlaps : box.overlaps area = true)
    (rooms : empty.RoomFor keys) (distinct : keys.Nodup) :
    (empty.addAll (keys.map (·, box))).query area = keys := by
  have found : ∀ key ∈ keys, (empty.addAll (keys.map (·, box))).box? key = some box := by
    intro key mem
    have entries : keys.map (·, box) = keys.filterMap fun key => (some box).map (key, ·) := by simp
    rw [entries, box?_addAll rooms (fun _ => some box), if_pos mem]
    rfl
  have cells : empty.cell cell = [] := by simp [SpatialIndex.cell, empty]
  rw [query, inArea, List.flatMap_singleton,
    cell_addAll inBox rooms distinct fun key _ => box?_empty key, cells, List.nil_append,
    List.filter_eq_self.mpr fun key mem => by simp [found key mem, overlaps]]
  exact Distinct.addAll_nil_of_nodup distinct

end SpatialIndex

namespace Blueprint

variable {blueprint : Blueprint} {entity : Entity}

/-- The blueprint with an entity at the head of its list. -/
def prepend (blueprint : Blueprint) (entity : Entity) : Blueprint :=
  { blueprint.append entity with
    entities := { (blueprint.append entity).entities with
      members := .entity blueprint.entities.arena.nextKey :: blueprint.entities.members } }

theorem insertEntity_zero_eq_prepend (vacant : blueprint.entities.Vacant)
    (lenient : blueprint.mode ≠ .pedantic)
    (within : (blueprint.extent.cover (entity.worldBox blueprint.table .zero)).oversize? = none) :
    (blueprint.insertEntity 0 (.entity entity) false).1 = blueprint.prepend entity := by
  obtain ⟨own, accepted⟩ := ValidationMode.exists_accept lenient
    ((Item.entity entity).warnings blueprint.table)
  obtain ⟨reported, others⟩ := ValidationMode.exists_accept lenient
    ((blueprint.entities.index.query (entity.worldBox blueprint.table .zero)).filterMap
      (blueprint.entities.collision? blueprint.table entity (.zero + entity.position)))
  have placed : EntityList.place blueprint.table false .top (.entity entity) blueprint.entities =
      ({ blueprint.entities.append blueprint.table entity with
          members := blueprint.entities.members },
        .inserted (.entity blueprint.entities.arena.nextKey)
          ((blueprint.entities.index.query (entity.worldBox blueprint.table .zero)).filterMap
            (blueprint.entities.collision? blueprint.table entity (.zero + entity.position)))) :=
    rfl
  have grown : EntityList.extendOver { blueprint.entities.append blueprint.table entity with
        members := blueprint.entities.members } (.entity blueprint.entities.arena.nextKey)
        blueprint.extent =
          .ok (blueprint.extent.cover (entity.worldBox blueprint.table .zero)) := by
    have bounds : EntityList.bounds? { blueprint.entities.append blueprint.table entity with
        members := blueprint.entities.members } (.entity blueprint.entities.arena.nextKey) =
          some (entity.worldBox blueprint.table .zero) := by
      have room := SpatialIndex.room_nextKey vacant
      simp [EntityList.bounds?, EntityList.append, Member.leaves, SpatialIndex.box?_add room,
        Box.union?]
    rw [EntityList.extendOver, bounds]
    exact Extent.extendOver_eq_ok_iff.mpr ⟨within, rfl⟩
  have inserted := insertEntity_eq_ok_iff.mpr ⟨own, accepted, _, _, _,
    EntityList.insert_eq_ok_iff.mpr
      ⟨Nat.zero_le _, .inr ⟨_, _, _, reported, placed, others, grown, rfl, rfl⟩⟩, rfl, rfl⟩
  exact congrArg Prod.fst inserted

/-- A table that knows chests of two kinds. -/
def stackTable : PrototypeTable :=
  chestTable.putEntity (.building "iron-chest" .container (.square 0.35))

def ironChest : Entity := .plain "iron-chest" ⟨0.5, 0.5⟩

/-- Three chests in one place, the later ones before the earlier. -/
def stackedChests : Blueprint :=
  (((empty stackTable ⟨0⟩).append chest).prepend chest).prepend ironChest

theorem reachable_stackedChests : Reachable (fun _ _ => True) stackedChests := by
  have initial : Initial (empty stackTable ⟨0⟩) := .empty stackTable ⟨0⟩
  have vacant {blueprint : Blueprint}
      (run : Run (fun _ _ => True) (empty stackTable ⟨0⟩) blueprint) : blueprint.entities.Vacant :=
    (Reachable.coherent ⟨_, initial, run⟩).entities.vacant
  have first : Run (fun _ _ => True) (empty stackTable ⟨0⟩) ((empty stackTable ⟨0⟩).append chest) :=
    Run.start.append initial trivial (by decide) (by decide +kernel)
  have second := first.step (.insertEntity 0 (.entity chest) false) trivial
  rw [Operation.apply,
    insertEntity_zero_eq_prepend (vacant first) (by decide) (by decide +kernel)] at second
  have third := second.step (.insertEntity 0 (.entity ironChest) false) trivial
  rw [Operation.apply,
    insertEntity_zero_eq_prepend (vacant second) (by decide) (by decide +kernel)] at third
  exact ⟨_, initial, third⟩

/-- The original finds the chests as they were added, and the copy as they are listed. -/
theorem query_stackedChests :
    stackedChests.entities.index.query (chest.worldBox stackTable .zero) =
        [⟨0, 0⟩, ⟨1, 0⟩, ⟨2, 0⟩] ∧
      (stackedChests.duplicate ⟨1⟩).entities.index.query (chest.worldBox stackTable .zero) =
        [⟨2, 0⟩, ⟨1, 0⟩, ⟨0, 0⟩] := by
  have cell : Cell.covering (chest.worldBox stackTable .zero) = [(0, 0)] := by decide +kernel
  have find {keys : List Key} (rooms : SpatialIndex.empty.RoomFor keys) (distinct : keys.Nodup) :=
    SpatialIndex.query_addAll_empty cell cell (by decide +kernel) rooms distinct
  have index : stackedChests.entities.index = SpatialIndex.empty.addAll
      ([⟨0, 0⟩, ⟨1, 0⟩, ⟨2, 0⟩].map (·, chest.worldBox stackTable .zero)) := by
    rfl
  have copied : (stackedChests.duplicate ⟨1⟩).entities.index = SpatialIndex.empty.addAll
      ([⟨2, 0⟩, ⟨1, 0⟩, ⟨0, 0⟩].map (·, chest.worldBox stackTable .zero)) := by
    refine congrArg SpatialIndex.empty.addAll ?_
    decide +kernel
  rw [index, copied]
  exact ⟨find (.empty (by decide)) (by decide), find (.empty (by decide)) (by decide)⟩

/-- The blueprint with an entity merged into the one under a key. -/
def absorb (blueprint : Blueprint) (key : Key) (entity : Entity) : Blueprint :=
  { blueprint with entities := { blueprint.entities with
      arena := blueprint.entities.arena.modify key (·.mapEntity (·.merge entity)) } }

/-- An entity merges into the first that can absorb it. -/
theorem addEntity_eq_absorb {key : Key} (lenient : blueprint.mode ≠ .pedantic)
    (found : (blueprint.entities.index.query (entity.worldBox blueprint.table .zero)).find?
      (blueprint.entities.absorbs entity (.zero + entity.position)) = some key) :
    ∃ own, blueprint.addEntity (.entity entity) true =
      (blueprint.absorb key entity, .ok ⟨key, true, own⟩) := by
  obtain ⟨own, accepted⟩ := ValidationMode.exists_accept lenient
    ((Item.entity entity).warnings blueprint.table)
  have placed : EntityList.place blueprint.table true .top (.entity entity) blueprint.entities =
      ((blueprint.absorb key entity).entities, .merged key) := by
    rw [EntityList.place, EntityList.placeEntity]
    simp only [if_true, Site.offset_top, found]
    rfl
  exact ⟨own ++ [], insertEntity_eq_ok_iff.mpr ⟨own, accepted, _, _, _,
    EntityList.insert_eq_ok_iff.mpr ⟨le_rfl, .inl ⟨key, placed, rfl, rfl⟩⟩, rfl, rfl⟩⟩

/-- The first overlap that an entity is refused for. -/
theorem addEntity_eq_error {warning : Warning} {others : List Warning}
    (vacant : blueprint.entities.Vacant) (pedantic : blueprint.mode = .pedantic)
    (known : entity.warnings blueprint.table = [])
    (overlaps : (blueprint.entities.index.query (entity.worldBox blueprint.table .zero)).filterMap
      (blueprint.entities.collision? blueprint.table entity (.zero + entity.position)) =
        warning :: others) :
    (blueprint.addEntity (.entity entity) false).2 = .error (.promoted warning) := by
  have accepted :
      blueprint.mode.accept ((Item.entity entity).warnings blueprint.table) = .ok [] := by
    rw [pedantic, Item.warnings, known]
    rfl
  have refused := EntityList.insert_entity_eq vacant blueprint.table blueprint.mode
    blueprint.extent entity
  rw [overlaps, pedantic] at refused
  rw [addEntity, insertEntity, accepted]
  simp only [pedantic]
  erw [refused]
  rfl

/-- A request for items goes into the chest that was added first in the original, and into the one
that is listed first in the copy, so both are written differently from then on. Another chest is
refused for overlapping a wooden chest in the original, and an iron chest in the copy. -/
theorem clone_merges_elsewhere :
    Reachable (fun _ _ => True) stackedChests ∧
      (stackedChests.addEntity (.entity filledChest) true).2.map (·.key) = .ok ⟨0, 0⟩ ∧
      ((stackedChests.duplicate ⟨1⟩).addEntity (.entity filledChest) true).2.map (·.key) =
        .ok ⟨1, 0⟩ ∧
      sameDocument (stackedChests.addEntity (.entity filledChest) true).1
        ((stackedChests.duplicate ⟨1⟩).addEntity (.entity filledChest) true).1 = false ∧
      (({ stackedChests with mode := .pedantic } : Blueprint).addEntity (.entity chest) false).2 =
        .error (.promoted (.overlap "wooden-chest" "wooden-chest" ⟨0.5, 0.5⟩)) ∧
      (({ stackedChests.duplicate ⟨1⟩ with mode := .pedantic } : Blueprint).addEntity
          (.entity chest) false).2 =
        .error (.promoted (.overlap "wooden-chest" "iron-chest" ⟨0.5, 0.5⟩)) := by
  obtain ⟨listed, copied⟩ := query_stackedChests
  have first : (stackedChests.entities.index.query (filledChest.worldBox stackTable .zero)).find?
      (stackedChests.entities.absorbs filledChest (.zero + filledChest.position)) =
        some ⟨0, 0⟩ := by
    refine (congrArg (List.find? _) listed).trans ?_
    decide +kernel
  have second : ((stackedChests.duplicate ⟨1⟩).entities.index.query
      (filledChest.worldBox stackTable .zero)).find?
      ((stackedChests.duplicate ⟨1⟩).entities.absorbs filledChest
        (.zero + filledChest.position)) = some ⟨1, 0⟩ := by
    refine (congrArg (List.find? _) copied).trans ?_
    decide +kernel
  obtain ⟨own, merged⟩ := addEntity_eq_absorb (by decide) first
  obtain ⟨others, mergedInCopy⟩ := addEntity_eq_absorb (by decide) second
  have differ : sameDocument (stackedChests.absorb ⟨0, 0⟩ filledChest)
      ((stackedChests.duplicate ⟨1⟩).absorb ⟨1, 0⟩ filledChest) = false := by decide +kernel
  have known : chest.warnings stackTable = [] := rfl
  have place : (⟨0.5, 0.5⟩ : Point) = .zero + chest.position := by decide +kernel
  rw [merged, mergedInCopy, place]
  have overlaps : [⟨0, 0⟩, ⟨1, 0⟩, ⟨2, 0⟩].filterMap
      (stackedChests.entities.collision? stackTable chest (.zero + chest.position)) =
        [.overlap "wooden-chest" "wooden-chest" (.zero + chest.position),
          .overlap "wooden-chest" "wooden-chest" (.zero + chest.position),
          .overlap "wooden-chest" "iron-chest" (.zero + chest.position)] := rfl
  have overlapsInCopy : [⟨2, 0⟩, ⟨1, 0⟩, ⟨0, 0⟩].filterMap
      ((stackedChests.duplicate ⟨1⟩).entities.collision? stackTable chest
        (.zero + chest.position)) =
        [.overlap "wooden-chest" "iron-chest" (.zero + chest.position),
          .overlap "wooden-chest" "wooden-chest" (.zero + chest.position),
          .overlap "wooden-chest" "wooden-chest" (.zero + chest.position)] := by
    with_unfolding_all rfl
  have coherent := reachable_stackedChests.coherent.entities
  refine ⟨reachable_stackedChests, rfl, rfl, differ, ?_, ?_⟩
  · exact addEntity_eq_error coherent.vacant rfl known
      ((congrArg (List.filterMap _) listed).trans overlaps)
  · exact addEntity_eq_error (coherent.duplicate ⟨1⟩).vacant rfl known
      ((congrArg (List.filterMap _) copied).trans overlapsInCopy)

end Blueprint
end FactoryBlueprint
