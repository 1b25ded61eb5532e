import FactoryBlueprint.Proofs.Blueprint.Appending
import FactoryBlueprint.Proofs.Blueprint.Limit
import FactoryBlueprint.Proofs.Blueprint.Renumbering

/-! # Groups are transparent

Adding a group, with its groups to any depth, leads to what adding its entities one by one leads to,
each where it stands in the blueprint: the document, the extent and the boxes in order are the same,
and so are the warnings, up to their order (`Reachable.group_transparent`). The keys may differ, so
associations must not name keys that are yet to be issued (`group_key_named_early`).
-/

namespace FactoryBlueprint

/-- An entity that absorbs another gets no other associations than theirs. -/
theorem Entity.forall_associations_merge {entity other : Entity} {property : Association → Prop}
    (first : ∀ association ∈ entity.associations, property association)
    (second : ∀ association ∈ other.associations, property association) :
    ∀ association ∈ (entity.merge other).associations, property association := by
  simp only [associations, List.mem_append, Connections.mem_targets_iff] at first second ⊢
  rintro association ((⟨side, color, far, mem, rfl⟩ | ⟨side, far, mem, rfl⟩) | mem)
  · rw [merge, Connections.circuit_merge] at mem
    rcases Distinct.mem_addAll.mp mem with here | there
    · exact first _ (.inl (.inl ⟨side, color, far, here, rfl⟩))
    · exact second _ (.inl (.inl ⟨side, color, far, there, rfl⟩))
  · rw [merge, Connections.copper_merge] at mem
    rcases Distinct.mem_addAll.mp mem with here | there
    · exact first _ (.inl (.inr ⟨side, far, here, rfl⟩))
    · exact second _ (.inl (.inr ⟨side, far, there, rfl⟩))
  · rcases Distinct.mem_addAll.mp mem with here | there
    · exact first _ (.inr here)
    · exact second _ (.inr there)

namespace EntityList

variable {table : PrototypeTable} {list : EntityList}

/-! ### Members have no part in placing -/

theorem placeEntity_members (list : EntityList) (table : PrototypeTable) (merge : Bool)
    (site : Site) (entity : Entity) (members : List Member) :
    ({ list with members := members } : EntityList).placeEntity table merge site entity =
      ({ (list.placeEntity table merge site entity).1 with members := members },
        (list.placeEntity table merge site entity).2) := by
  have absorbs : ({ list with members := members } : EntityList).absorbs = list.absorbs := rfl
  have collisions : ({ list with members := members } : EntityList).collision? = list.collision? :=
    rfl
  simp only [placeEntity, absorbs, collisions]
  generalize (if merge = true then List.find? _ _ else none) = absorber?
  cases absorber? <;> rfl

mutual

theorem place_members (table : PrototypeTable) (merge : Bool) (members : List Member) :
    (item : Item) → (site : Site) → (list : EntityList) →
      place table merge site item { list with members := members } =
        ({ (place table merge site item list).1 with members := members },
          (place table merge site item list).2)
  | .entity entity, site, list => list.placeEntity_members table merge site entity members
  | .group id position items, site, list => by
    have inside := placeAll_members table merge members items (site.within list.arena.nextKey position)
      { list with arena := list.arena.insert ⟨site, .group id position⟩ }
    simp only [place, inside]

theorem placeAll_members (table : PrototypeTable) (merge : Bool) (members : List Member) :
    (items : List Item) → (site : Site) → (list : EntityList) →
      placeAll table merge site items { list with members := members } =
        ({ (placeAll table merge site items list).1 with members := members },
          (placeAll table merge site items list).2)
  | [], _, _ => rfl
  | item :: items, site, list => by
    simp only [placeAll_cons, place_members table merge members item site,
      placeAll_members table merge members items site]

end

end EntityList

namespace Blueprint

variable {blueprint after : Blueprint}

/-! ### One by one -/

/-- Appends entities one after the other until one fails, with the warnings reported on the way. -/
def addEach (blueprint : Blueprint) (merge : Bool) :
    List Entity → Except Error (Blueprint × List Warning)
  | [] => .ok (blueprint, [])
  | entity :: entities =>
    match blueprint.addEntity (.entity entity) merge with
    | (_, .error error) => .error error
    | (blueprint, .ok placement) => do
      let (blueprint, warnings) ← addEach blueprint merge entities
      pure (blueprint, placement.warnings ++ warnings)

/-- The boxes of the entities in order. -/
def leafBoxes (blueprint : Blueprint) : List (Option Box) :=
  blueprint.entities.leaves.map blueprint.entities.index.box?

/-- Items placed in the entity list one after the other. -/
def laid (blueprint : Blueprint) (merge : Bool) (items : List Item) :
    EntityList × List Member × List Warning :=
  EntityList.placeAll blueprint.table merge .top items blueprint.entities

/-- The blueprint with items at the end of its list, whatever its size. -/
def taking (blueprint : Blueprint) (merge : Bool) (items : List Item) : Blueprint :=
  let (list, members, _) := blueprint.laid merge items
  { blueprint with
    entities := { list with members := blueprint.entities.members ++ members }
    extent := blueprint.extent.coverAll ((Member.leavesOfAll members).filterMap list.index.box?) }

variable {merge : Bool}

theorem taking_nil (blueprint : Blueprint) (merge : Bool) :
    blueprint.taking merge [] = blueprint := by
  simp only [taking, laid, EntityList.placeAll, List.append_nil]
  rfl

/-- Boxes stay with the leaves that were placed while more is placed. -/
theorem leafBoxes_placeAll {table : PrototypeTable} {items others : List Item} {list : EntityList}
    (vacant : list.Vacant) :
    let first := EntityList.placeAll table merge .top items list
    let rest := EntityList.placeAll table merge .top others first.1
    (Member.leavesOfAll first.2.1).filterMap rest.1.index.box? =
      (Member.leavesOfAll first.2.1).filterMap first.1.index.box? := by
  intro first rest
  have sound := (EntityList.placeAll_sound table merge .top items list vacant).1
  have later := (EntityList.placeAll_sound table merge .top others first.1 (sound.vacant vacant)).1
  refine List.filterMap_congr fun key leaf => later.elsewhere key ?_
  exact sound.disjoint later ((Member.leavesOfAll_sublist_keysOfAll _).subset leaf)

/-- What is taken in two parts is taken at once. -/
theorem taking_append (vacant : blueprint.entities.Vacant) (items others : List Item) :
    blueprint.taking merge (items ++ others) =
      (blueprint.taking merge items).taking merge others := by
  have boxes := @leafBoxes_placeAll merge blueprint.table items others _ vacant
  dsimp only at boxes
  simp only [taking, laid, EntityList.placeAll_members, EntityList.placeAll_append,
    List.append_assoc, Member.leavesOfAll_append, List.filterMap_append, Extent.coverAll_append]
  rw [boxes]

theorem laid_append (blueprint : Blueprint) (merge : Bool) (items others : List Item) :
    (blueprint.laid merge (items ++ others)).2.2 =
      (blueprint.laid merge items).2.2 ++
        ((blueprint.taking merge items).laid merge others).2.2 := by
  simp only [laid, taking, EntityList.placeAll_members, EntityList.placeAll_append]

theorem vacant_taking (vacant : blueprint.entities.Vacant) (items : List Item) :
    (blueprint.taking merge items).entities.Vacant :=
  (EntityList.placeAll_sound blueprint.table merge .top items blueprint.entities vacant).1.vacant
    vacant

theorem leaves_taking (blueprint : Blueprint) (merge : Bool) (items : List Item) :
    (blueprint.taking merge items).entities.leaves =
      blueprint.entities.leaves ++ Member.leavesOfAll (blueprint.laid merge items).2.1 := by
  simp only [taking, EntityList.leaves, Member.leavesOfAll_append]

section Placed

variable {item : Item} {list : EntityList}

/-- An item that is absorbed adds no member. -/
theorem taking_of_merged {into : Key} (vacant : blueprint.entities.Vacant)
    (merged : EntityList.place blueprint.table merge .top item blueprint.entities =
      (list, .merged into)) :
    blueprint.taking merge [item] = { blueprint with entities := list } ∧
      (blueprint.laid merge [item]).2.2 = [] := by
  have sound := EntityList.place_sound blueprint.table merge .top item blueprint.entities vacant
  rw [merged] at sound
  have members : list.members = blueprint.entities.members := EntityList.Placing.members sound
  have laid : blueprint.laid merge [item] = (list, [], []) := by
    rw [Blueprint.laid, EntityList.placeAll_cons, merged]
    rfl
  rw [taking, laid]
  simp only [List.append_nil, Member.leavesOfAll, List.filterMap_nil, ← members]
  exact ⟨rfl, trivial⟩

theorem taking_of_inserted {member : Member} {own : List Warning}
    (inserted : EntityList.place blueprint.table merge .top item blueprint.entities =
      (list, .inserted member own)) :
    blueprint.taking merge [item] =
        { blueprint with
          entities := { list with members := blueprint.entities.members ++ [member] }
          extent := blueprint.extent.coverAll (member.leaves.filterMap list.index.box?) } ∧
      (blueprint.laid merge [item]).2.2 = own := by
  have laid : blueprint.laid merge [item] = (list, [member], own) := by
    rw [Blueprint.laid, EntityList.placeAll_cons, inserted]
    simp only [EntityList.placeAll, EntityList.Outcome.members, EntityList.Outcome.warnings,
      List.append_nil]
  have leaves : Member.leavesOfAll [member] = member.leaves := List.append_nil _
  rw [taking, laid]
  simp only [leaves, and_self]

end Placed

/-- What an addition leads to if warnings are reported. -/
theorem addEntity_eq_ok_iff (strict : blueprint.mode = .strict)
    (vacant : blueprint.entities.Vacant) (within : blueprint.extent.oversize? = none) {item : Item}
    {warnings : List Warning} :
    (∃ placement, blueprint.addEntity item merge = (after, .ok placement) ∧
        placement.warnings = warnings) ↔
      (blueprint.taking merge [item]).extent.oversize? = none ∧
        after = blueprint.taking merge [item] ∧
        warnings = item.warnings blueprint.table ++ (blueprint.laid merge [item]).2.2 := by
  have accept (warnings : List Warning) : blueprint.mode.accept warnings = .ok warnings := by
    rw [strict, ValidationMode.accept]
  have sound := EntityList.place_sound blueprint.table merge .top item blueprint.entities vacant
  simp only [addEntity, insertEntity, EntityList.insert, accept, Nat.lt_irrefl, if_false,
    EntityList.length]
  rcases done : EntityList.place blueprint.table merge .top item blueprint.entities with
    ⟨list, ⟨member, own⟩ | into⟩
  · rw [done] at sound
    have members : list.members = blueprint.entities.members := sound.1.members
    have last : blueprint.entities.members.insertIdx blueprint.entities.members.length member =
        blueprint.entities.members ++ [member] := List.insertIdx_length_self
    obtain ⟨taken, reported⟩ := taking_of_inserted done
    simp only [taken, reported]
    cases extended : list.extendOver member blueprint.extent with
    | error error =>
      constructor
      · rintro ⟨_, added, -⟩
        cases congrArg Prod.snd added
      · rintro ⟨fits, -, -⟩
        have covers := (EntityList.extendOver_eq_ok_iff within).mpr ⟨fits, rfl⟩
        cases extended.symm.trans covers
    | ok grown =>
      obtain ⟨fits, rfl⟩ := (EntityList.extendOver_eq_ok_iff within).mp extended
      simp only [bind, Except.bind, pure, Except.pure, placed, members, last, fits, true_and,
        Prod.mk.injEq, Except.ok.injEq]
      constructor
      · rintro ⟨_, ⟨rfl, rfl⟩, rfl⟩
        exact ⟨rfl, rfl⟩
      · rintro ⟨rfl, rfl⟩
        exact ⟨_, ⟨rfl, rfl⟩, rfl⟩
  · obtain ⟨taken, reported⟩ := taking_of_merged vacant done
    simp only [taken, reported, placed, within, List.append_nil, true_and, Prod.mk.injEq,
      Except.ok.injEq]
    constructor
    · rintro ⟨_, ⟨rfl, rfl⟩, rfl⟩
      exact ⟨rfl, List.append_nil _⟩
    · rintro ⟨rfl, rfl⟩
      exact ⟨_, ⟨rfl, rfl⟩, List.append_nil _⟩

/-- Entities are added one by one if the blueprint that takes them all is within the limit. -/
theorem addEach_eq {entities : List Entity} (strict : blueprint.mode = .strict)
    (vacant : blueprint.entities.Vacant)
    (within : (blueprint.taking merge (entities.map .entity)).extent.oversize? = none) :
    ∃ warnings, blueprint.addEach merge entities =
        .ok (blueprint.taking merge (entities.map .entity), warnings) ∧
      warnings.Perm (entities.flatMap (·.warnings blueprint.table) ++
        (blueprint.laid merge (entities.map .entity)).2.2) := by
  induction entities generalizing blueprint with
  | nil => exact ⟨[], by rw [List.map_nil, taking_nil, addEach], .refl _⟩
  | cons entity entities ih =>
    have parts : (entity :: entities).map Item.entity =
        [.entity entity] ++ entities.map .entity := rfl
    rw [parts, taking_append vacant] at within ⊢
    have fits := Extent.oversize?_of_coverAll within
    obtain ⟨placement, added, own⟩ := (addEntity_eq_ok_iff strict vacant
      (Extent.oversize?_of_coverAll fits)).mpr ⟨fits, rfl, rfl⟩
    obtain ⟨warnings, rest, perm⟩ :=
      @ih (blueprint.taking merge [.entity entity]) strict (vacant_taking vacant _) within
    refine ⟨placement.warnings ++ warnings, ?_, ?_⟩
    · rw [addEach, added]
      dsimp only
      rw [rest]
      rfl
    · rw [own, laid_append, List.flatMap_cons, List.append_assoc, List.append_assoc]
      refine List.Perm.append_left _ ((perm.append_left _).trans ?_)
      exact List.perm_append_comm_assoc _ _ _

/-! ### Groups -/

/-- The association leads into another list, or names a key that this list has issued. -/
def Knows (blueprint : Blueprint) (association : Association) : Prop :=
  association.list = blueprint.entities.id →
    blueprint.entities.arena.Issued association.target

/-- No association in the blueprint or in the item names a key that the list is yet to issue. -/
structure KeysIssued (blueprint : Blueprint) (item : Item) : Prop where
  entities : ∀ key entity, blueprint.entities.entity? key = some entity →
    ∀ association ∈ entity.associations, blueprint.Knows association
  schedules : ∀ schedule ∈ blueprint.schedules, ∀ association ∈ schedule.locomotives,
    blueprint.Knows association
  item : ∀ entity ∈ item.entities, ∀ association ∈ entity.associations,
    blueprint.Knows association

/-- The blueprints cannot be told apart from outside. -/
structure LooksLike (blueprint other : Blueprint) : Prop where
  document : blueprint.toDocument = other.toDocument
  extent : blueprint.extent = other.extent
  boxes : blueprint.leafBoxes = other.leafBoxes

variable {item : Item} {renamed : Equiv.Perm Key} {items others : List Item}

/-- A reachable blueprint is in step with itself. -/
theorem Reachable.mirrors {allowed : Blueprint → Operation → Prop}
    (reachable : Reachable allowed blueprint) :
    EntityList.Mirrors blueprint.entities.arena (.refl Key) blueprint.entities
      blueprint.entities where
  grown := ⟨reachable.coherent.entities.vacant, reachable.filed, .refl _⟩
  otherGrown := ⟨reachable.coherent.entities.vacant, reachable.filed, .refl _⟩
  issued _ _ := rfl
  entities _ := rfl
  index := .refl _

/-- Keys that were issued before are those of both. -/
theorem renames_taking (coherent : blueprint.Coherent)
    (inStep : EntityList.InStep blueprint.entities.arena (.refl Key) renamed blueprint.entities
      (blueprint.laid merge items) (blueprint.laid merge others)) :
    Renames renamed (blueprint.taking merge items) (blueprint.taking merge others) where
  rest := rfl
  id := by
    have vacant := coherent.entities.vacant
    have first := (EntityList.placeAll_sound blueprint.table merge .top items _ vacant).1.id
    have second := (EntityList.placeAll_sound blueprint.table merge .top others _ vacant).1.id
    exact second.trans first.symm
  leaves := by
    have kept : blueprint.entities.leaves.map renamed = blueprint.entities.leaves := by
      refine (List.map_congr_left fun key leaf => ?_).trans (List.map_id _)
      obtain ⟨entity, stored⟩ :=
        Option.isSome_iff_exists.mp ((coherent.entities.mem_leaves_iff key).mp leaf)
      obtain ⟨placed, found, -⟩ := Option.bind_eq_some_iff.mp stored
      exact inStep.mirrors.issued key (.inl (Option.isSome_of_eq_some found))
    rw [leaves_taking, leaves_taking, List.map_append, inStep.leaves, kept]
  entities := inStep.mirrors.entities

/-- What was issued before, and is named, is named alike. -/
theorem namedAlike_taking (issued : blueprint.KeysIssued item)
    (kept : ∀ key, blueprint.entities.arena.Issued key → renamed key = key)
    (id : (blueprint.taking merge [item]).entities.id = blueprint.entities.id) :
    NamedAlike renamed (blueprint.taking merge [item]) where
  entities key entity stored association mem own := by
    have merging : EntityList.KeptByMerging fun entity =>
        ∀ association ∈ entity.associations, blueprint.Knows association :=
      fun _ _ => Entity.forall_associations_merge
    have every := EntityList.Every.placeAll merging blueprint.table merge .top [item]
      blueprint.entities (by simpa [Item.entitiesOfAll] using issued.item) issued.entities
    exact kept _ (every key entity stored association mem (own.trans id))
  schedules schedule mem association listed own :=
    kept _ (issued.schedules schedule mem association listed (own.trans id))

theorem extent_taking_of_inStep
    (inStep : EntityList.InStep blueprint.entities.arena (.refl Key) renamed blueprint.entities
      (blueprint.laid merge items) (blueprint.laid merge others)) :
    (blueprint.taking merge others).extent = (blueprint.taking merge items).extent := by
  simp only [taking, inStep.leaves, List.filterMap_map, Function.comp_def,
    inStep.mirrors.index.box?]

/-- Blueprints that take the same on the ground cannot be told apart. -/
theorem looksLike_taking (coherent : blueprint.Coherent) (issued : blueprint.KeysIssued item)
    (inStep : EntityList.InStep blueprint.entities.arena (.refl Key) renamed blueprint.entities
      (blueprint.laid merge [item]) (blueprint.laid merge others)) :
    (blueprint.taking merge others).LooksLike (blueprint.taking merge [item]) := by
  have renames := renames_taking coherent inStep
  refine ⟨toDocument_eq_of_renames renames (namedAlike_taking issued inStep.mirrors.issued ?_),
    extent_taking_of_inStep inStep, ?_⟩
  · exact (EntityList.placeAll_sound blueprint.table merge .top [item] _
      coherent.entities.vacant).1.id
  · rw [leafBoxes, renames.leaves, List.map_map, leafBoxes]
    exact congrArg (List.map · _) (funext inStep.mirrors.index.box?)

/-- What adding an item and adding its entities one by one on the ground lead to. -/
theorem Reachable.exists_inStep {allowed : Blueprint → Operation → Prop}
    (reachable : Reachable allowed blueprint) (merge : Bool) (item : Item) :
    ∃ renamed, EntityList.InStep blueprint.entities.arena (.refl Key) renamed blueprint.entities
      (blueprint.laid merge [item]) (blueprint.laid merge ((item.grounded .zero).map .entity)) :=
  EntityList.Mirrors.place blueprint.table merge item .top Point.settled_zero reachable.mirrors

/-- Adding a group leads to what adding its entities one by one leads to, each at its place in the
blueprint, if associations name no keys that are yet to be issued. -/
theorem Reachable.group_transparent {allowed : Blueprint → Operation → Prop}
    (reachable : Reachable allowed blueprint) (strict : blueprint.mode = .strict)
    (issued : blueprint.KeysIssued item) {placement : Placement}
    (added : blueprint.addEntity item merge = (after, .ok placement)) :
    ∃ each warnings, blueprint.addEach merge (item.grounded .zero) = .ok (each, warnings) ∧
      each.LooksLike after ∧ warnings.Perm placement.warnings := by
  have coherent := reachable.coherent
  have vacant := coherent.entities.vacant
  obtain ⟨fits, rfl, own⟩ :=
    (addEntity_eq_ok_iff strict vacant reachable.within).mp ⟨placement, added, rfl⟩
  obtain ⟨renamed, inStep⟩ := reachable.exists_inStep merge item
  have looksLike := looksLike_taking coherent issued inStep
  obtain ⟨warnings, one, perm⟩ := addEach_eq strict vacant (looksLike.extent ▸ fits)
  refine ⟨_, warnings, one, looksLike, ?_⟩
  rw [Item.warnings_grounded] at perm
  rw [own]
  exact inStep.warnings ▸ perm

/-! ### Poles in groups -/

/-- Without merging, every entity comes in with its box. -/
theorem extent_taking_entities (vacant : blueprint.entities.Vacant) (entities : List Entity) :
    (blueprint.taking false (entities.map .entity)).extent =
      blueprint.extent.coverAll (entities.map (·.worldBox blueprint.table .zero)) := by
  induction entities generalizing blueprint with
  | nil => rw [List.map_nil, taking_nil]; rfl
  | cons entity entities ih =>
    have parts : (entity :: entities).map Item.entity =
        [.entity entity] ++ entities.map .entity := rfl
    have first : (blueprint.taking false [.entity entity]).extent =
        blueprint.extent.cover (entity.worldBox blueprint.table .zero) := by
      have room := SpatialIndex.room_nextKey vacant
      simp [taking, laid, EntityList.placeAll_singleton, EntityList.placeEntity,
        EntityList.Outcome.members, Member.leavesOfAll, Member.leaves, SpatialIndex.box?_add room,
        Extent.coverAll]
    rw [parts, taking_append vacant, ih (vacant_taking vacant _), first]
    rfl

/-- An item is added if its entities on the ground keep the extent within the limit. -/
theorem Reachable.exists_added {allowed : Blueprint → Operation → Prop}
    (reachable : Reachable allowed blueprint) (strict : blueprint.mode = .strict)
    (within : (blueprint.extent.coverAll
      ((item.grounded .zero).map (·.worldBox blueprint.table .zero))).oversize? = none) :
    (∃ placement,
        blueprint.addEntity item false = (blueprint.taking false [item], .ok placement)) ∧
      ∃ warnings, blueprint.addEach false (item.grounded .zero) =
        .ok (blueprint.taking false ((item.grounded .zero).map .entity), warnings) := by
  have vacant := reachable.coherent.entities.vacant
  obtain ⟨renamed, inStep⟩ := reachable.exists_inStep false item
  rw [← extent_taking_entities vacant] at within
  obtain ⟨placement, added, -⟩ := (addEntity_eq_ok_iff strict vacant reachable.within).mpr
    ⟨extent_taking_of_inStep inStep ▸ within, rfl, rfl⟩
  obtain ⟨warnings, one, -⟩ := addEach_eq strict vacant within
  exact ⟨⟨placement, added⟩, warnings, one⟩

def pole : Entity := .plain "small-electric-pole" ⟨0.5, 0.5⟩

/-- A blueprint with nothing but a pole. -/
def onePole : Blueprint := (empty .empty ⟨0⟩).append pole

/-- A pole that is wired to the first one and, in an inner group, another. -/
def poleGroup : Item :=
  .group none ⟨4, 0⟩ [.entity { pole with neighbours := [⟨⟨0⟩, ⟨0, 0⟩⟩] },
    .group none ⟨4, 0⟩ [.entity pole]]

theorem reachable_onePole : Reachable (fun _ _ => True) onePole :=
  ⟨_, .empty .empty ⟨0⟩, Run.start.append (.empty .empty ⟨0⟩) trivial (by decide)
    (by decide +kernel)⟩

theorem keysIssued_poleGroup : onePole.KeysIssued poleGroup where
  entities := by
    intro key entity stored
    obtain ⟨placed, found, isEntity⟩ := Option.bind_eq_some_iff.mp stored
    rw [onePole, get?_append] at found
    split at found
    · obtain rfl := Option.some.inj found
      obtain rfl := Option.some.inj isEntity
      intro _ mem
      exact nomatch mem
    · simp [empty, EntityList.empty, EntityList.get?] at found
  schedules _ mem := nomatch mem
  item := by
    have issued : onePole.entities.arena.Issued ⟨0, 0⟩ := .inl (by decide +kernel)
    intro entity mem association listed
    simp only [poleGroup, Item.entities, Item.entitiesOfAll, List.append_nil, List.cons_append,
      List.nil_append, List.mem_cons, List.not_mem_nil, or_false] at mem
    rcases mem with rfl | rfl
    · obtain rfl := List.mem_singleton.mp listed
      exact fun _ => issued
    · exact nomatch listed

theorem group_transparent_poleGroup :
    Reachable (fun _ _ => True) onePole ∧ onePole.mode = .strict ∧ onePole.KeysIssued poleGroup ∧
      ∃ after placement each warnings,
        onePole.addEntity poleGroup false = (after, .ok placement) ∧
        onePole.addEach false (poleGroup.grounded .zero) = .ok (each, warnings) ∧
        each.LooksLike after ∧ warnings.Perm placement.warnings := by
  obtain ⟨⟨placement, added⟩, -⟩ :=
    @Reachable.exists_added onePole poleGroup _ reachable_onePole rfl (by decide +kernel)
  obtain ⟨each, warnings, one, looksLike, perm⟩ :=
    reachable_onePole.group_transparent rfl keysIssued_poleGroup added
  exact ⟨reachable_onePole, rfl, keysIssued_poleGroup, _, placement, each, warnings, added, one,
    looksLike, perm⟩

/-! ### A key that is named before it is issued -/

/-- The first of two poles in a group is wired to a key that nothing stands under yet. -/
def hastyGroup : Item :=
  .group none .zero [.entity { pole with neighbours := [⟨⟨0⟩, ⟨1, 0⟩⟩] },
    .entity { pole with position := ⟨4.5, 0.5⟩ }]

/-- The key that is named is that of the pole itself if the poles are added as a group, and that of
the other pole if they are added one by one. -/
theorem group_key_named_early :
    Reachable (fun _ _ => True) (empty .empty ⟨0⟩) ∧ (empty .empty ⟨0⟩).mode = .strict ∧
      ∃ after placement each warnings,
        (empty .empty ⟨0⟩).addEntity hastyGroup false = (after, .ok placement) ∧
        (empty .empty ⟨0⟩).addEach false (hastyGroup.grounded .zero) = .ok (each, warnings) ∧
        each.toDocument ≠ after.toDocument := by
  have reachable : Reachable (fun _ _ => True) (empty .empty ⟨0⟩) := ⟨_, .empty .empty ⟨0⟩, .start⟩
  obtain ⟨⟨placement, added⟩, warnings, one⟩ := @Reachable.exists_added _ hastyGroup _ reachable rfl
    (by decide +kernel)
  refine ⟨reachable, rfl, _, placement, _, warnings, added, one, fun same => ?_⟩
  have differ : sameDocument
      ((empty .empty ⟨0⟩).taking false ((hastyGroup.grounded .zero).map .entity))
      ((empty .empty ⟨0⟩).taking false [hastyGroup]) = false := by decide +kernel
  have agree : sameDocument ((empty .empty ⟨0⟩).taking false [hastyGroup])
      ((empty .empty ⟨0⟩).taking false [hastyGroup]) = true := by decide +kernel
  rw [sameDocument, same, ← sameDocument, agree] at differ
  contradiction

end Blueprint
end FactoryBlueprint
