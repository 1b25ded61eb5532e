import FactoryBlueprint.EntityList.Placement
import FactoryBlueprint.Proofs.Document.Fields
import FactoryBlueprint.Proofs.EntityList.Forest
import FactoryBlueprint.Proofs.Store.Tenancy
import FactoryBlueprint.Proofs.Store.SpatialIndex

/-! # Placing items

A member stands in an arena if its keys lead to entities and groups as the forest says, each with the
group that lists it and the sum of the positions of the groups around it (`Member.Stands`).

What a half placed item has done to a list so far is a `Placing`: some keys are new, and all that was
there before has kept what merging may not change. `place_sound` says that placing an item, with its
groups to any depth, gives a member that stands where it should under new keys, and
`placing_discard` that discarding it leaves nothing of it.
-/

namespace FactoryBlueprint

/-- The entity without what merging may change. -/
def Entity.fixed (entity : Entity) : Entity :=
  { entity with
    connections := .empty
    neighbours := []
    items := []
    tags := []
    fields := entity.fixedFields }

theorem Entity.fixed_merge (entity other : Entity) : (entity.merge other).fixed = entity.fixed := by
  have fields : (entity.merge other).fixedFields = entity.fixedFields := by
    simp only [fixedFields, merge]
    split
    · exact Fields.without_insert (List.mem_singleton_self _) _ _
    · rfl
  rw [fixed, fields]
  rfl

namespace Site

@[simp] theorem offset_top : top.offset = .zero := rfl

@[simp] theorem offset_within (site : Site) (group : Key) (position : Point) :
    (site.within group position).offset = site.offset + position := rfl

end Site

namespace Placed

/-- The object without what merging may change. -/
def fixed (placed : Placed) : Placed := placed.mapEntity .fixed

/-- The site, and of a group its id and position. -/
def outline (placed : Placed) : Site × Option (Option String × Point) :=
  (placed.toSite,
    match placed.content with
    | .entity _ => none
    | .group id position => some (id, position))

@[simp] theorem outline_mapEntity (placed : Placed) (f : Entity → Entity) :
    (placed.mapEntity f).outline = placed.outline := by
  obtain ⟨site, content⟩ := placed
  cases content <;> rfl

@[simp] theorem offset_mapEntity (placed : Placed) (f : Entity → Entity) :
    (placed.mapEntity f).offset = placed.offset := by
  obtain ⟨site, content⟩ := placed
  cases content <;> rfl

@[simp] theorem entity?_mapEntity (placed : Placed) (f : Entity → Entity) :
    (placed.mapEntity f).entity? = placed.entity?.map f := by
  obtain ⟨site, content⟩ := placed
  cases content <;> rfl

theorem mapEntity_mapEntity (placed : Placed) (f g : Entity → Entity) :
    (placed.mapEntity f).mapEntity g = placed.mapEntity (g ∘ f) := by
  obtain ⟨site, content⟩ := placed
  cases content <;> rfl

/-- Edits that come to the same on the entity are the same. -/
theorem mapEntity_congr {placed : Placed} {f g : Entity → Entity}
    (same : ∀ entity, placed.entity? = some entity → f entity = g entity) :
    placed.mapEntity f = placed.mapEntity g := by
  obtain ⟨site, content⟩ := placed
  cases content with
  | entity entity => exact congrArg (fun kept => Placed.mk site (.entity kept)) (same entity rfl)
  | group id position => rfl

theorem mapEntity_eq_self {placed : Placed} {f : Entity → Entity}
    (same : ∀ entity, placed.entity? = some entity → f entity = entity) :
    placed.mapEntity f = placed := by
  refine (mapEntity_congr same).trans ?_
  obtain ⟨site, content⟩ := placed
  cases content <;> rfl

theorem fixed_mapEntity_merge (placed : Placed) (other : Entity) :
    (placed.mapEntity (·.merge other)).fixed = placed.fixed := by
  obtain ⟨site, content⟩ := placed
  cases content with
  | entity entity => simp only [fixed, mapEntity, Entity.fixed_merge]
  | group id position => rfl

theorem outline_fixed (placed : Placed) : placed.fixed.outline = placed.outline :=
  placed.outline_mapEntity _

theorem worldBox?_fixed (placed : Placed) (table : PrototypeTable) :
    placed.fixed.worldBox? table = placed.worldBox? table := by
  obtain ⟨site, content⟩ := placed
  cases content <;> rfl

theorem worldBox?_eq_none_iff {placed : Placed} {table : PrototypeTable} :
    placed.worldBox? table = none ↔ placed.entity? = none := by simp [worldBox?]

end Placed

/-! ### What stands where -/

/-- A member that is listed at `site` stands in an arena: its keys lead to entities and groups as the
forest says, each with the group that lists it and the sum of the positions of the groups around
it. -/
inductive Member.Stands (arena : Arena Placed) : Site → Member → Prop
  | entity {site : Site} {key : Key} {entity : Entity}
      (found : arena.get? key = some ⟨site, .entity entity⟩) : Stands arena site (.entity key)
  | group {site : Site} {key : Key} {members : List Member} {id : Option String}
      {position : Point} (found : arena.get? key = some ⟨site, .group id position⟩)
      (inside : ∀ member ∈ members, Stands arena (site.within key position) member) :
      Stands arena site (.group key members)

namespace Member.Stands

variable {arena after : Arena Placed} {site : Site} {member : Member}

/-- Only sites and groups count. -/
theorem congr (stands : Stands arena site member)
    (same : ∀ key ∈ keys member,
      (after.get? key).map Placed.outline = (arena.get? key).map Placed.outline) :
    Stands after site member := by
  induction stands with
  | entity found =>
    obtain ⟨⟨site', content⟩, found', outline⟩ := Option.map_eq_some_iff.mp
      ((same _ (List.mem_singleton_self _)).trans (congrArg (Option.map Placed.outline) found))
    cases content with
    | entity entity =>
      simp only [Placed.outline, Prod.mk.injEq, and_true] at outline
      exact .entity (outline ▸ found')
    | group id position => simp [Placed.outline] at outline
  | group found _ ih =>
    obtain ⟨⟨site', content⟩, found', outline⟩ := Option.map_eq_some_iff.mp
      ((same _ List.mem_cons_self).trans (congrArg (Option.map Placed.outline) found))
    cases content with
    | entity entity => simp [Placed.outline] at outline
    | group id position =>
      simp only [Placed.outline, Prod.mk.injEq, Option.some.injEq] at outline
      obtain ⟨rfl, rfl, rfl⟩ := outline
      refine .group found' fun member mem => ih member mem fun key inside => same key ?_
      exact List.mem_cons_of_mem _ (mem_keysOfAll.mpr ⟨member, mem, inside⟩)

/-- The object of a member is where the member is listed. -/
theorem get?_key (stands : Stands arena site member) :
    ∃ content, arena.get? member.key = some ⟨site, content⟩ := by
  cases stands with
  | entity found => exact ⟨_, found⟩
  | group found _ => exact ⟨_, found⟩

/-- An object within a member is listed by a group. -/
theorem exists_parent (stands : Stands arena site member) {key : Key} (mem : key ∈ keys member)
    (other : member.key ≠ key) {placed : Placed} (found : arena.get? key = some placed) :
    ∃ group, placed.parent = some group := by
  induction stands with
  | entity _ => exact absurd (List.mem_singleton.mp mem).symm other
  | @group site group members id position _ inside ih =>
    have below := (List.mem_cons.mp mem).resolve_left (Ne.symm other)
    obtain ⟨member, here, within⟩ := mem_keysOfAll.mp below
    by_cases same : member.key = key
    · obtain ⟨content, stored⟩ := (inside member here).get?_key
      rw [same, found] at stored
      exact ⟨group, congrArg (fun placed : Placed => placed.parent) (Option.some.inj stored)⟩
    · exact ih member here within same

/-- Taking a key out of the group that its object says has it is taking it out wherever it is. -/
theorem strike_eq (stands : Stands arena site member) {unwanted parent : Key} {placed : Placed}
    (found : arena.get? unwanted = some placed) (listed : placed.parent = some parent) :
    strike parent unwanted member = Member.without unwanted member := by
  induction stands with
  | entity _ => rfl
  | @group site group members id position _ inside ih =>
    have same : members.map (strike parent unwanted) = members.map (Member.without unwanted) :=
      List.map_congr_left ih
    simp only [strike, Member.without, strikeAmong_eq, withoutAmong_eq, same]
    split
    · simp only [List.filter_map, Function.comp_def, key_without]
    · rename_i elsewhere
      rw [List.filter_eq_self.mpr fun member mem => decide_eq_true ?_]
      intro here
      obtain ⟨content, stored⟩ := (inside member mem).get?_key
      rw [here, found] at stored
      obtain rfl := Option.some.inj stored
      exact elsewhere (Option.some.inj listed)

/-- Cutting a member out leaves the others where they stand. -/
theorem without (stands : Stands arena site member) (unwanted : Key) :
    Stands arena site (without unwanted member) := by
  induction stands with
  | entity found => exact .entity found
  | group found _ ih =>
    refine .group found fun member mem => ?_
    rw [withoutAmong_eq] at mem
    obtain ⟨member, kept, rfl⟩ := List.mem_map.mp mem
    exact ih member (List.mem_filter.mp kept).1

theorem exists_of_mem_keys (stands : Stands arena site member) {key : Key}
    (mem : key ∈ keys member) : ∃ placed, arena.get? key = some placed := by
  induction stands with
  | entity found => exact ⟨_, List.mem_singleton.mp mem ▸ found⟩
  | group found _ ih =>
    rcases List.mem_cons.mp mem with rfl | mem
    · exact ⟨_, found⟩
    · obtain ⟨member, here, inside⟩ := mem_keysOfAll.mp mem
      exact ih member here inside

/-- The leaves of a member are entities. -/
theorem exists_of_mem_leaves (stands : Stands arena site member) {key : Key}
    (mem : key ∈ leaves member) : ∃ site entity, arena.get? key = some ⟨site, .entity entity⟩ := by
  induction stands with
  | entity found => exact ⟨_, _, List.mem_singleton.mp mem ▸ found⟩
  | group _ _ ih =>
    rw [leaves, leavesOfAll_eq] at mem
    obtain ⟨member, here, inside⟩ := List.mem_flatMap.mp mem
    exact ih member here inside

/-- An entity in a member is one of its leaves. -/
theorem mem_leaves (stands : Stands arena site member) {key : Key} {placed : Placed}
    (mem : key ∈ keys member) (found : arena.get? key = some placed)
    (isEntity : placed.entity?.isSome) : key ∈ leaves member := by
  induction stands with
  | entity _ => exact mem
  | group here _ ih =>
    rcases List.mem_cons.mp mem with rfl | mem
    · rw [here] at found
      obtain rfl := Option.some.inj found
      simp [Placed.entity?] at isEntity
    · obtain ⟨member, mem, inside⟩ := mem_keysOfAll.mp mem
      rw [leaves, leavesOfAll_eq]
      exact List.mem_flatMap.mpr ⟨member, mem, ih member mem inside⟩

end Member.Stands

/-- Taking a key out of the list that its object says has it is taking it out wherever it is. -/
theorem Member.unlist_eq {arena : Arena Placed} {members : List Member}
    (stand : ∀ member ∈ members, member.Stands arena .top) {unwanted : Key} {placed : Placed}
    (found : arena.get? unwanted = some placed) :
    unlist placed.parent unwanted members = withoutAmong unwanted members := by
  rw [withoutAmong_eq]
  cases listed : placed.parent with
  | none =>
    refine (List.map_congr_left fun member mem => ?_).trans (List.map_id _) |>.symm
    obtain ⟨mem, other⟩ := List.mem_filter.mp mem
    refine without_of_notMem fun inside => ?_
    obtain ⟨group, within⟩ :=
      (stand member mem).exists_parent inside (of_decide_eq_true other) found
    exact nomatch listed.symm.trans within
  | some parent =>
    rw [unlist, strikeAmong_eq, List.filter_eq_self.mpr fun member mem => decide_eq_true ?_]
    · exact List.map_congr_left fun member mem => (stand member mem).strike_eq found listed
    · intro here
      obtain ⟨content, stored⟩ := (stand member mem).get?_key
      rw [here, found] at stored
      obtain rfl := Option.some.inj stored
      exact nomatch listed

namespace EntityList

/-! ### Placing an item -/

/-- What `list` has become while items were placed: the given keys are new and indexed by their
boxes, everything else is where it was and has kept what merging may not change. -/
structure Placing (table : PrototypeTable) (keys : List Key) (list after : EntityList) : Prop where
  id : after.id = list.id
  members : after.members = list.members
  fresh : ∀ key ∈ keys, list.get? key = none
  stored : ∀ key ∈ keys, after.get? key ≠ none
  kept : ∀ key ∉ keys, (after.get? key).map Placed.fixed = (list.get? key).map Placed.fixed
  indexed : ∀ key ∈ keys, after.index.box? key = (after.get? key).bind (·.worldBox? table)
  elsewhere : ∀ key ∉ keys, after.index.box? key = list.index.box? key

/-- Keys that lead nowhere have no box. -/
def Vacant (list : EntityList) : Prop := ∀ key, list.get? key = none → list.index.box? key = none

/-- Taking boxes out of the index gives no key a box. -/
theorem Vacant.removeAll {list : EntityList} (vacant : list.Vacant) (keys : List Key) :
    Vacant { list with index := list.index.removeAll keys } := by
  intro key missing
  rw [SpatialIndex.box?_removeAll, vacant key missing, ite_self]

/-- Equal up to merging, objects have equal boxes. -/
theorem worldBox?_eq_of_fixed {before after : Option Placed} (table : PrototypeTable)
    (same : after.map Placed.fixed = before.map Placed.fixed) :
    after.bind (·.worldBox? table) = before.bind (·.worldBox? table) := by
  have boxes := congrArg (Option.bind · (·.worldBox? table)) same
  simpa only [Option.bind_map, Function.comp_def, Placed.worldBox?_fixed] using boxes

theorem outline_eq_of_fixed {before after : Option Placed}
    (same : after.map Placed.fixed = before.map Placed.fixed) :
    after.map Placed.outline = before.map Placed.outline := by
  have outlines := congrArg (Option.map Placed.outline) same
  simpa only [Option.map_map, Function.comp_def, Placed.outline_fixed] using outlines

namespace Placing

variable {table : PrototypeTable} {keys more : List Key} {list middle after : EntityList}

theorem refl (table : PrototypeTable) (list : EntityList) : Placing table [] list list where
  id := rfl
  members := rfl
  fresh := by simp
  stored := by simp
  kept _ _ := rfl
  indexed := by simp
  elsewhere _ _ := rfl

/-- What was there is still there, and nothing else but the new keys. -/
theorem get?_eq_none_iff (placing : Placing table keys list after) (key : Key) :
    after.get? key = none ↔ key ∉ keys ∧ list.get? key = none := by
  by_cases new : key ∈ keys
  · simp [new, placing.stored key new]
  · have kept := placing.kept key new
    simp only [new, not_false_eq_true, true_and]
    rw [← Option.map_eq_none_iff, kept, Option.map_eq_none_iff]

theorem vacant (placing : Placing table keys list after) (before : list.Vacant) :
    after.Vacant := by
  intro key missing
  obtain ⟨old, missing⟩ := (placing.get?_eq_none_iff key).mp missing
  rw [placing.elsewhere key old]
  exact before key missing

/-- There is still room for the boxes of what was there. -/
theorem rooms (placing : Placing table keys list after) (before : list.Vacant) {stored : List Key}
    (there : ∀ key ∈ stored, list.get? key ≠ none) : after.index.RoomFor stored :=
  SpatialIndex.roomFor_of_get? (placing.vacant before) fun key mem missing =>
    there key mem ((placing.get?_eq_none_iff key).mp missing).2

/-- Keys that are placed later are other keys. -/
theorem disjoint (first : Placing table keys list middle)
    (second : Placing table more middle after) : keys.Disjoint more :=
  fun key inKeys inMore => first.stored key inKeys (second.fresh key inMore)

theorem trans (first : Placing table keys list middle)
    (second : Placing table more middle after) : Placing table (keys ++ more) list after where
  id := second.id.trans first.id
  members := second.members.trans first.members
  fresh := by
    intro key mem
    rcases List.mem_append.mp mem with inKeys | inMore
    · exact first.fresh key inKeys
    · exact ((first.get?_eq_none_iff key).mp (second.fresh key inMore)).2
  stored := by
    intro key mem
    rw [Ne, second.get?_eq_none_iff, first.get?_eq_none_iff]
    rintro ⟨notInMore, notInKeys, -⟩
    exact (List.mem_append.mp mem).elim notInKeys notInMore
  kept := by
    intro key notMem
    simp only [List.mem_append, not_or] at notMem
    rw [second.kept key notMem.2, first.kept key notMem.1]
  indexed := by
    intro key mem
    by_cases inMore : key ∈ more
    · exact second.indexed key inMore
    · have inKeys := (List.mem_append.mp mem).resolve_right inMore
      rw [second.elsewhere key inMore, first.indexed key inKeys]
      exact (worldBox?_eq_of_fixed table (second.kept key inMore)).symm
  elsewhere := by
    intro key notMem
    simp only [List.mem_append, not_or] at notMem
    rw [second.elsewhere key notMem.2, first.elsewhere key notMem.1]

/-- Groups that were there are as they were. -/
theorem get?_group (placing : Placing table keys list after) {key : Key} {site : Site}
    {id : Option String} {position : Point}
    (found : list.get? key = some ⟨site, .group id position⟩) :
    after.get? key = some ⟨site, .group id position⟩ := by
  have old : key ∉ keys := fun new => by
    rw [placing.fresh key new] at found
    contradiction
  have kept := placing.kept key old
  rw [found] at kept
  obtain ⟨⟨site', content⟩, found', same⟩ := Option.map_eq_some_iff.mp kept
  cases content with
  | entity entity => simp [Placed.fixed, Placed.mapEntity] at same
  | group id' position' => exact found'.trans (congrArg some same)

/-- A member that stood before stands where it was. -/
theorem stands (placing : Placing table keys list after) {site : Site} {member : Member}
    (before : member.Stands list.arena site) : member.Stands after.arena site := by
  refine before.congr fun key mem => ?_
  obtain ⟨placed, found⟩ := before.exists_of_mem_keys mem
  refine outline_eq_of_fixed (placing.kept key fun new => ?_)
  have missing := placing.fresh key new
  rw [get?, found] at missing
  contradiction

end Placing

/-- What placing one item has done: a new member stands where it should, under keys of its own, or
nothing but a merge has happened. -/
def Outcome.Sound (table : PrototypeTable) (site : Site) (list after : EntityList) :
    Outcome → Prop
  | .inserted member _ =>
    Placing table member.keys list after ∧ member.Stands after.arena site ∧ member.keys.Nodup
  | .merged _ => Placing table [] list after

theorem Outcome.Sound.vacant {table : PrototypeTable} {site : Site} {list after : EntityList}
    {outcome : Outcome} (sound : outcome.Sound table site list after) (before : list.Vacant) :
    after.Vacant := by
  cases outcome with
  | inserted member own => exact sound.1.vacant before
  | merged into => exact Placing.vacant sound before

/-- An object that is put under the next key is all that changes, if the index gets its box. -/
theorem placing_insert (table : PrototypeTable) (list : EntityList) (placed : Placed)
    (index : SpatialIndex)
    (here : index.box? list.arena.nextKey = placed.worldBox? table)
    (elsewhere : ∀ key ≠ list.arena.nextKey, index.box? key = list.index.box? key) :
    Placing table [list.arena.nextKey] list
      { list with arena := list.arena.insert placed, index := index } where
  id := rfl
  members := rfl
  fresh := by
    intro key mem
    rw [List.mem_singleton.mp mem]
    exact list.arena.get?_nextKey
  stored := by
    intro key mem
    simp [get?, Arena.get?_insert, List.mem_singleton.mp mem]
  kept := by
    intro key notMem
    simp only [List.mem_singleton] at notMem
    simp [get?, Arena.get?_insert, notMem]
  indexed := by
    intro key mem
    simp only [List.mem_singleton.mp mem, get?, Arena.get?_insert, if_true, Option.bind_some, here]
  elsewhere := by
    intro key notMem
    exact elsewhere key (by simpa using notMem)

/-- A group by itself has no box. -/
theorem placing_insertGroup {list : EntityList} (vacant : list.Vacant) (table : PrototypeTable)
    (site : Site) (id : Option String) (position : Point) :
    Placing table [list.arena.nextKey] list
      { list with arena := list.arena.insert ⟨site, .group id position⟩ } :=
  placing_insert table list ⟨site, .group id position⟩ list.index
    (vacant _ list.arena.get?_nextKey) fun _ _ => rfl

theorem Vacant.insertGroup {list : EntityList} (vacant : list.Vacant) (site : Site)
    (id : Option String) (position : Point) :
    Vacant { list with arena := list.arena.insert ⟨site, .group id position⟩ } :=
  (placing_insertGroup vacant .empty site id position).vacant vacant

/-- A merge changes nothing that `Placed.fixed` keeps. -/
theorem placing_merge (table : PrototypeTable) (list : EntityList) (key : Key) (entity : Entity) :
    Placing table [] list
      { list with arena := list.arena.modify key (·.mapEntity (·.merge entity)) } where
  id := rfl
  members := rfl
  fresh := by simp
  stored := by simp
  kept := by
    intro other _
    simp only [get?, Arena.get?_modify]
    split
    · rename_i same
      rw [same, Option.map_map]
      exact Option.map_congr fun placed _ => placed.fixed_mapEntity_merge entity
    · rfl
  indexed := by simp
  elsewhere _ _ := rfl

theorem placeEntity_sound {list : EntityList} (vacant : list.Vacant) (table : PrototypeTable)
    (merge : Bool) (site : Site) (entity : Entity) :
    (list.placeEntity table merge site entity).2.Sound table site list
      (list.placeEntity table merge site entity).1 := by
  simp only [placeEntity]
  split
  · exact placing_merge table list _ entity
  · have room : list.index.Room list.arena.nextKey := SpatialIndex.room_nextKey vacant
    refine ⟨placing_insert table list _ _ ?_ ?_, @Member.Stands.entity _ _ _ entity ?_,
      List.nodup_singleton _⟩
    · simp [SpatialIndex.box?_add room, Placed.worldBox?, Placed.entity?]
    · intro key other
      rw [SpatialIndex.box?_add room, if_neg other]
    · simp [Arena.get?_insert]

mutual

theorem place_sound (table : PrototypeTable) (merge : Bool) (site : Site) :
    (item : Item) → (list : EntityList) → list.Vacant →
      (place table merge site item list).2.Sound table site list
        (place table merge site item list).1
  | .entity entity, _, vacant => placeEntity_sound vacant table merge site entity
  | .group id position items, list, vacant => by
    have first := placing_insertGroup vacant table site id position
    obtain ⟨rest, stand, nodup⟩ :=
      placeAll_sound table merge (site.within list.arena.nextKey position) items _ (first.vacant vacant)
    have found := (list.arena.get?_insert ⟨site, .group id position⟩ _).trans (if_pos rfl)
    refine ⟨first.trans rest, .group (rest.get?_group found) stand, List.nodup_cons.mpr ⟨?_, nodup⟩⟩
    exact first.disjoint rest (List.mem_singleton_self _)

/-- Items that are placed one after the other stand under keys of their own. -/
theorem placeAll_sound (table : PrototypeTable) (merge : Bool) (site : Site) :
    (items : List Item) → (list : EntityList) → list.Vacant →
      Placing table (Member.keysOfAll (placeAll table merge site items list).2.1) list
          (placeAll table merge site items list).1 ∧
        (∀ member ∈ (placeAll table merge site items list).2.1,
          member.Stands (placeAll table merge site items list).1.arena site) ∧
        (Member.keysOfAll (placeAll table merge site items list).2.1).Nodup
  | [], list, _ => ⟨.refl table list, by simp [placeAll], List.nodup_nil⟩
  | item :: items, list, vacant => by
    have here := place_sound table merge site item list vacant
    rw [placeAll]
    generalize place table merge site item list = placed at here
    obtain ⟨middle, outcome⟩ := placed
    cases outcome with
    | inserted member own =>
      obtain ⟨first, stands, nodup⟩ := here
      obtain ⟨rest, standAll, nodupAll⟩ :=
        placeAll_sound table merge site items middle (first.vacant vacant)
      refine ⟨first.trans rest, List.forall_mem_cons.mpr ⟨rest.stands stands, standAll⟩, ?_⟩
      exact List.nodup_append'.mpr ⟨nodup, nodupAll, first.disjoint rest⟩
    | merged into =>
      obtain ⟨rest, standAll, nodupAll⟩ :=
        placeAll_sound table merge site items middle (Placing.vacant here vacant)
      exact ⟨Placing.trans here rest, standAll, nodupAll⟩

end

/-- A member that was placed and discarded has left no trace but its merges. -/
theorem placing_discard {table : PrototypeTable} {list after : EntityList} {member : Member}
    {site : Site} (placing : Placing table member.keys list after) (vacant : list.Vacant)
    (stands : member.Stands after.arena site) : Placing table [] list (after.discard member) where
  id := placing.id
  members := placing.members
  fresh := by simp
  stored := by simp
  kept := by
    intro key _
    simp only [get?, discard, Arena.get?_removeAll]
    split
    · rename_i new
      exact congrArg (Option.map Placed.fixed) (placing.fresh key new).symm
    · rename_i old
      exact placing.kept key old
  indexed := by simp
  elsewhere := by
    intro key _
    simp only [discard, SpatialIndex.box?_removeAll]
    by_cases new : key ∈ member.keys
    · rw [vacant key (placing.fresh key new), placing.indexed key new]
      split
      · rfl
      · rename_i notLeaf
        obtain ⟨placed, found⟩ := stands.exists_of_mem_keys new
        have group : placed.entity? = none := by
          by_contra some
          exact notLeaf (stands.mem_leaves new found (Option.isSome_iff_ne_none.mpr some))
        rw [get?, found, Option.bind_some, Placed.worldBox?_eq_none_iff.mpr group]
    · rw [placing.elsewhere key new, if_neg fun leaf => new (member.leaves_sublist_keys.subset leaf)]

/-- What a removal by key finds, gives and leaves. -/
theorem removeKey?_eq_some_iff {list after : EntityList} {key : Key} {item : Item} :
    list.removeKey? key = some (item, after) ↔ ∃ placed member, list.get? key = some placed ∧
      list.member? key = some member ∧ list.item? member = some item ∧
      { list.discard member with members := Member.unlist placed.parent key list.members } =
        after := by
  simp only [removeKey?, Option.bind_eq_bind, Option.bind_eq_some_iff, Option.pure_def,
    Option.some.injEq, Prod.mk.injEq]
  constructor
  · rintro ⟨placed, stored, member, found, _, shows, rfl, rfl⟩
    exact ⟨placed, member, stored, found, shows, rfl⟩
  · rintro ⟨placed, member, stored, found, shows, rfl⟩
    exact ⟨placed, stored, member, found, item, shows, rfl, rfl⟩

/-- What an edit by key finds and leaves: an entity that is there, and the list with it edited and
filed again. -/
theorem modify?_eq_some_iff {list after : EntityList} {table : PrototypeTable} {key : Key}
    {f : Entity → Entity} : list.modify? table key f = some after ↔
      ∃ site entity, list.get? key = some ⟨site, .entity entity⟩ ∧
        after = { list with
          arena := list.arena.modify key (·.mapEntity f)
          index := list.index.add key ((f entity).worldBox table site.offset) } := by
  simp only [modify?, Option.bind_eq_bind, Option.bind_eq_some_iff, Option.pure_def,
    Option.some.injEq]
  constructor
  · rintro ⟨⟨site, content⟩, found, entity, isEntity, rfl⟩
    cases content with
    | entity stored =>
      obtain rfl := Option.some.inj isEntity
      exact ⟨site, stored, found, rfl⟩
    | group id position => contradiction
  · rintro ⟨site, entity, found, rfl⟩
    exact ⟨_, found, entity, rfl, rfl⟩

end EntityList
end FactoryBlueprint
