import FactoryBlueprint.Proofs.EntityList.Placing
import FactoryBlueprint.Proofs.Store.Cells

/-! # Coherent entity lists

An entity list says three times what it holds: in its arena, in the forest of its members and in its
index. `EntityList.Coherent` says that the three agree, and every operation on entity lists keeps it
so, whether it succeeds or not.
-/

namespace FactoryBlueprint.EntityList

theorem contains_eq (list : EntityList) (key : Key) :
    list.contains key = (list.get? key).isSome := rfl

/-- Arena, forest and index agree. -/
structure Coherent (table : PrototypeTable) (list : EntityList) : Prop where
  /-- The members stand in the arena, each object with the group that lists it and its offset. -/
  stands : ∀ member ∈ list.members, member.Stands list.arena .top
  /-- No key is visited twice. -/
  nodup : (Member.keysOfAll list.members).Nodup
  /-- Every object is visited. -/
  reached : ∀ key placed, list.get? key = some placed → key ∈ Member.keysOfAll list.members
  /-- The index holds the boxes of the entities. -/
  indexed : ∀ key, list.index.box? key = (list.get? key).bind (·.worldBox? table)

namespace Coherent

variable {table : PrototypeTable} {list after : EntityList}

theorem vacant (coherent : list.Coherent table) : list.Vacant := by
  intro key missing
  rw [coherent.indexed, missing, Option.bind_none]

theorem room_nextKey (coherent : list.Coherent table) : list.index.Room list.arena.nextKey :=
  SpatialIndex.room_nextKey coherent.vacant

theorem room (coherent : list.Coherent table) {key : Key} {placed : Placed}
    (found : list.get? key = some placed) : list.index.Room key :=
  SpatialIndex.room_of_get? coherent.vacant found

theorem contains_iff (coherent : list.Coherent table) (key : Key) :
    list.contains key = true ↔ key ∈ Member.keysOfAll list.members := by
  rw [contains, Arena.contains_iff]
  constructor
  · rintro ⟨placed, found⟩
    exact coherent.reached key placed found
  · intro mem
    obtain ⟨member, here, inside⟩ := Member.mem_keysOfAll.mp mem
    exact (coherent.stands member here).exists_of_mem_keys inside

theorem empty (table : PrototypeTable) (id : ListId) : (EntityList.empty id).Coherent table where
  stands := by simp [EntityList.empty]
  nodup := List.nodup_nil
  reached := by simp [EntityList.empty, get?]
  indexed := by simp [EntityList.empty, get?]

/-- Merges and what was taken back leave a list coherent. -/
theorem of_placing_nil (coherent : list.Coherent table) (placing : Placing table [] list after) :
    after.Coherent table where
  stands := by
    rw [placing.members]
    exact fun member mem => placing.stands (coherent.stands member mem)
  nodup := by
    rw [placing.members]
    exact coherent.nodup
  reached := by
    intro key placed found
    rw [placing.members]
    cases before : list.get? key with
    | none => exact absurd found (by simp [(placing.get?_eq_none_iff key).mpr ⟨by simp, before⟩])
    | some old => exact coherent.reached key old before
  indexed := by
    intro key
    rw [placing.elsewhere key List.not_mem_nil, coherent.indexed]
    exact (worldBox?_eq_of_fixed table (placing.kept key List.not_mem_nil)).symm

/-- A list is coherent with a member that was placed. -/
theorem of_placing (coherent : list.Coherent table) {member : Member} {i : Nat}
    (placing : Placing table member.keys list after) (stands : member.Stands after.arena .top)
    (nodup : member.keys.Nodup) (bound : i ≤ list.members.length) :
    ({ after with members := list.members.insertIdx i member } : EntityList).Coherent table where
  stands := by
    intro other mem
    rcases (List.mem_insertIdx bound).mp mem with rfl | old
    · exact stands
    · exact placing.stands (coherent.stands other old)
  nodup := by
    refine (Member.keysOfAll_insertIdx_perm bound member).nodup_iff.mpr
      (List.nodup_append'.mpr ⟨nodup, coherent.nodup, fun key new old => ?_⟩)
    have stored := (coherent.contains_iff key).mpr old
    rw [contains_eq, placing.fresh key new, Option.isSome_none] at stored
    exact Bool.false_ne_true stored
  reached := by
    intro key placed found
    refine (Member.keysOfAll_insertIdx_perm bound member).mem_iff.mpr (List.mem_append.mpr ?_)
    by_cases new : key ∈ member.keys
    · exact .inl new
    · cases before : list.get? key with
      | none =>
        have missing := (placing.get?_eq_none_iff key).mpr ⟨new, before⟩
        exact absurd (missing.symm.trans found) (by simp)
      | some old => exact .inr (coherent.reached key old before)
  indexed := by
    intro key
    by_cases new : key ∈ member.keys
    · exact placing.indexed key new
    · have same := worldBox?_eq_of_fixed table (placing.kept key new)
      exact (placing.elsewhere key new).trans ((coherent.indexed key).trans same.symm)

/-- A list is coherent without a member that was cut out of its forest. -/
theorem cut (coherent : list.Coherent table) {old : Member} {members : List Member}
    {index : SpatialIndex}
    (perm : (Member.keysOfAll list.members).Perm (old.keys ++ Member.keysOfAll members))
    (stands : ∀ member ∈ members, member.Stands list.arena .top)
    (boxes : ∀ key, index.box? key = if key ∈ old.keys then none else list.index.box? key) :
    ({ list with
        arena := list.arena.removeAll old.keys
        members := members
        index := index } : EntityList).Coherent table := by
  obtain ⟨-, nodup, disjoint⟩ := List.nodup_append'.mp (perm.nodup_iff.mp coherent.nodup)
  refine ⟨fun member mem => (stands member mem).congr fun key inside => ?_, nodup, ?_, ?_⟩
  · have kept : key ∉ old.keys := fun gone =>
      disjoint gone (Member.mem_keysOfAll.mpr ⟨member, mem, inside⟩)
    rw [Arena.get?_removeAll, if_neg kept]
  · intro key placed found
    simp only [get?, Arena.get?_removeAll] at found
    split at found
    · contradiction
    · rename_i kept
      have before := perm.mem_iff.mp (coherent.reached key placed found)
      exact (List.mem_append.mp before).resolve_left kept
  · intro key
    simp only [get?, Arena.get?_removeAll, boxes key]
    split
    · rfl
    · exact coherent.indexed key

/-- Without its leaves a member has no box in the index. -/
theorem box?_removeAll_leaves (coherent : list.Coherent table) {member : Member} {site : Site}
    (stands : member.Stands list.arena site) (key : Key) :
    (list.index.removeAll member.leaves).box? key =
      if key ∈ member.keys then none else list.index.box? key := by
  rw [SpatialIndex.box?_removeAll]
  by_cases leaf : key ∈ member.leaves
  · rw [if_pos leaf, if_pos (member.leaves_sublist_keys.subset leaf)]
  · rw [if_neg leaf]
    split
    · rename_i inside
      obtain ⟨placed, found⟩ := stands.exists_of_mem_keys inside
      have group : placed.entity? = none := by
        by_contra some
        exact leaf (stands.mem_leaves inside found (Option.isSome_iff_ne_none.mpr some))
      rw [coherent.indexed, get?, found, Option.bind_some, Placed.worldBox?_eq_none_iff.mpr group]
    · rfl

/-- The leaves are the entities. -/
theorem mem_leaves_iff (coherent : list.Coherent table) (key : Key) :
    key ∈ list.leaves ↔ (list.entity? key).isSome := by
  rw [leaves, Member.leavesOfAll_eq, List.mem_flatMap]
  constructor
  · rintro ⟨member, mem, leaf⟩
    obtain ⟨site, entity, found⟩ := (coherent.stands member mem).exists_of_mem_leaves leaf
    simp [entity?, get?, found, Placed.entity?]
  · intro isEntity
    obtain ⟨entity, found⟩ := Option.isSome_iff_exists.mp isEntity
    obtain ⟨placed, here, of⟩ := Option.bind_eq_some_iff.mp found
    obtain ⟨member, mem, inside⟩ := Member.mem_keysOfAll.mp (coherent.reached key placed here)
    exact ⟨member, mem, (coherent.stands member mem).mem_leaves inside here (by simp [of])⟩

/-- An index without boxes has room for those of all entities. -/
theorem roomFor_leaves (coherent : list.Coherent table) :
    SpatialIndex.empty.RoomFor list.leaves := by
  have vacant (key : Key) (_ : list.arena.get? key = none) : SpatialIndex.empty.box? key = none :=
    SpatialIndex.box?_empty key
  refine SpatialIndex.roomFor_of_get? vacant fun key leaf missing => ?_
  have isEntity := (coherent.mem_leaves_iff key).mp leaf
  rw [entity?, get?, missing] at isEntity
  contradiction

theorem get?_ne_none_of_leaf (coherent : list.Coherent table) {member : Member}
    (mem : member ∈ list.members) (key : Key) (leaf : key ∈ member.leaves) :
    list.get? key ≠ none := by
  obtain ⟨site, entity, found⟩ := (coherent.stands member mem).exists_of_mem_leaves leaf
  simp [get?, found]

theorem nodup_leaves (coherent : list.Coherent table) : list.leaves.Nodup :=
  (Member.leavesOfAll_sublist_keysOfAll list.members).nodup coherent.nodup

/-! ### Operations -/

end Coherent

/-- What an insertion leaves: merges at most if it fails, otherwise a merge or a member that stands
in its place and is within the new extent. -/
def Inserted (table : PrototypeTable) (list : EntityList) (extent : Extent) (i : Nat) :
    EntityList × Except Error (Placement × Extent) → Prop
  | (after, .error _) => Placing table [] list after
  | (after, .ok (_, grown)) => (Placing table [] list after ∧ grown = extent) ∨
    ∃ member placed, i ≤ list.members.length ∧ Placing table member.keys list placed ∧
      member.Stands placed.arena .top ∧ member.keys.Nodup ∧
      placed.extendOver member extent = .ok grown ∧
      after = { placed with members := list.members.insertIdx i member }

theorem insert_sound {list : EntityList} (vacant : list.Vacant) (table : PrototypeTable)
    (mode : ValidationMode) (extent : Extent) (i : Nat) (item : Item) (merge : Bool) :
    Inserted table list extent i (list.insert table mode extent i item merge) := by
  unfold EntityList.insert
  split
  · exact .refl table list
  · rename_i bound
    have sound := place_sound table merge .top item list vacant
    split
    · rename_i after key eq
      rw [eq] at sound
      exact .inl ⟨sound, rfl⟩
    · rename_i after member warnings eq
      rw [eq] at sound
      obtain ⟨placing, stands, nodup⟩ := sound
      cases mode.accept warnings with
      | error error => exact placing_discard placing vacant stands
      | ok own =>
        cases extended : after.extendOver member extent with
        | error error =>
          simp only [bind, Except.bind]
          exact placing_discard placing vacant stands
        | ok grown =>
          have members : after.members = list.members := placing.members
          simp only [bind, Except.bind, pure, Except.pure, members]
          exact .inr ⟨member, after, Nat.le_of_not_lt bound, placing, stands, nodup, extended, rfl⟩

namespace Coherent

variable {table : PrototypeTable} {list after : EntityList}

theorem insert (coherent : list.Coherent table) (mode : ValidationMode) (extent : Extent) (i : Nat)
    (item : Item) (merge : Bool) :
    (list.insert table mode extent i item merge).1.Coherent table := by
  have sound := insert_sound coherent.vacant table mode extent i item merge
  generalize list.insert table mode extent i item merge = result at sound ⊢
  obtain ⟨after, _ | ⟨placement, grown⟩⟩ := result
  · exact coherent.of_placing_nil sound
  · rcases sound with ⟨placing, -⟩ | ⟨member, placed, bound, placing, stands, nodup, -, rfl⟩
    · exact coherent.of_placing_nil placing
    · exact coherent.of_placing placing stands nodup bound

/-- Placing while some boxes are taken out of the index is placing, once they are put back. -/
private theorem placing_of_cleared {keys leaves : List Key} {index : SpatialIndex}
    (cleared : Placing table keys { list with index := list.index.removeAll leaves } after)
    (stored : ∀ key ∈ leaves, list.get? key ≠ none)
    (boxes : ∀ key, index.box? key =
      if key ∈ leaves then list.index.box? key else after.index.box? key) :
    Placing table keys list { after with index := index } where
  id := cleared.id
  members := cleared.members
  fresh := cleared.fresh
  stored := cleared.stored
  kept := cleared.kept
  indexed := by
    intro key new
    have other : key ∉ leaves := fun leaf => stored key leaf (cleared.fresh key new)
    rw [boxes, if_neg other]
    exact cleared.indexed key new
  elsewhere := by
    intro key old
    rw [boxes]
    split
    · rfl
    · rename_i other
      rw [cleared.elsewhere key old, SpatialIndex.box?_removeAll, if_neg other]

/-- Every leaf of a list has its box in the index. -/
theorem exists_box (coherent : list.Coherent table) {member : Member} {site : Site}
    (stands : member.Stands list.arena site) {key : Key} (leaf : key ∈ member.leaves) :
    ∃ box, list.index.box? key = some box := by
  obtain ⟨site, entity, found⟩ := stands.exists_of_mem_leaves leaf
  exact ⟨entity.worldBox table site.offset, by
    rw [coherent.indexed, get?, found]
    rfl⟩

/-- The boxes that were taken out of the index are back in it. -/
private theorem box?_addAll_leaves (coherent : list.Coherent table) {member : Member}
    {site : Site} (stands : member.Stands list.arena site) {index : SpatialIndex}
    (rooms : index.RoomFor member.leaves) (key : Key) :
    (index.addAll (member.leaves.filterMap fun key => (list.index.box? key).map (key, ·))).box? key =
      if key ∈ member.leaves then list.index.box? key else index.box? key := by
  rw [SpatialIndex.box?_addAll rooms]
  split
  · rename_i leaf
    obtain ⟨box, found⟩ := coherent.exists_box stands leaf
    rw [found, Option.some_or]
  · rfl

/-- What a replacement leaves: nothing else than before if it fails, otherwise a coherent list with
the extent around all its boxes. -/
def Replaced (table : PrototypeTable) (list : EntityList) (others : List Box) :
    EntityList × Except Error (Placement × Extent) → Prop
  | (after, .error _) => Placing table [] list after
  | (after, .ok (_, extent)) =>
    after.Coherent table ∧ extent = Extent.ofBoxes (after.boxes ++ others)

theorem set_sound (coherent : list.Coherent table) (mode : ValidationMode) (others : List Box)
    (i : Nat) (item : Item) :
    Replaced table list others (list.set table mode others i item) := by
  unfold EntityList.set
  split
  · exact .refl table list
  · rename_i old present
    have stands := coherent.stands old (List.mem_of_getElem? present)
    have stored (key : Key) (inside : key ∈ old.keys) : list.get? key ≠ none := by
      obtain ⟨placed, found⟩ := stands.exists_of_mem_keys inside
      simp [get?, found]
    have storedLeaf := coherent.get?_ne_none_of_leaf (List.mem_of_getElem? present)
    extract_lets oldBoxes cleared
    have vacant : cleared.Vacant := coherent.vacant.removeAll old.leaves
    have sound := place_sound table false .top item cleared vacant
    split
    · exact .refl table list
    · rename_i placed member warnings eq
      rw [eq] at sound
      obtain ⟨placing, standsNew, nodup⟩ := sound
      replace placing : Placing table member.keys cleared placed := placing
      extract_lets extent accepted
      clear_value accepted
      cases accepted with
      | error error =>
        have discarded := placing_discard placing vacant standsNew
        exact placing_of_cleared discarded storedLeaf
          (coherent.box?_addAll_leaves stands (discarded.rooms vacant storedLeaf))
      | ok warnings =>
        -- With the old boxes back, the new member is one that was inserted beside the old one.
        have back := coherent.box?_addAll_leaves stands (placing.rooms vacant storedLeaf)
        have beside := placing_of_cleared placing storedLeaf back
        have bound := (List.getElem?_eq_some_iff.mp present).1
        have both := coherent.of_placing beside standsNew nodup (Nat.le_of_lt bound)
        have members : placed.members = list.members := placing.members
        simp only [members]
        refine ⟨both.cut ?_ ?_ ?_, rfl⟩
        · exact (Member.keysOfAll_insertIdx_perm (Nat.le_of_lt bound) member).trans
            (Member.keysOfAll_set_perm present member).symm
        · intro other mem
          refine both.stands other ((List.mem_insertIdx (Nat.le_of_lt bound)).mpr ?_)
          exact (List.mem_or_eq_of_mem_set mem).symm
        · intro key
          rw [back]
          by_cases inside : key ∈ old.keys
          · have other : key ∉ member.keys := fun new => stored key inside (placing.fresh key new)
            rw [if_pos inside, placing.elsewhere key other, coherent.box?_removeAll_leaves stands,
              if_pos inside]
          · rw [if_neg inside, if_neg fun leaf => inside (old.leaves_sublist_keys.subset leaf)]

theorem set (coherent : list.Coherent table) (mode : ValidationMode) (others : List Box) (i : Nat)
    (item : Item) : (list.set table mode others i item).1.Coherent table := by
  have sound := coherent.set_sound mode others i item
  generalize list.set table mode others i item = result at sound ⊢
  obtain ⟨after, _ | outcome⟩ := result
  · exact coherent.of_placing_nil sound
  · exact sound.1

private theorem find?_stands {arena : Arena Placed} {site : Site} {member found : Member}
    {wanted : Key} (stands : member.Stands arena site)
    (eq : Member.find? wanted member = some found) : ∃ site, found.Stands arena site := by
  induction stands with
  | @entity site key entity here =>
    simp only [Member.find?, Option.ite_none_right_eq_some, Option.some.injEq] at eq
    exact ⟨site, eq.2 ▸ .entity here⟩
  | @group site key members id position here inside ih =>
    simp only [Member.find?] at eq
    split at eq
    · exact ⟨site, Option.some.inj eq ▸ .group here inside⟩
    · rw [Member.findAmong?_eq_findSome?] at eq
      obtain ⟨member, mem, below⟩ := List.exists_of_findSome?_eq_some eq
      exact ih member mem below

/-- What is found under a key stands somewhere. -/
theorem exists_stands (coherent : list.Coherent table) {key : Key} {member : Member}
    (found : list.member? key = some member) : ∃ site, member.Stands list.arena site := by
  rw [member?, Member.findAmong?_eq_findSome?] at found
  obtain ⟨top, mem, inside⟩ := List.exists_of_findSome?_eq_some found
  exact find?_stands (coherent.stands top mem) inside

/-- What a removal by key finds, gives and leaves: the member is taken out wherever it is. -/
theorem removeKey?_eq_some_iff (coherent : list.Coherent table) {key : Key} {item : Item} :
    list.removeKey? key = some (item, after) ↔ ∃ member, list.member? key = some member ∧
      list.item? member = some item ∧
      { list.discard member with members := Member.withoutAmong key list.members } = after := by
  rw [EntityList.removeKey?_eq_some_iff]
  constructor
  · rintro ⟨placed, member, stored, found, shows, rfl⟩
    rw [Member.unlist_eq coherent.stands stored]
    exact ⟨member, found, shows, rfl⟩
  · rintro ⟨member, found, shows, rfl⟩
    obtain ⟨site, stands⟩ := coherent.exists_stands found
    obtain ⟨content, stored⟩ := stands.get?_key
    rw [member?, Member.findAmong?_eq_findSome?] at found
    obtain ⟨top, -, inside⟩ := List.exists_of_findSome?_eq_some found
    rw [Member.key_of_find? inside] at stored
    refine ⟨_, member, stored, ?_, shows, ?_⟩
    · rw [member?, Member.findAmong?_eq_findSome?, found]
    · rw [Member.unlist_eq coherent.stands stored]

theorem removeKey? (coherent : list.Coherent table) {key : Key} {item : Item}
    (removed : list.removeKey? key = some (item, after)) : after.Coherent table := by
  obtain ⟨member, found, -, rfl⟩ := coherent.removeKey?_eq_some_iff.mp removed
  obtain ⟨site, stands⟩ := coherent.exists_stands found
  have perm := Member.keysOfAll_perm_withoutAmong coherent.nodup found
  refine coherent.cut perm ?_ (coherent.box?_removeAll_leaves stands)
  intro other mem
  rw [Member.withoutAmong_eq] at mem
  obtain ⟨other, kept, rfl⟩ := List.mem_map.mp mem
  exact (coherent.stands other (List.mem_filter.mp kept).1).without key

theorem modify? (coherent : list.Coherent table) {key : Key} {f : Entity → Entity}
    (modified : list.modify? table key f = some after) : after.Coherent table := by
  obtain ⟨site, entity, found, rfl⟩ := modify?_eq_some_iff.mp modified
  have outline (other : Key) :
      ((list.arena.modify key (·.mapEntity f)).get? other).map Placed.outline =
        (list.arena.get? other).map Placed.outline := by
    rw [Arena.get?_modify]
    split
    · rename_i same
      rw [same, Option.map_map]
      exact Option.map_congr fun placed _ => placed.outline_mapEntity f
    · rfl
  refine ⟨fun member mem => (coherent.stands member mem).congr fun other _ => outline other,
    coherent.nodup, ?_, ?_⟩
  · intro other placed found
    have before := (congrArg (Option.map Placed.outline) found).symm.trans (outline other)
    obtain ⟨old, here, -⟩ := Option.map_eq_some_iff.mp before.symm
    exact coherent.reached other old here
  · intro other
    simp only [SpatialIndex.box?_add (coherent.room found), get?, Arena.get?_modify]
    split
    · rw [get?] at found
      simp [found, Placed.worldBox?, Placed.entity?, Placed.mapEntity]
    · exact coherent.indexed other

theorem clear (table : PrototypeTable) (list : EntityList) : list.clear.Coherent table where
  stands := by simp [EntityList.clear]
  nodup := List.nodup_nil
  reached := by simp [EntityList.clear, get?]
  indexed := by simp [EntityList.clear, get?]

theorem duplicate (coherent : list.Coherent table) (id : ListId) :
    (list.duplicate table id).Coherent table where
  stands := by
    intro member mem
    refine (coherent.stands member mem).congr fun key _ => ?_
    rw [EntityList.duplicate, Arena.get?_map, Option.map_map]
    exact Option.map_congr fun placed _ => placed.outline_mapEntity _
  nodup := coherent.nodup
  reached := by
    intro key placed found
    rw [get?, EntityList.duplicate, Arena.get?_map] at found
    obtain ⟨old, here, -⟩ := Option.map_eq_some_iff.mp found
    exact coherent.reached key old here
  indexed := by
    intro key
    simp only [EntityList.duplicate, get?, SpatialIndex.box?_addAll coherent.roomFor_leaves,
      SpatialIndex.box?_empty, Option.or_none]
    split
    · rfl
    · rename_i other
      have noEntity : list.entity? key = none := by
        simpa [coherent.mem_leaves_iff] using other
      rw [Arena.get?_map]
      cases found : list.arena.get? key with
      | none => rfl
      | some placed =>
        rw [entity?, get?, found, Option.bind_some] at noEntity
        simp [Placed.worldBox?, noEntity]

theorem filed_duplicate (coherent : list.Coherent table) (id : ListId) :
    (list.duplicate table id).index.Filed :=
  SpatialIndex.filed_empty.addAll (coherent.roomFor_leaves.entries _)

end Coherent
end FactoryBlueprint.EntityList
