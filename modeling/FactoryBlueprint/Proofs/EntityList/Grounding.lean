import FactoryBlueprint.Proofs.EntityList.Altering
import FactoryBlueprint.Proofs.EntityList.Every
import FactoryBlueprint.Proofs.Blueprint.Filing
import FactoryBlueprint.Proofs.Geometry.Shift

/-! # Entities on the ground

An entity of a group is grounded if its position is told from the origin of the blueprint and no
longer from that of the group. Placing a group does what placing its entities one by one on the
ground does, but for the keys that they get (`Mirrors.place`): the two lists are kept in step by a
renaming of keys (`Mirrors`), under which the same entities stand in the same boxes and are found in
the same order.
-/

namespace FactoryBlueprint

/-! ### Positions that zero can be added to -/

/-- Adding the origin changes nothing, not even the sign of a zero. -/
def Point.Settled (point : Point) : Prop := Point.zero + point = point

namespace Point

variable {p q : Point}

theorem settled_iff : p.Settled ↔ p.x ≠ .zero true ∧ p.y ≠ .zero true := by
  have each (x : Binary64) : 0 + x = x ↔ x ≠ .zero true := by
    refine ⟨?_, Binary64.zero_add⟩
    rintro same rfl
    rw [Binary64.zero_eq] at same
    exact nomatch same
  rw [← each, ← each, Settled]
  obtain ⟨x, y⟩ := p
  exact Point.mk.injEq ..  ▸ Iff.rfl

theorem settled_zero : Point.zero.Settled :=
  settled_iff.mpr (by
    change (0 : Binary64) ≠ _ ∧ (0 : Binary64) ≠ _
    rw [Binary64.zero_eq]
    exact ⟨nofun, nofun⟩)

theorem Settled.add (settled : p.Settled) (q : Point) : (p + q).Settled := by
  obtain ⟨x, y⟩ := settled_iff.mp settled
  exact settled_iff.mpr ⟨Binary64.add_ne_zero_true x, Binary64.add_ne_zero_true y⟩

end Point

/-! ### Grounded entities -/

/-- The entity with its position told from the origin of the blueprint, for a group at `offset`. -/
def Entity.grounded (entity : Entity) (offset : Point) : Entity :=
  { entity with position := offset + entity.position }

theorem Entity.worldBox_grounded {entity : Entity} {offset : Point}
    (settled : (offset + entity.position).Settled) (table : PrototypeTable) :
    (entity.grounded offset).worldBox table .zero = entity.worldBox table offset := by
  have position : offset + entity.position + .zero = entity.position + offset := by
    rw [Point.add_comm, settled, Point.add_comm]
  exact congrArg (entity.collisionBox table).translate position

namespace Item

mutual

/-- The entities of an item in order, grounded. -/
def grounded (offset : Point) : Item → List Entity
  | .entity e => [e.grounded offset]
  | .group _ position members => groundedAll (offset + position) members

def groundedAll (offset : Point) : List Item → List Entity
  | [] => []
  | item :: items => grounded offset item ++ groundedAll offset items

end

mutual

theorem warnings_grounded (table : PrototypeTable) :
    (item : Item) → (offset : Point) →
      (item.grounded offset).flatMap (·.warnings table) = item.warnings table
  | .entity _, _ => List.append_nil _
  | .group _ position members, offset =>
    warnings_groundedAll table members (offset + position)

theorem warnings_groundedAll (table : PrototypeTable) :
    (items : List Item) → (offset : Point) →
      (groundedAll offset items).flatMap (·.warnings table) = warningsOfAll table items
  | [], _ => rfl
  | item :: items, offset => by
    rw [groundedAll, List.flatMap_append, warnings_grounded table item,
      warnings_groundedAll table items, warningsOfAll]

end

end Item

namespace EntityList

/-- The entity under a key, grounded. -/
def grounded? (list : EntityList) (key : Key) : Option Entity :=
  (list.get? key).bind fun placed => placed.entity?.map (·.grounded placed.offset)

variable {table : PrototypeTable} {list after : EntityList} {key : Key}

theorem grounded?_isSome_iff : (list.grounded? key).isSome ↔ (list.entity? key).isSome := by
  rw [grounded?, entity?]
  cases list.get? key <;> simp

theorem grounded?_eq_none (missing : list.get? key = none) : list.grounded? key = none := by
  rw [grounded?, missing]
  rfl

/-- Whether an entity absorbs another is seen from where it stands. -/
theorem absorbs_eq (list : EntityList) (entity : Entity) (world : Point) (key : Key) :
    list.absorbs entity world key =
      (list.grounded? key).any fun placed =>
        placed.position.near world && placed.mergeableWith entity := by
  rw [absorbs, grounded?]
  cases list.get? key with
  | none => rfl
  | some placed =>
    obtain ⟨offset, content⟩ := placed
    cases content with
    | entity stored => rfl
    | group id position => simp [Placed.entity?]

theorem collision?_eq (list : EntityList) (table : PrototypeTable) (entity : Entity) (world : Point)
    (key : Key) : list.collision? table entity world key =
      (list.grounded? key).bind fun placed =>
        if (placed.mask table).intersects (entity.mask table) then
          some (.overlap entity.name placed.name world)
        else none := by
  simp only [collision?, entity?, grounded?]
  cases list.get? key with
  | none => rfl
  | some placed =>
    obtain ⟨offset, content⟩ := placed
    cases content <;> rfl

theorem grounded?_insert (list : EntityList) (placed : Placed) (index : SpatialIndex) (key : Key) :
    ({ list with arena := list.arena.insert placed, index := index } : EntityList).grounded? key =
      if key = list.arena.nextKey then placed.entity?.map (·.grounded placed.offset)
      else list.grounded? key := by
  rw [grounded?, get?, Arena.get?_insert]
  split <;> rfl

theorem grounded?_merge (list : EntityList) (into : Key) (entity : Entity) (key : Key) :
    ({ list with arena := list.arena.modify into (·.mapEntity (·.merge entity)) } :
      EntityList).grounded? key =
      if key = into then (list.grounded? into).map (·.merge entity) else list.grounded? key := by
  rw [grounded?, get?, Arena.get?_modify]
  split
  · rw [grounded?, get?]
    cases list.arena.get? into with
    | none => rfl
    | some placed =>
      obtain ⟨offset, content⟩ := placed
      cases content <;> rfl
  · rfl

/-! ### Placing several items -/

namespace Outcome

/-- The new member, if there is one. -/
def members : Outcome → List Member
  | .inserted member _ => [member]
  | .merged _ => []

def warnings : Outcome → List Warning
  | .inserted _ warnings => warnings
  | .merged _ => []

end Outcome

theorem placeAll_cons (table : PrototypeTable) (merge : Bool) (site : Site) (item : Item)
    (items : List Item) (list : EntityList) : placeAll table merge site (item :: items) list =
      let first := place table merge site item list
      let rest := placeAll table merge site items first.1
      (rest.1, first.2.members ++ rest.2.1, first.2.warnings ++ rest.2.2) := by
  rw [placeAll]
  obtain ⟨middle, _ | _⟩ := place table merge site item list <;> rfl

theorem placeAll_append (table : PrototypeTable) (merge : Bool) (site : Site)
    (items others : List Item) (list : EntityList) :
    placeAll table merge site (items ++ others) list =
      let first := placeAll table merge site items list
      let rest := placeAll table merge site others first.1
      (rest.1, first.2.1 ++ rest.2.1, first.2.2 ++ rest.2.2) := by
  induction items generalizing list with
  | nil => rfl
  | cons item items ih => simp only [List.cons_append, placeAll_cons, ih, List.append_assoc]

/-- Placing one entity. -/
theorem placeAll_singleton (table : PrototypeTable) (merge : Bool) (site : Site)
    (entity : Entity) (list : EntityList) :
    placeAll table merge site [.entity entity] list =
      let placed := list.placeEntity table merge site entity
      (placed.1, placed.2.members, placed.2.warnings) := by
  rw [placeAll_cons]
  simp only [placeAll, place, List.append_nil]

/-! ### Two lists in step -/

/-- An entity that was there is there. -/
theorem Altered.isSome_grounded? {merge : Bool} {given : Entity → Prop}
    (altered : Altered merge given [] list after) (here : (list.grounded? key).isSome) :
    (after.grounded? key).isSome := by
  rw [grounded?_isSome_iff] at here ⊢
  obtain ⟨entity, stored⟩ := Option.isSome_iff_exists.mp here
  obtain ⟨placed, found, isEntity⟩ := Option.bind_eq_some_iff.mp stored
  obtain ⟨others, -, later⟩ := altered.kept key List.not_mem_nil placed found
  rw [entity?, later, Option.bind_some, Placed.entity?_mapEntity, isEntity]
  rfl

/-- The leaves of members that stand are entities. -/
theorem isSome_grounded?_of_stands {members : List Member} {site : Site}
    (stands : ∀ member ∈ members, member.Stands list.arena site)
    (mem : key ∈ Member.leavesOfAll members) : (list.grounded? key).isSome := by
  rw [Member.leavesOfAll_eq] at mem
  obtain ⟨member, here, leaf⟩ := List.mem_flatMap.mp mem
  obtain ⟨site, entity, found⟩ := (stands member here).exists_of_mem_leaves leaf
  rw [grounded?, get?, found]
  rfl

/-- A list that has come from one with the given arena, by placing items. -/
structure Grown (base : Arena Placed) (list : EntityList) : Prop where
  vacant : list.Vacant
  filed : list.index.Filed
  ages : base.Ages list.arena

namespace Grown

variable {base : Arena Placed}

theorem not_issued (grown : list.Grown base) : ¬ base.Issued list.arena.nextKey :=
  fun issued => list.arena.not_issued_nextKey (issued.later grown.ages)

theorem box?_nextKey (grown : list.Grown base) : list.index.box? list.arena.nextKey = none :=
  grown.vacant _ list.arena.get?_nextKey

theorem room_nextKey (grown : list.Grown base) : list.index.Room list.arena.nextKey :=
  SpatialIndex.room_nextKey grown.vacant

theorem placeEntity (grown : list.Grown base) (table : PrototypeTable) (merge : Bool)
    (site : Site) (entity : Entity) :
    (list.placeEntity table merge site entity).1.Grown base where
  vacant := (placeEntity_sound grown.vacant table merge site entity).vacant grown.vacant
  filed := filed_placeEntity grown.filed grown.vacant table merge site entity
  ages := grown.ages.trans
    (@altered_placeEntity (fun _ => True) list table merge site entity trivial).ages

/-- A group by itself has no box. -/
theorem insertGroup (grown : list.Grown base) (site : Site) (id : Option String)
    (position : Point) :
    ({ list with arena := list.arena.insert ⟨site, .group id position⟩ } : EntityList).Grown
      base where
  vacant := grown.vacant.insertGroup site id position
  filed := grown.filed
  ages := grown.ages.trans (list.arena.ages_insert _)

end Grown

/-- Two lists that have come from one with the given arena are in step: the same entities stand in
the same boxes, found in the same order, under keys that are named differently if they are new. -/
structure Mirrors (base : Arena Placed) (rename : Equiv.Perm Key) (list other : EntityList) :
    Prop where
  grown : list.Grown base
  otherGrown : other.Grown base
  issued : ∀ key, base.Issued key → rename key = key
  entities : ∀ key, other.grounded? (rename key) = list.grounded? key
  index : list.index.Renames rename other.index

/-- What was placed in each of two lists keeps them in step: the new leaves are named accordingly,
and the same warnings are given. -/
structure InStep (base : Arena Placed) (rename renamed : Equiv.Perm Key) (before : EntityList)
    (first second : EntityList × List Member × List Warning) : Prop where
  mirrors : Mirrors base renamed first.1 second.1
  kept : ∀ key, (before.grounded? key).isSome → renamed key = rename key
  leaves : Member.leavesOfAll second.2.1 = (Member.leavesOfAll first.2.1).map renamed
  warnings : second.2.2 = first.2.2

namespace Mirrors

variable {base : Arena Placed} {rename : Equiv.Perm Key} {other : EntityList}

/-- A group has no part in it. -/
theorem insertGroup (mirrors : Mirrors base rename list other) (site : Site)
    (id : Option String) (position : Point) :
    Mirrors base rename { list with arena := list.arena.insert ⟨site, .group id position⟩ }
      other where
  grown := mirrors.grown.insertGroup site id position
  otherGrown := mirrors.otherGrown
  issued := mirrors.issued
  entities key := by
    rw [mirrors.entities, grounded?_insert list _ list.index]
    split
    · rename_i new
      rw [new, grounded?_eq_none list.arena.get?_nextKey]
      rfl
    · rfl
  index := mirrors.index

variable {site : Site} {offset : Point} {entity : Entity}

/-- What absorbs an entity in a group absorbs it on the ground. -/
theorem absorber?_eq (mirrors : Mirrors base rename list other) (area : Box) (world : Point) :
    (other.index.query area).find? (other.absorbs (entity.grounded offset) world) =
      ((list.index.query area).find? (list.absorbs entity world)).map rename := by
  rw [mirrors.index.query, List.find?_map]
  congr 1
  refine congrArg (List.find? · _) (funext fun key => ?_)
  rw [Function.comp_apply, absorbs_eq, absorbs_eq, mirrors.entities]
  rfl

/-- What an entity in a group collides with it collides with on the ground. -/
theorem collisions_eq (mirrors : Mirrors base rename list other) (area : Box) (world : Point) :
    (other.index.query area).filterMap (other.collision? table (entity.grounded offset) world) =
      (list.index.query area).filterMap (list.collision? table entity world) := by
  rw [mirrors.index.query, List.filterMap_map]
  refine congrArg (List.filterMap · _) (funext fun key => ?_)
  rw [Function.comp_apply, collision?_eq, collision?_eq, mirrors.entities]
  rfl

/-- The entity is absorbed in both. -/
theorem merge (mirrors : Mirrors base rename list other) (into : Key)
    (grown : ({ list with arena := list.arena.modify into (·.mapEntity (·.merge entity)) } :
      EntityList).Grown base)
    (otherGrown : ({ other with
      arena := other.arena.modify (rename into) (·.mapEntity (·.merge (entity.grounded offset))) } :
      EntityList).Grown base) :
    Mirrors base rename
      { list with arena := list.arena.modify into (·.mapEntity (·.merge entity)) }
      { other with
        arena := other.arena.modify (rename into)
          (·.mapEntity (·.merge (entity.grounded offset))) } where
  grown := grown
  otherGrown := otherGrown
  issued := mirrors.issued
  entities key := by
    simp only [grounded?_merge, rename.injective.eq_iff, mirrors.entities]
    rfl
  index := mirrors.index

/-- The entity stands in both, under a key of its own in each. -/
theorem insert (mirrors : Mirrors base rename list other)
    (settled : (site.offset + entity.position).Settled) (area : Box)
    (grown : ({ list with
      arena := list.arena.insert ⟨site, .entity entity⟩
      index := list.index.add list.arena.nextKey area } : EntityList).Grown base)
    (otherGrown : ({ other with
      arena := other.arena.insert ⟨.top, .entity (entity.grounded site.offset)⟩
      index := other.index.add other.arena.nextKey area } : EntityList).Grown base) :
    Mirrors base (redirect rename list.arena.nextKey other.arena.nextKey)
      { list with
        arena := list.arena.insert ⟨site, .entity entity⟩
        index := list.index.add list.arena.nextKey area }
      { other with
        arena := other.arena.insert ⟨.top, .entity (entity.grounded site.offset)⟩
        index := other.index.add other.arena.nextKey area } where
  grown := grown
  otherGrown := otherGrown
  issued key before := by
    have same := mirrors.issued key before
    rw [redirect_of_ne, same]
    · rintro rfl
      exact mirrors.grown.not_issued before
    · rw [same]
      rintro rfl
      exact mirrors.otherGrown.not_issued before
  entities key := by
    simp only [grounded?_insert, redirect_eq_target_iff]
    split
    · have position : Point.zero + (site.offset + entity.position) = site.offset + entity.position :=
        settled
      simp only [Placed.entity?, Option.map_some, Entity.grounded, Site.offset_top, position]
    · rename_i differ
      exact apply_redirect mirrors.entities (grounded?_eq_none list.arena.get?_nextKey)
        (grounded?_eq_none other.arena.get?_nextKey) differ
  index := mirrors.index.add mirrors.grown.filed mirrors.otherGrown.filed mirrors.grown.box?_nextKey
    mirrors.otherGrown.box?_nextKey mirrors.grown.room_nextKey mirrors.otherGrown.room_nextKey area

/-- An entity of a group is placed as it is on the ground. -/
theorem placeEntity (mirrors : Mirrors base rename list other)
    (settled : (site.offset + entity.position).Settled) (table : PrototypeTable) (merge : Bool) :
    ∃ renamed, InStep base rename renamed list
      (placeAll table merge site [.entity entity] list)
      (placeAll table merge .top [.entity (entity.grounded site.offset)] other) := by
  have grown := mirrors.grown.placeEntity table merge site entity
  have otherGrown := mirrors.otherGrown.placeEntity table merge .top (entity.grounded site.offset)
  have world : Point.zero + (entity.grounded site.offset).position =
      site.offset + entity.position := settled
  have absorber : (if merge then (other.index.query (entity.worldBox table site.offset)).find?
        (other.absorbs (entity.grounded site.offset) (site.offset + entity.position)) else none) =
      (if merge then (list.index.query (entity.worldBox table site.offset)).find?
        (list.absorbs entity (site.offset + entity.position)) else none).map rename := by
    cases merge with
    | true => exact mirrors.absorber?_eq _ _
    | false => rfl
  simp only [placeAll_singleton, EntityList.placeEntity, Site.offset_top] at grown otherGrown ⊢
  rw [Entity.worldBox_grounded settled, world, absorber] at otherGrown ⊢
  generalize (if merge then (list.index.query (entity.worldBox table site.offset)).find?
    (list.absorbs entity (site.offset + entity.position)) else none) = found at grown otherGrown ⊢
  cases found with
  | some into =>
    exact ⟨rename, mirrors.merge into grown otherGrown, fun _ _ => rfl, rfl, rfl⟩
  | none =>
    refine ⟨_, mirrors.insert settled _ grown otherGrown, fun key here => ?_, ?_,
      mirrors.collisions_eq _ _⟩
    · refine redirect_of_ne ?_ ?_
      · rintro rfl
        rw [grounded?_eq_none list.arena.get?_nextKey] at here
        contradiction
      · intro same
        rw [← mirrors.entities, same, grounded?_eq_none other.arena.get?_nextKey] at here
        contradiction
    · exact congrArg (fun key => [key]) redirect_self.symm

end Mirrors

/-- Items placed after others keep the lists in step. -/
theorem InStep.append {base : Arena Placed} {rename middle renamed : Equiv.Perm Key}
    {before : EntityList} {first second more others : EntityList × List Member × List Warning}
    (here : InStep base rename middle before first second)
    (later : InStep base middle renamed first.1 more others)
    (lasting : ∀ key, (before.grounded? key).isSome → (first.1.grounded? key).isSome)
    (stand : ∀ key ∈ Member.leavesOfAll first.2.1, (first.1.grounded? key).isSome) :
    InStep base rename renamed before (more.1, first.2.1 ++ more.2.1, first.2.2 ++ more.2.2)
      (others.1, second.2.1 ++ others.2.1, second.2.2 ++ others.2.2) where
  mirrors := later.mirrors
  kept key stored := (later.kept key (lasting key stored)).trans (here.kept key stored)
  leaves := by
    have same : (Member.leavesOfAll first.2.1).map middle =
        (Member.leavesOfAll first.2.1).map renamed :=
      List.map_congr_left fun key leaf => (later.kept key (stand key leaf)).symm
    rw [Member.leavesOfAll_append, here.leaves, later.leaves, same, Member.leavesOfAll_append,
      List.map_append]
  warnings := congrArg₂ (· ++ ·) here.warnings later.warnings

mutual

/-- Placing an item, with its groups to any depth, does what placing its entities on the ground
does. -/
theorem Mirrors.place {base : Arena Placed} (table : PrototypeTable) (merge : Bool) :
    (item : Item) → (site : Site) → site.offset.Settled → {rename : Equiv.Perm Key} →
      {list other : EntityList} → Mirrors base rename list other →
      ∃ renamed, InStep base rename renamed list (placeAll table merge site [item] list)
        (placeAll table merge .top ((item.grounded site.offset).map .entity) other)
  | .entity entity => by
    intro site settled _ _ _ mirrors
    exact mirrors.placeEntity (settled.add entity.position) table merge
  | .group id position members => by
    intro site settled rename list other mirrors
    obtain ⟨renamed, inStep⟩ := Mirrors.placeAll table merge members
      (site.within list.arena.nextKey position)
      (settled.add position) (mirrors.insertGroup site id position)
    refine ⟨renamed, inStep.mirrors, fun key stored => inStep.kept key ?_, ?_, ?_⟩
    · have same := mirrors.insertGroup site id position |>.entities key
      rw [← same, mirrors.entities]
      exact stored
    · rw [placeAll_cons]
      exact inStep.leaves.trans (congrArg (List.map renamed) (List.append_nil _).symm)
    · rw [placeAll_cons]
      exact inStep.warnings.trans (List.append_nil _).symm

/-- Placing items one after the other does what placing their entities on the ground does. -/
theorem Mirrors.placeAll {base : Arena Placed} (table : PrototypeTable) (merge : Bool) :
    (items : List Item) → (site : Site) → site.offset.Settled → {rename : Equiv.Perm Key} →
      {list other : EntityList} → Mirrors base rename list other →
      ∃ renamed, InStep base rename renamed list (placeAll table merge site items list)
        (placeAll table merge .top ((Item.groundedAll site.offset items).map .entity) other)
  | [] => fun _ _ rename _ _ mirrors => ⟨rename, mirrors, fun _ _ => rfl, rfl, rfl⟩
  | item :: items => by
    intro site settled _ list other mirrors
    obtain ⟨middle, first⟩ := Mirrors.place table merge item site settled mirrors
    obtain ⟨renamed, rest⟩ := Mirrors.placeAll table merge items site settled first.mirrors
    have altered : Altered merge (fun _ => True) [] list _ :=
      altered_placeAll table merge site [item] list fun _ _ => trivial
    have sound := placeAll_sound table merge site [item] list mirrors.grown.vacant
    refine ⟨renamed, ?_⟩
    rw [Item.groundedAll, List.map_append, ← List.singleton_append, placeAll_append,
      placeAll_append]
    exact first.append rest (fun _ => altered.isSome_grounded?)
      fun _ => isSome_grounded?_of_stands sound.2.1

end

end EntityList
end FactoryBlueprint
