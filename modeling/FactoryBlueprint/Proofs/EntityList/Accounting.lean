import FactoryBlueprint.Proofs.EntityList.Grounding
import FactoryBlueprint.Proofs.Store.Reach

/-! # Accounts of what is placed

The parts of an item are its entities in order, each with the sum of the positions of the groups
around it. A part is absorbed by one entity that can take it (`Part.Takes`) if merging and there is
any, and is stored as a leaf of its own otherwise (`Settles`). Entities that came in with earlier
parts can take later ones. An item that is placed has an account: what became of each part, one after
the other, and nothing else happens to entities (`exists_accounted_place`).

The index is asked for boxes that overlap that of a part. It finds every entity that can take the part
(`Sited.takes_iff`), since such an entity has a box of the same shape.
-/

namespace FactoryBlueprint

/-- An entity with the sum of the positions of the groups around it. -/
structure Part where
  offset : Point
  entity : Entity

namespace Part

/-- The position in the blueprint. -/
def position (part : Part) : Point := part.offset + part.entity.position

/-- The box in the blueprint. -/
def box (part : Part) (table : PrototypeTable) : Box := part.entity.worldBox table part.offset

def merge (part other : Part) : Part := { part with entity := part.entity.merge other.entity }

/-- The part can absorb the other one: it overlaps it, stands at the same place within the tolerance,
and differs from it in nothing that merging cannot bring together. -/
structure Takes (table : PrototypeTable) (part other : Part) : Prop where
  overlaps : (part.box table).overlaps (other.box table) = true
  near : part.position.near other.position = true
  mergeable : part.entity.mergeableWith other.entity = true

/-- What the part has become while it absorbed others. -/
structure Keeps (part now : Part) : Prop where
  offset : now.offset = part.offset
  id : now.entity.id = part.entity.id
  name : now.entity.name = part.entity.name
  position : now.entity.position = part.entity.position
  direction : now.entity.direction = part.entity.direction
  extra : now.entity.extra = part.entity.extra
  /-- All fields of its kind but the control behaviour. -/
  fields : now.entity.fixedFields = part.entity.fixedFields

variable {table : PrototypeTable} {part other now : Part}

theorem takes_iff : part.Takes table other ↔ (part.box table).overlaps (other.box table) = true ∧
    part.position.near other.position = true ∧ part.entity.mergeableWith other.entity = true :=
  ⟨fun takes => ⟨takes.overlaps, takes.near, takes.mergeable⟩,
    fun takes => ⟨takes.1, takes.2.1, takes.2.2⟩⟩

instance : Decidable (part.Takes table other) := decidable_of_iff _ takes_iff.symm

theorem Keeps.refl (part : Part) : part.Keeps part := ⟨rfl, rfl, rfl, rfl, rfl, rfl, rfl⟩

theorem Keeps.trans (first : part.Keeps other) (second : other.Keeps now) : part.Keeps now where
  offset := second.offset.trans first.offset
  id := second.id.trans first.id
  name := second.name.trans first.name
  position := second.position.trans first.position
  direction := second.direction.trans first.direction
  extra := second.extra.trans first.extra
  fields := second.fields.trans first.fields

theorem keeps_merge (part other : Part) : part.Keeps (part.merge other) where
  offset := rfl
  id := rfl
  name := rfl
  position := rfl
  direction := rfl
  extra := rfl
  fields := congrArg Entity.fields (part.entity.fixed_merge other.entity)

theorem Keeps.box (keeps : part.Keeps now) (table : PrototypeTable) :
    now.box table = part.box table := by
  simp only [Part.box, Entity.worldBox, Entity.collisionBox, keeps.offset, keeps.name,
    keeps.position, keeps.direction]

/-- What can be brought together has boxes of one shape. -/
theorem Takes.collisionBox (takes : part.Takes table other) :
    part.entity.collisionBox table = other.entity.collisionBox table := by
  have mergeable := takes.mergeable
  simp only [Entity.mergeableWith, Bool.and_eq_true, decide_eq_true_eq] at mergeable
  simp only [Entity.collisionBox, mergeable]

end Part

namespace Item

mutual

/-- The entities of an item in order, for a group around it at `offset`. -/
def parts (offset : Point) : Item → List Part
  | .entity e => [⟨offset, e⟩]
  | .group _ position members => partsOfAll (offset + position) members

def partsOfAll (offset : Point) : List Item → List Part
  | [] => []
  | item :: items => parts offset item ++ partsOfAll offset items

end

end Item

/-- What has become of a part. -/
inductive Fate where
  /-- It was absorbed by the entity under the key. -/
  | absorbed (host : Key)
  /-- It is a leaf of its own under the key. -/
  | stored (key : Key)

namespace Fate

/-- The key of the new leaf, if there is one. -/
def newKey? : Fate → Option Key
  | absorbed _ => none
  | stored key => some key

end Fate

/-- What one part does to the entities under their keys. If merging, it is absorbed by one that can
take it, if there is any; otherwise it is stored as it is. -/
inductive Settles (table : PrototypeTable) (merge : Bool) (before : Key → Option Part)
    (part : Part) : Fate → (Key → Option Part) → Prop
  | absorbed {host : Key} {there : Part} (merging : merge = true) (here : before host = some there)
      (takes : there.Takes table part) :
      Settles table merge before part (.absorbed host)
        (Function.update before host (some (there.merge part)))
  | stored {key : Key}
      (alone : merge = true → ∀ other there, before other = some there → ¬ there.Takes table part)
      (vacant : before key = none) :
      Settles table merge before part (.stored key) (Function.update before key (some part))

/-- What parts do to the entities under their keys, one after the other. -/
inductive Accounts (table : PrototypeTable) (merge : Bool) :
    (Key → Option Part) → List (Part × Fate) → (Key → Option Part) → Prop
  | nil (before : Key → Option Part) : Accounts table merge before [] before
  | cons {before middle after : Key → Option Part} {part : Part} {fate : Fate}
      {account : List (Part × Fate)} (first : Settles table merge before part fate middle)
      (rest : Accounts table merge middle account after) :
      Accounts table merge before ((part, fate) :: account) after

/-- The parts that are leaves of their own, under their keys. -/
def newLeaves (account : List (Part × Fate)) : List (Key × Part) :=
  account.filterMap fun one => one.2.newKey?.map (·, one.1)

variable {table : PrototypeTable} {merge : Bool} {before middle after : Key → Option Part}
  {part : Part} {fate : Fate} {account rest : List (Part × Fate)} {key : Key}

theorem newLeaves_append (account rest : List (Part × Fate)) :
    newLeaves (account ++ rest) = newLeaves account ++ newLeaves rest :=
  List.filterMap_append

/-! ### What one part leaves as it was -/

/-- An entity stays as it was unless it absorbs the part. -/
theorem Settles.eq_of_ne (settles : Settles table merge before part fate after) {there : Part}
    (here : before key = some there) (other : fate ≠ .absorbed key) : after key = some there := by
  cases settles with
  | @absorbed host _ _ _ _ =>
    rw [Function.update_of_ne (fun same => other (congrArg _ same.symm)), here]
  | stored _ vacant =>
    rw [Function.update_of_ne, here]
    rintro rfl
    exact nomatch here.symm.trans vacant

theorem Settles.exists_keeps (settles : Settles table merge before part fate after) {there : Part}
    (here : before key = some there) : ∃ now, after key = some now ∧ there.Keeps now := by
  by_cases other : fate = .absorbed key
  · subst other
    cases settles with
    | absorbed _ found _ =>
      obtain rfl := Option.some.inj (here.symm.trans found)
      exact ⟨_, Function.update_self .., there.keeps_merge part⟩
  · exact ⟨there, settles.eq_of_ne here other, .refl there⟩

/-- A part is absorbed by the only entity that can take it. -/
theorem Settles.eq_absorbed (settles : Settles table true before part fate after) {host : Key}
    {there : Part} (here : before host = some there) (takes : there.Takes table part)
    (only : ∀ key other, before key = some other → other.Takes table part → key = host) :
    fate = .absorbed host ∧ after = Function.update before host (some (there.merge part)) := by
  cases settles with
  | absorbed _ found able =>
    obtain rfl := only _ _ found able
    obtain rfl := Option.some.inj (here.symm.trans found)
    exact ⟨rfl, rfl⟩
  | stored alone _ => exact absurd takes (alone rfl _ _ here)

/-- A part that no entity can take is stored. -/
theorem Settles.exists_eq_stored (settles : Settles table merge before part fate after)
    (unable : ∀ key other, before key = some other → ¬ other.Takes table part) :
    ∃ key, before key = none ∧ fate = .stored key ∧
      after = Function.update before key (some part) := by
  cases settles with
  | absorbed _ found able => exact absurd able (unable _ _ found)
  | stored _ vacant => exact ⟨_, vacant, rfl, rfl⟩

namespace Accounts

theorem single (settles : Settles table merge before part fate after) :
    Accounts table merge before [(part, fate)] after := .cons settles (.nil after)

/-- The first part is settled before the others. -/
theorem exists_of_cons {parts : List Part} (accounts : Accounts table merge before account after)
    (same : account.map (·.1) = part :: parts) :
    ∃ fate middle rest, account = (part, fate) :: rest ∧ rest.map (·.1) = parts ∧
      Settles table merge before part fate middle ∧ Accounts table merge middle rest after := by
  cases accounts with
  | nil => exact nomatch same
  | cons first rest =>
    obtain ⟨rfl, others⟩ := List.cons.inj same
    exact ⟨_, _, _, rfl, others, first, rest⟩

theorem append (first : Accounts table merge before account middle)
    (second : Accounts table merge middle rest after) :
    Accounts table merge before (account ++ rest) after := by
  induction first with
  | nil => exact second
  | cons settles _ ih => exact .cons settles (ih second)

/-- The entity was there before, or is a part that was stored. -/
def Known (before : Key → Option Part) (account : List (Part × Fate)) (key : Key) (part : Part) :
    Prop :=
  before key = some part ∨ (key, part) ∈ newLeaves account

theorem known_cons (settles : Settles table merge before part fate middle) {there : Part}
    (known : Known before ((part, fate) :: account) key there) :
    before key = some there ∨ Known middle account key there := by
  rcases known with here | mem
  · exact .inl here
  · rw [← List.singleton_append, newLeaves_append, List.mem_append] at mem
    rcases mem with first | later
    · cases settles with
      | absorbed => exact absurd first List.not_mem_nil
      | stored =>
        obtain ⟨rfl, rfl⟩ := Prod.mk.inj (List.mem_singleton.mp first)
        exact .inr (.inl (Function.update_self ..))
    · exact .inr (.inr later)

/-- An entity that absorbs no part is as it was. -/
theorem eq_of_notMem (accounts : Accounts table merge before account after) {there : Part}
    (known : Known before account key there) (apart : .absorbed key ∉ account.map (·.2)) :
    after key = some there := by
  induction accounts with
  | nil => exact known.resolve_right List.not_mem_nil
  | cons settles _ ih =>
    rw [List.map_cons, List.mem_cons, not_or] at apart
    rcases known_cons settles known with here | later
    · exact ih (.inl (settles.eq_of_ne here (Ne.symm apart.1))) apart.2
    · exact ih later apart.2

/-- No entity is lost, and what absorbs parts keeps what merging may not change. -/
theorem exists_keeps (accounts : Accounts table merge before account after) {there : Part}
    (known : Known before account key there) :
    ∃ now, after key = some now ∧ there.Keeps now := by
  induction accounts generalizing there with
  | nil => exact ⟨there, known.resolve_right List.not_mem_nil, .refl there⟩
  | cons settles _ ih =>
    rcases known_cons settles known with here | later
    · obtain ⟨next, there, first⟩ := settles.exists_keeps here
      obtain ⟨now, found, second⟩ := ih (.inl there)
      exact ⟨now, found, first.trans second⟩
    · exact ih later

end Accounts

namespace EntityList

variable {list after : EntityList}

/-- The entity under a key, with the sum of the positions of the groups around it. -/
def part? (list : EntityList) (key : Key) : Option Part :=
  (list.get? key).bind fun placed => placed.entity?.map (⟨placed.offset, ·⟩)

theorem part?_eq_some_iff {list : EntityList} {key : Key} {part : Part} :
    list.part? key = some part ↔
      ∃ parent, list.get? key = some ⟨⟨parent, part.offset⟩, .entity part.entity⟩ := by
  rw [part?]
  cases list.get? key with
  | none => simp
  | some placed =>
    obtain ⟨⟨parent, offset⟩, entity | _⟩ := placed
    · simp only [Option.bind_some, Placed.entity?, Option.map_some, Option.some.injEq,
        Placed.mk.injEq, Site.mk.injEq, Content.entity.injEq, and_assoc, exists_eq_left']
      exact ⟨fun same => same ▸ ⟨rfl, rfl⟩, fun same => by rw [same.1, same.2]⟩
    · simp [Placed.entity?]

theorem part?_isSome_iff {list : EntityList} {key : Key} :
    (list.part? key).isSome ↔ (list.entity? key).isSome := by
  rw [part?, entity?]
  cases list.get? key <;> simp

theorem part?_insert (list : EntityList) (placed : Placed) (index : SpatialIndex) :
    ({ list with arena := list.arena.insert placed, index := index } : EntityList).part? =
      Function.update list.part? list.arena.nextKey (placed.entity?.map (⟨placed.offset, ·⟩)) := by
  funext key
  rw [part?, get?, Arena.get?_insert, Function.update_apply]
  split <;> rfl

theorem part?_nextKey (list : EntityList) : list.part? list.arena.nextKey = none := by
  rw [part?, get?, Arena.get?_nextKey]
  rfl

theorem part?_merge {list : EntityList} {host : Key} {there : Part}
    (here : list.part? host = some there) (part : Part) :
    ({ list with arena := list.arena.modify host (·.mapEntity (·.merge part.entity)) } :
      EntityList).part? = Function.update list.part? host (some (there.merge part)) := by
  funext key
  rw [part?, get?, Arena.get?_modify, Function.update_apply]
  split
  · obtain ⟨parent, found⟩ := part?_eq_some_iff.mp here
    rw [show list.arena.get? host = _ from found]
    rfl
  · rfl

/-- An entity absorbs another one as it stands. -/
theorem absorbs_iff {list : EntityList} {entity : Entity} {world : Point} {key : Key} :
    list.absorbs entity world key = true ↔ ∃ there, list.part? key = some there ∧
      there.position.near world = true ∧ there.entity.mergeableWith entity = true := by
  rw [absorbs, part?]
  cases list.get? key with
  | none => simp
  | some placed =>
    obtain ⟨site, stored | _⟩ := placed
    · simp [Placed.entity?, Part.position, Placed.worldPosition, Placed.position]
    · simp [Placed.entity?]

/-- The index holds the entities where they stand. -/
structure Sited (table : PrototypeTable) (list : EntityList) : Prop where
  filed : list.index.Filed
  boxes : ∀ key, list.index.box? key = (list.part? key).map (·.box table)

theorem Sited.vacant (sited : list.Sited table) : list.Vacant := by
  intro key missing
  rw [sited.boxes, part?, missing]
  rfl

/-- In a coherent list that is. -/
theorem Coherent.sited (coherent : list.Coherent table) (filed : list.index.Filed) :
    list.Sited table where
  filed := filed
  boxes key := by
    rw [coherent.indexed, part?]
    cases list.get? key with
    | none => rfl
    | some placed =>
      obtain ⟨site, entity | _⟩ := placed <;> rfl

/-- Asking the index finds all entities that can take a part, and no others. -/
theorem Sited.takes_iff (sited : list.Sited table) (part : Part) (key : Key) :
    (∃ there, list.part? key = some there ∧ there.Takes table part) ↔
      key ∈ list.index.query (part.box table) ∧
        list.absorbs part.entity part.position key = true := by
  rw [absorbs_iff]
  constructor
  · rintro ⟨there, here, takes⟩
    have box : list.index.box? key = some (there.box table) := by rw [sited.boxes, here]; rfl
    have overlaps := takes.overlaps
    rw [Part.box, Entity.worldBox, takes.collisionBox] at box overlaps
    exact ⟨sited.filed.mem_query_of_overlaps box overlaps, there, here, takes.near,
      takes.mergeable⟩
  · rintro ⟨found, there, here, near, mergeable⟩
    obtain ⟨box, boxed, overlaps⟩ := SpatialIndex.box?_of_mem_query found
    rw [sited.boxes, here] at boxed
    obtain rfl := Option.some.inj boxed
    exact ⟨there, here, overlaps, near, mergeable⟩

/-- The entity that absorbs a part when merging: the first that the index finds. -/
def host? (list : EntityList) (table : PrototypeTable) (part : Part) : Option Key :=
  (list.index.query (part.box table)).find? (list.absorbs part.entity part.position)

theorem Sited.exists_takes (sited : list.Sited table) (found : list.host? table part = some host) :
    ∃ there, list.part? host = some there ∧ there.Takes table part :=
  (sited.takes_iff part host).mpr ⟨List.mem_of_find?_eq_some found, List.find?_some found⟩

theorem Sited.host?_eq_none_iff (sited : list.Sited table) : list.host? table part = none ↔
    ∀ key there, list.part? key = some there → ¬ there.Takes table part := by
  rw [host?, List.find?_eq_none]
  constructor
  · intro unable key there here takes
    obtain ⟨found, absorbs⟩ := (sited.takes_iff part key).mp ⟨there, here, takes⟩
    exact unable key found absorbs
  · intro unable key found absorbs
    obtain ⟨there, here, takes⟩ := (sited.takes_iff part key).mpr ⟨found, absorbs⟩
    exact unable key there here takes

/-! ### Placing -/

/-- What placing has done to a list, with an account of it. -/
structure Accounted (table : PrototypeTable) (merge : Bool) (list after : EntityList)
    (members : List Member) (account : List (Part × Fate)) : Prop where
  sited : after.Sited table
  accounts : Accounts table merge list.part? account after.part?
  leaves : Member.leavesOfAll members = (newLeaves account).map (·.1)

theorem Accounted.nil (sited : list.Sited table) (merge : Bool) :
    Accounted table merge list list [] [] := ⟨sited, .nil _, rfl⟩

theorem Accounted.append {between : EntityList} {members others : List Member}
    (first : Accounted table merge list between members account)
    (second : Accounted table merge between after others rest) :
    Accounted table merge list after (members ++ others) (account ++ rest) where
  sited := second.sited
  accounts := first.accounts.append second.accounts
  leaves := by
    rw [Member.leavesOfAll_append, first.leaves, second.leaves, newLeaves_append, List.map_append]

/-- A part that is absorbed leaves boxes as they were. -/
theorem Sited.absorb (sited : list.Sited table) {host : Key} {there : Part}
    (here : list.part? host = some there) (part : Part) :
    ({ list with arena := list.arena.modify host (·.mapEntity (·.merge part.entity)) } :
      EntityList).Sited table where
  filed := sited.filed
  boxes key := by
    rw [part?_merge here, Function.update_apply]
    split
    · rename_i same
      rw [same, sited.boxes, here]
      exact congrArg some ((there.keeps_merge part).box table).symm
    · exact sited.boxes key

theorem Sited.store (sited : list.Sited table) (site : Site) (entity : Entity) :
    ({ list with
      arena := list.arena.insert ⟨site, .entity entity⟩
      index := list.index.add list.arena.nextKey (entity.worldBox table site.offset) } :
        EntityList).Sited table where
  filed := sited.filed.add (SpatialIndex.room_nextKey sited.vacant) _
  boxes key := by
    rw [part?_insert, SpatialIndex.box?_add (SpatialIndex.room_nextKey sited.vacant),
      Function.update_apply]
    split
    · rfl
    · exact sited.boxes key

/-- A group by itself is no entity. -/
theorem part?_insertGroup (list : EntityList) (site : Site) (id : Option String)
    (position : Point) :
    ({ list with arena := list.arena.insert ⟨site, .group id position⟩ } : EntityList).part? =
      list.part? := by
  refine (list.part?_insert _ list.index).trans ?_
  rw [Function.update_eq_self_iff]
  exact list.part?_nextKey.symm

theorem Sited.insertGroup (sited : list.Sited table) (site : Site) (id : Option String)
    (position : Point) :
    ({ list with arena := list.arena.insert ⟨site, .group id position⟩ } : EntityList).Sited
      table where
  filed := sited.filed
  boxes := by
    rw [part?_insertGroup]
    exact sited.boxes

/-- A part is absorbed where the index finds an entity that can take it, and stored otherwise. -/
theorem Sited.placeEntity (sited : list.Sited table) (merge : Bool) (site : Site)
    (entity : Entity) :
    ∃ fate, Accounted table merge list (list.placeEntity table merge site entity).1
      (list.placeEntity table merge site entity).2.members [(⟨site.offset, entity⟩, fate)] := by
  let part : Part := ⟨site.offset, entity⟩
  rw [EntityList.placeEntity]
  split
  · rename_i host found
    split at found
    · rename_i merging
      obtain ⟨there, here, takes⟩ :=
        sited.exists_takes (show list.host? table part = some host from found)
      refine ⟨.absorbed host, sited.absorb here part, .single ?_, rfl⟩
      rw [part?_merge here part]
      exact .absorbed merging here takes
    · contradiction
  · rename_i alone
    refine ⟨.stored list.arena.nextKey, sited.store site entity, .single ?_, rfl⟩
    rw [part?_insert]
    refine .stored (fun merging => ?_) list.part?_nextKey
    rw [if_pos merging] at alone
    exact sited.host?_eq_none_iff.mp (show list.host? table part = none from alone)

mutual

/-- Placing an item accounts for its parts. -/
theorem exists_accounted_place (table : PrototypeTable) (merge : Bool) :
    (item : Item) → (site : Site) → (list : EntityList) → list.Sited table →
      ∃ account, account.map (·.1) = item.parts site.offset ∧
        Accounted table merge list (place table merge site item list).1
          (place table merge site item list).2.members account
  | .entity entity, site, list, sited => by
    obtain ⟨fate, accounted⟩ := sited.placeEntity merge site entity
    rw [place]
    exact ⟨[(⟨site.offset, entity⟩, fate)], rfl, accounted⟩
  | .group id position members, site, list, sited => by
    obtain ⟨account, parts, accounted⟩ := exists_accounted_placeAll table merge members
      (site.within list.arena.nextKey position) _ (sited.insertGroup site id position)
    refine ⟨account, parts, accounted.sited, ?_, ?_⟩
    · have accounts := accounted.accounts
      rwa [part?_insertGroup] at accounts
    · exact (Member.leavesOfAll_singleton _).trans accounted.leaves

/-- Placing items one after the other accounts for the parts of all. -/
theorem exists_accounted_placeAll (table : PrototypeTable) (merge : Bool) :
    (items : List Item) → (site : Site) → (list : EntityList) → list.Sited table →
      ∃ account, account.map (·.1) = Item.partsOfAll site.offset items ∧
        Accounted table merge list (placeAll table merge site items list).1
          (placeAll table merge site items list).2.1 account
  | [], _, list, sited => ⟨[], rfl, .nil sited merge⟩
  | item :: items, site, list, sited => by
    obtain ⟨account, parts, first⟩ := exists_accounted_place table merge item site list sited
    obtain ⟨rest, others, second⟩ :=
      exists_accounted_placeAll table merge items site _ first.sited
    rw [placeAll_cons]
    exact ⟨account ++ rest, by rw [List.map_append, parts, others, Item.partsOfAll],
      first.append second⟩

end

end EntityList
end FactoryBlueprint
