import FactoryBlueprint.Proofs.Blueprint.Covering
import FactoryBlueprint.Proofs.EntityList.Append
import FactoryBlueprint.Proofs.EntityList.Grounding
import FactoryBlueprint.Proofs.EntityList.Twins

/-! # Twin lists in tandem

What is done to twin lists alike keeps them twins, and comes to the same: the same keys are given,
and each entity overlaps the same ones (`overlapsOf`), whatever the order in which cells of twins
list their keys. Where an entity is merged, that takes that no more than one of those that stand
there could absorb it (`Unrivalled`, `Decides`).
-/

namespace FactoryBlueprint

namespace EntityList

/-- At most one object that the entity finds at its place could absorb it. -/
def Unrivalled (list : EntityList) (table : PrototypeTable) (offset : Point) (entity : Entity) :
    Prop :=
  ∀ first ∈ list.index.query (entity.worldBox table offset),
    ∀ second ∈ list.index.query (entity.worldBox table offset),
      list.absorbs entity (offset + entity.position) first = true →
        list.absorbs entity (offset + entity.position) second = true → first = second

mutual

/-- Where an item is placed and merged, at most one object could absorb each of its entities. -/
def Decides (table : PrototypeTable) (site : Site) : Item → EntityList → Prop
  | .entity e, list => list.Unrivalled table site.offset e
  | .group id position members, list => DecidesAll table (site.within list.arena.nextKey position) members
      { list with arena := list.arena.insert ⟨site, .group id position⟩ }

def DecidesAll (table : PrototypeTable) (site : Site) : List Item → EntityList → Prop
  | [], _ => True
  | item :: items, list => Decides table site item list ∧
      DecidesAll table site items (place table true site item list).1

end

mutual

/-- What the entities of an item come to overlap when it is placed, entity by entity. -/
def overlapsOf (table : PrototypeTable) (merge : Bool) (site : Site) : Item → EntityList → Raised
  | .entity e, list => [(list.placeEntity table merge site e).2.warnings]
  | .group id position members, list =>
    overlapsOfAll table merge (site.within list.arena.nextKey position) members
      { list with arena := list.arena.insert ⟨site, .group id position⟩ }

def overlapsOfAll (table : PrototypeTable) (merge : Bool) (site : Site) :
    List Item → EntityList → Raised
  | [], _ => []
  | item :: items, list =>
    overlapsOf table merge site item list ++
      overlapsOfAll table merge site items (place table merge site item list).1

end

mutual

/-- Placing warns of these overlaps. -/
theorem flatten_overlapsOf (table : PrototypeTable) (merge : Bool) (site : Site) :
    (item : Item) → (list : EntityList) →
      (overlapsOf table merge site item list).flatten =
        (place table merge site item list).2.warnings
  | .entity entity, list => by
    rw [overlapsOf, place, List.flatten_singleton]
  | .group id position members, list => by
    rw [overlapsOf, place, flatten_overlapsOfAll]
    rfl

theorem flatten_overlapsOfAll (table : PrototypeTable) (merge : Bool) (site : Site) :
    (items : List Item) → (list : EntityList) →
      (overlapsOfAll table merge site items list).flatten =
        (placeAll table merge site items list).2.2
  | [], list => by
    rw [overlapsOfAll, placeAll, List.flatten_nil]
  | item :: items, list => by
    rw [overlapsOfAll, placeAll_cons, List.flatten_append, flatten_overlapsOf,
      flatten_overlapsOfAll]

end

/-- The list in which nothing of member `i` is found any more. -/
def vacated (list : EntityList) (i : Nat) : EntityList :=
  { list with index := list.index.removeAll (list.members[i]?.elim [] Member.leaves) }

theorem vacated_eq {list : EntityList} {i : Nat} {old : Member}
    (found : list.members[i]? = some old) :
    list.vacated i = { list with index := list.index.removeAll old.leaves } := by
  rw [vacated, found]
  rfl

/-- What becomes of an item when it is placed in twins. -/
inductive Outcome.Alike : Outcome → Outcome → Prop
  | inserted (member : Member) (warnings others : List Warning) :
      Alike (.inserted member warnings) (.inserted member others)
  | merged (into : Key) : Alike (.merged into) (.merged into)

theorem Outcome.Alike.members {outcome other : Outcome} (alike : outcome.Alike other) :
    other.members = outcome.members := by
  cases alike <;> rfl

variable {rename : Equiv.Perm ListId} {list other : EntityList} {table : PrototypeTable}

namespace Twins

/-! ### Placing -/

theorem absorbs (twins : Twins rename list other) (entity : Entity) (world : Point) (key : Key) :
    other.absorbs (entity.relist rename) world key = list.absorbs entity world key := by
  rw [EntityList.absorbs, twins.get?, EntityList.absorbs]
  cases list.get? key with
  | none => rfl
  | some placed =>
    simp only [Option.map_some, Placed.worldPosition_relist, Placed.entity?_relist]
    cases placed.entity? <;> rfl

theorem collision? (twins : Twins rename list other) (entity : Entity) (world : Point) (key : Key) :
    other.collision? table (entity.relist rename) world key =
      list.collision? table entity world key := by
  simp only [EntityList.collision?, twins.entity?]
  cases list.entity? key <;> rfl

theorem insertArena (twins : Twins rename list other) (placed : Placed) {index next : SpatialIndex}
    (agrees : index.Agrees next) :
    Twins rename { list with arena := list.arena.insert placed, index := index }
      { other with arena := other.arena.insert (placed.relist rename), index := next } where
  id := twins.id
  arena := by
    simp only [twins.arena]
    exact (Arena.map_insert _ _ placed).symm
  members := twins.members
  index := agrees

theorem nextKey (twins : Twins rename list other) : other.arena.nextKey = list.arena.nextKey := by
  rw [twins.arena, Arena.nextKey_map]

/-- The collisions of one entity, found in any order. -/
theorem collisions (twins : Twins rename list other) (entity : Entity) (area : Box)
    (world : Point) : Warning.Reordered
      ((list.index.query area).filterMap (list.collision? table entity world))
      ((other.index.query area).filterMap
        (other.collision? table (entity.relist rename) world)) := by
  rw [funext (twins.collision? entity world)]
  refine .overlaps entity.name world ((twins.index.query area).filterMap _) fun warning mem => ?_
  obtain ⟨key, -, found⟩ := List.mem_filterMap.mp mem
  simp only [EntityList.collision?, Option.bind_eq_bind, Option.bind_eq_some_iff,
    Option.ite_none_right_eq_some, Option.some.injEq] at found
  obtain ⟨existing, -, -, rfl⟩ := found
  exact ⟨existing.name, rfl⟩

/-- An entity that would be absorbed is absorbed under the same key. -/
theorem absorber?_eq (twins : Twins rename list other) {merge : Bool} {offset : Point}
    {entity : Entity} (decided : merge = true → list.Unrivalled table offset entity) :
    (if merge then (other.index.query (entity.worldBox table offset)).find?
        (other.absorbs (entity.relist rename) (offset + entity.position)) else none) =
      if merge then (list.index.query (entity.worldBox table offset)).find?
        (list.absorbs entity (offset + entity.position)) else none := by
  cases merge with
  | false => rfl
  | true =>
    simp only [if_true, funext (twins.absorbs entity (offset + entity.position))]
    exact find?_eq_of_perm (twins.index.query _) (decided rfl)

/-- What placing an entity in twins leaves, gives and warns of. -/
theorem placeEntity (twins : Twins rename list other) {merge : Bool} {site : Site}
    {entity : Entity} (decided : merge = true → list.Unrivalled table site.offset entity) :
    Twins rename (list.placeEntity table merge site entity).1
        (other.placeEntity table merge site (entity.relist rename)).1 ∧
      (list.placeEntity table merge site entity).2.Alike
        (other.placeEntity table merge site (entity.relist rename)).2 ∧
      Warning.Reordered (list.placeEntity table merge site entity).2.warnings
        (other.placeEntity table merge site (entity.relist rename)).2.warnings := by
  simp only [EntityList.placeEntity, Entity.worldBox_relist, Entity.position_relist,
    twins.absorber?_eq decided, twins.nextKey]
  split
  · rename_i key _
    refine ⟨⟨twins.id, ?_, twins.members, twins.index⟩, .merged key, .same []⟩
    simp only [twins.arena]
    exact (Arena.map_modify _ key fun placed _ =>
      Placed.relist_mapEntity fun absorbing => absorbing.relist_merge entity).symm
  · exact ⟨twins.insertArena ⟨site, .entity entity⟩ (twins.index.add _ _), .inserted _ _ _,
      twins.collisions entity _ _⟩

end Twins

/-- An item is placed in twins alike: twins are left, it is merged into the same or is the same
member, and its entities overlap the same. -/
structure PlacedAlike (rename : Equiv.Perm ListId) (table : PrototypeTable) (merge : Bool)
    (site : Site) (item : Item) (list other : EntityList) : Prop where
  twins : Twins rename (place table merge site item list).1
    (place table merge site (item.relist rename) other).1
  outcomes : (place table merge site item list).2.Alike
    (place table merge site (item.relist rename) other).2
  overlaps : (overlapsOf table merge site item list).Alike
    (overlapsOf table merge site (item.relist rename) other)

/-- Items are placed in twins alike, one after the other. -/
structure PlacedAllAlike (rename : Equiv.Perm ListId) (table : PrototypeTable) (merge : Bool)
    (site : Site) (items : List Item) (list other : EntityList) : Prop where
  twins : Twins rename (placeAll table merge site items list).1
    (placeAll table merge site (Item.relistAll rename items) other).1
  members : (placeAll table merge site (Item.relistAll rename items) other).2.1 =
    (placeAll table merge site items list).2.1
  overlaps : (overlapsOfAll table merge site items list).Alike
    (overlapsOfAll table merge site (Item.relistAll rename items) other)

mutual

theorem Twins.place (table : PrototypeTable) (merge : Bool) (site : Site) :
    (item : Item) → {list other : EntityList} → Twins rename list other →
      (merge = true → Decides table site item list) →
      PlacedAlike rename table merge site item list other
  | .entity entity, list, other, twins, decided => by
    obtain ⟨left, outcomes, overlaps⟩ := twins.placeEntity decided
    refine ⟨left, outcomes, ?_⟩
    rw [overlapsOf, Item.relist, overlapsOf]
    exact .cons overlaps .nil
  | .group id position members, list, other, twins, decided => by
    have group := twins.insertArena ⟨site, .group id position⟩ twins.index
    have inner := Twins.placeAll table merge (site.within list.arena.nextKey position) members group
      decided
    constructor
    · rw [EntityList.place, Item.relist, EntityList.place, twins.nextKey]
      exact inner.twins
    · rw [EntityList.place, Item.relist, EntityList.place, twins.nextKey]
      dsimp only
      rw [← inner.members]
      exact .inserted _ _ _
    · rw [overlapsOf, Item.relist, overlapsOf, twins.nextKey]
      exact inner.overlaps

theorem Twins.placeAll (table : PrototypeTable) (merge : Bool) (site : Site) :
    (items : List Item) → {list other : EntityList} → Twins rename list other →
      (merge = true → DecidesAll table site items list) →
      PlacedAllAlike rename table merge site items list other
  | [], _, _, twins, _ => ⟨twins, rfl, .nil⟩
  | item :: items, list, other, twins, decided => by
    have first := Twins.place table merge site item twins fun merges => (decided merges).1
    have rest := Twins.placeAll table merge site items first.twins fun merges => by
      subst merges
      exact (decided rfl).2
    constructor
    · rw [placeAll_cons, Item.relistAll, placeAll_cons]
      exact rest.twins
    · rw [placeAll_cons, Item.relistAll, placeAll_cons]
      exact congrArg₂ (· ++ ·) first.outcomes.members rest.members
    · rw [overlapsOfAll, Item.relistAll, overlapsOfAll]
      exact first.overlaps.append rest.overlaps

end

/-! ### Calls -/

/-- A call leaves twins, with errors that are related by `E` or results that are by `R`. -/
structure InTandem {α β : Type} (rename : Equiv.Perm ListId) (E : Error → Error → Prop)
    (R : α → β → Prop) (first : EntityList × Except Error α) (second : EntityList × Except Error β) :
    Prop where
  twins : Twins rename first.1 second.1
  outcomes : OutcomesAlike E R first.2 second.2

namespace Twins

theorem discard (twins : Twins rename list other) (member : Member) :
    Twins rename (list.discard member) (other.discard member) where
  id := twins.id
  arena := by
    simp only [EntityList.discard, twins.arena]
    exact (Arena.map_removeAll _ _ member.keys).symm
  members := twins.members
  index := twins.index.removeAll member.leaves

theorem extendOver (twins : Twins rename list other) (member : Member) (extent : Extent) :
    other.extendOver member extent = list.extendOver member extent := by
  simp only [EntityList.extendOver, bounds?, funext twins.index.box?]

theorem length (twins : Twins rename list other) : other.length = list.length :=
  congrArg List.length twins.members

theorem setMembers (twins : Twins rename list other) (members : List Member) :
    Twins rename { list with members := members } { other with members := members } :=
  ⟨twins.id, twins.arena, rfl, twins.index⟩

theorem insert (twins : Twins rename list other) (mode : ValidationMode) (extent : Extent) (i : Nat)
    {item : Item} {merge : Bool}
    (decided : merge = true → i ≤ list.length → Decides table .top item list) :
    InTandem rename
      (Error.Alike mode (overlapsOf table merge .top item list)
        (overlapsOf table merge .top (item.relist rename) other))
      (PlacedWithin mode (overlapsOf table merge .top item list)
        (overlapsOf table merge .top (item.relist rename) other))
      (list.insert table mode extent i item merge)
      (other.insert table mode extent i (item.relist rename) merge) := by
  rw [EntityList.insert, EntityList.insert, twins.length]
  split
  · exact ⟨twins, .error (.same _)⟩
  · rename_i bound
    obtain ⟨left, outcomes, overlaps⟩ := Twins.place table merge .top item twins fun merges =>
      decided merges (Nat.le_of_not_lt bound)
    have here := flatten_overlapsOf table merge .top item list
    have there := flatten_overlapsOf table merge .top (item.relist rename) other
    generalize overlapsOf table merge .top item list = raised at overlaps here ⊢
    generalize overlapsOf table merge .top (item.relist rename) other = others at overlaps there ⊢
    generalize EntityList.place table merge .top item list = first at left outcomes here ⊢
    generalize EntityList.place table merge .top (item.relist rename) other = second
      at left outcomes there ⊢
    obtain ⟨list, outcome⟩ := first
    obtain ⟨other, outcome⟩ := second
    replace left : Twins rename list other := left
    cases outcomes with
    | merged into =>
      refine ⟨left, .ok ⟨⟨rfl, rfl, overlaps, ?_, ?_⟩, rfl⟩⟩
      · rw [here]
        exact mode.accept_nil
      · rw [there]
        exact mode.accept_nil
    | inserted member =>
      have accepted := overlaps.accept mode
      rw [here, there] at accepted
      dsimp -zeta only
      extract_lets first second
      have accepted : OutcomesAlike (Error.Alike mode raised others)
          (fun p q => Raised.Told mode raised others p.1 q.1 ∧ q.2 = p.2) first second := by
        refine accepted.bind fun kept told both => ?_
        rw [left.extendOver]
        exact (OutcomesAlike.refl .same (fun _ => rfl) _).bind fun _ _ grown =>
          .ok ⟨both, grown ▸ rfl⟩
      clear_value first second
      cases accepted with
      | error alike => exact ⟨left.discard member, .error alike⟩
      | ok related =>
        refine ⟨?_, .ok ⟨⟨rfl, rfl, related.1⟩, related.2⟩⟩
        simp only [left.members]
        exact left.setMembers _

theorem reindex (twins : Twins rename list other) {index next : SpatialIndex}
    (agrees : index.Agrees next) :
    Twins rename { list with index := index } { other with index := next } :=
  ⟨twins.id, twins.arena, twins.members, agrees⟩

/-- The boxes of twins are the same, in whatever order. -/
theorem mem_boxes (twins : Twins rename list other) (box : Box) :
    box ∈ list.boxes ↔ box ∈ other.boxes :=
  (twins.index.mem_boxList box).symm

theorem vacated (twins : Twins rename list other) (i : Nat) :
    Twins rename (list.vacated i) (other.vacated i) := by
  rw [EntityList.vacated, EntityList.vacated, twins.members]
  exact ⟨twins.id, twins.arena, rfl, twins.index.removeAll _⟩

theorem set (twins : Twins rename list other) (mode : ValidationMode) {others boxes : List Box}
    (same : ∀ box, box ∈ others ↔ box ∈ boxes) (i : Nat) (item : Item) :
    InTandem rename
      (Error.Alike mode (overlapsOf table false .top item (list.vacated i))
        (overlapsOf table false .top (item.relist rename) (other.vacated i)))
      (PlacedWithin mode (overlapsOf table false .top item (list.vacated i))
        (overlapsOf table false .top (item.relist rename) (other.vacated i)))
      (list.set table mode others i item) (other.set table mode boxes i (item.relist rename)) := by
  have found : other.members[i]? = list.members[i]? := by rw [twins.members]
  rw [EntityList.set, EntityList.set, found, twins.length]
  cases member : list.members[i]? with
  | none => exact ⟨twins, .error (.same _)⟩
  | some old =>
    dsimp -zeta only
    extract_lets oldBoxes cleared otherBoxes otherCleared
    have former : otherBoxes = oldBoxes := by
      simp only [otherBoxes, oldBoxes, funext twins.index.box?]
    have emptied := twins.vacated i
    have vacates : list.vacated i = cleared := vacated_eq member
    have otherVacates : other.vacated i = otherCleared := vacated_eq (found.trans member)
    rw [vacates, otherVacates] at emptied ⊢
    obtain ⟨filled, outcomes, overlaps⟩ := Twins.place table false .top item emptied nofun
    have here := flatten_overlapsOf table false .top item cleared
    have there := flatten_overlapsOf table false .top (item.relist rename) otherCleared
    generalize overlapsOf table false .top item cleared = raised at overlaps here ⊢
    generalize overlapsOf table false .top (item.relist rename) otherCleared = raisedThere
      at overlaps there ⊢
    generalize EntityList.place table false .top item cleared = first at filled outcomes here ⊢
    generalize EntityList.place table false .top (item.relist rename) otherCleared = second
      at filled outcomes there ⊢
    obtain ⟨after, outcome⟩ := first
    obtain ⟨otherAfter, outcome⟩ := second
    replace filled : Twins rename after otherAfter := filled
    cases outcomes with
    | merged into => exact ⟨twins, .error (.same _)⟩
    | inserted member =>
      have accepted := overlaps.accept mode
      rw [here, there] at accepted
      dsimp -zeta only
      extract_lets extent accepting restored otherExtent otherAccepting otherRestored
      have extents : otherExtent = extent := by
        refine Extent.ofBoxes_congr fun box => ?_
        rw [List.mem_append, List.mem_append, filled.mem_boxes, same]
      have accepts : OutcomesAlike (Error.Alike mode raised raisedThere)
          (Raised.Told mode raised raisedThere) accepting otherAccepting := by
        refine accepted.bind fun kept told both => ?_
        rw [extents]
        exact (OutcomesAlike.refl .same (fun _ => rfl) _).bind fun _ _ _ => .ok both
      clear_value accepting otherAccepting
      cases accepts with
      | error alike =>
        have back : Twins rename restored otherRestored := filled.discard member
        refine ⟨?_, .error alike⟩
        rw [former]
        exact back.reindex (back.index.addAll oldBoxes)
      | ok told =>
        refine ⟨?_, .ok ⟨⟨rfl, rfl, told⟩, extents⟩⟩
        exact ⟨filled.id, by simp only [filled.arena, Arena.map_removeAll],
          congrArg (·.set i member) filled.members, filled.index⟩

/-! ### Removing and editing -/

mutual

theorem item? (twins : Twins rename list other) :
    (member : Member) → other.item? member = (list.item? member).map (·.relist rename)
  | .entity key => by
    rw [EntityList.item?, twins.entity?, EntityList.item?]
    cases list.entity? key <;> rfl
  | .group key members => by
    rw [EntityList.item?, twins.get?, EntityList.item?]
    cases list.get? key with
    | none => rfl
    | some placed =>
      obtain ⟨offset, content⟩ := placed
      cases content with
      | entity entity => rfl
      | group id position =>
        exact congrArg (fun members => some (Item.group id position members))
          (items twins members)

theorem items (twins : Twins rename list other) :
    (members : List Member) → other.items members = Item.relistAll rename (list.items members)
  | [] => rfl
  | member :: rest => by
    rw [EntityList.items, item? twins member, items twins rest, EntityList.items]
    cases list.item? member <;> rfl

end

/-- What is removed by key is the same item, and what is left are twins. -/
theorem removeKey? (twins : Twins rename list other) (key : Key) :
    Option.Rel (fun p q => q.1 = p.1.relist rename ∧ Twins rename p.2 q.2)
      (list.removeKey? key) (other.removeKey? key) := by
  have found : other.member? key = list.member? key := by
    rw [EntityList.member?, twins.members, EntityList.member?]
  rw [EntityList.removeKey?, EntityList.removeKey?, found, twins.get?]
  cases list.get? key with
  | none => exact .none
  | some placed =>
    simp only [Option.map_some, Option.bind_eq_bind, Option.bind_some, Placed.parent_relist,
      twins.item?]
    cases list.member? key with
    | none => exact .none
    | some member =>
      simp only [Option.bind_some]
      cases list.item? member with
      | none => exact .none
      | some item =>
        have left := twins.discard member
        exact .some ⟨rfl, left.id, left.arena,
          congrArg (Member.unlist placed.parent key) left.members, left.index⟩

theorem remove (twins : Twins rename list other) (i : Nat) :
    OutcomesAlike Eq (fun p q => q.1 = p.1.relist rename ∧ Twins rename p.2 q.2)
      (list.remove i) (other.remove i) := by
  rw [EntityList.remove, EntityList.remove, twins.members, twins.length]
  cases list.members[i]? with
  | none => exact .error rfl
  | some member =>
    have removed := twins.removeKey? member.key
    dsimp only
    generalize list.removeKey? member.key = first at removed ⊢
    generalize other.removeKey? member.key = second at removed ⊢
    cases removed with
    | none => exact .error rfl
    | some related => exact .ok related

theorem modify? (twins : Twins rename list other) (table : PrototypeTable) (key : Key)
    {f g : Entity → Entity}
    (same : ∀ entity, (f entity).relist rename = g (entity.relist rename)) :
    Option.Rel (Twins rename) (list.modify? table key f) (other.modify? table key g) := by
  rw [EntityList.modify?, EntityList.modify?, twins.get?]
  cases list.get? key with
  | none => exact .none
  | some placed =>
    obtain ⟨site, content⟩ := placed
    cases content with
    | group id position => exact .none
    | entity entity =>
      refine .some ⟨twins.id, ?_, twins.members, ?_⟩
      · simp only [twins.arena]
        exact (Arena.map_modify _ key fun placed _ => Placed.relist_mapEntity same).symm
      · have box : (g (entity.relist rename)).worldBox table site.offset =
            (f entity).worldBox table site.offset := by rw [← same, Entity.worldBox_relist]
        have agrees := twins.index.add key ((f entity).worldBox table site.offset)
        rw [← box] at agrees ⊢
        exact agrees

theorem clear (twins : Twins rename list other) : Twins rename list.clear other.clear where
  id := twins.id
  arena := by
    simp only [EntityList.clear, twins.arena]
    exact (Arena.map_clear _ _).symm
  members := rfl
  index := .empty

/-- Copies of twins are twins. Both indexes are built anew from the same boxes. -/
theorem duplicate (twins : Twins rename list other) (table : PrototypeTable) (id : ListId) :
    Twins rename (list.duplicate table id) (other.duplicate table (rename id)) := by
  have arena : (other.duplicate table (rename id)).arena =
      (list.duplicate table id).arena.map (·.relist rename) := by
    simp only [EntityList.duplicate, twins.arena, twins.id, Arena.map_map]
    refine Arena.map_congr fun key placed _ => (Placed.relist_mapEntity fun entity => ?_).symm
    exact entity.relist_mapAssociations fun association => association.relist_rescope list.id id
  refine ⟨rfl, arena, twins.members, ?_⟩
  have boxes (key : Key) :
      ((other.duplicate table (rename id)).arena.get? key).bind (·.worldBox? table) =
        ((list.duplicate table id).arena.get? key).bind (·.worldBox? table) := by
    rw [arena, Arena.get?_map, Option.bind_map]
    exact congrArg (Option.bind _) (funext fun placed => placed.worldBox?_relist table)
  have index : (other.duplicate table (rename id)).index = (list.duplicate table id).index := by
    refine congrArg SpatialIndex.empty.addAll ?_
    rw [twins.leaves]
    exact congrArg (List.filterMap · _) (funext fun key => congrArg (Option.map (key, ·)) (boxes key))
  rw [index]
  exact SpatialIndex.Agrees.empty.addAll _

end Twins
end EntityList
end FactoryBlueprint
