import FactoryBlueprint.Proofs.EntityList.Altering

/-! # What members stand for

An item that is placed without merging gives one member that stands for just that item, whatever
groups are in it (`place_shows`), and members that stood in the list before stand for what they
stood for (`Altered.item?`).
-/

namespace FactoryBlueprint.EntityList

variable {list after : EntityList} {table : PrototypeTable} {given : Entity → Prop}

/-- Every member stands for its item. -/
def Shows (list : EntityList) (members : List Member) (items : List Item) : Prop :=
  List.Forall₂ (fun member item => list.item? member = some item) members items

theorem Shows.items {members : List Member} {items : List Item} (shows : list.Shows members items) :
    list.items members = items := by
  induction shows with
  | nil => rfl
  | cons first _ ih => rw [EntityList.items, first, ih, Option.toList_some, List.singleton_append]

mutual

/-- What a member stands for depends on what is under its keys only. -/
theorem item?_congr : (member : Member) → (∀ key ∈ member.keys, after.get? key = list.get? key) →
    after.item? member = list.item? member
  | .entity key, same => by
    rw [item?, item?, entity?, entity?, same key List.mem_cons_self]
  | .group key members, same => by
    rw [item?, item?, same key List.mem_cons_self,
      items_congr members fun key mem => same key (List.mem_cons_of_mem _ mem)]

theorem items_congr : (members : List Member) →
    (∀ key ∈ Member.keysOfAll members, after.get? key = list.get? key) →
    after.items members = list.items members
  | [], _ => rfl
  | member :: rest, same => by
    rw [items, items, item?_congr member fun key mem => same key (List.mem_append_left _ mem),
      items_congr rest fun key mem => same key (List.mem_append_right _ mem)]

end

/-- What members show depends on what is under keys only. -/
theorem Shows.congr {members : List Member} {items : List Item} (shows : list.Shows members items)
    (same : ∀ key, after.get? key = list.get? key) : after.Shows members items :=
  List.Forall₂.imp (fun member _ shown => (item?_congr member fun key _ => same key).trans shown) shows

/-- Without merging, objects stay as they are. -/
theorem Altered.get? (altered : Altered false given [] list after) {key : Key} {placed : Placed}
    (found : list.get? key = some placed) : after.get? key = some placed := by
  obtain ⟨others, came, here⟩ := altered.kept key List.not_mem_nil placed found
  have nothing : others = [] :=
    List.eq_nil_iff_forall_not_mem.mpr fun other mem => Bool.false_ne_true (came other mem).1
  rw [here, nothing, placed.mapEntity_absorb_nil]

/-- Without merging, members stand for what they stood for. -/
theorem Altered.item? (altered : Altered false given [] list after) {member : Member} {site : Site}
    (stands : member.Stands list.arena site) : after.item? member = list.item? member :=
  item?_congr member fun key mem => by
    obtain ⟨placed, found⟩ := stands.exists_of_mem_keys mem
    rw [altered.get? found]
    exact found.symm

mutual

/-- An item that is placed without merging gives a member that stands for it. -/
theorem place_shows (table : PrototypeTable) (site : Site) :
    (item : Item) → (list : EntityList) → list.Vacant →
      ∃ after member warnings,
        place table false site item list = (after, .inserted member warnings) ∧
        after.item? member = some item
  | .entity entity, list, _ => by
    refine ⟨_, _, _, rfl, ?_⟩
    simp [item?, entity?, get?, Arena.get?_insert, Placed.entity?]
  | .group id position items, list, vacant => by
    have noBox : list.index.box? list.arena.nextKey = none := vacant _ list.arena.get?_nextKey
    have first :=
      placing_insert table list ⟨site, .group id position⟩ list.index noBox fun _ _ => rfl
    have shows := placeAll_shows table (site.within list.arena.nextKey position) items _
      (first.vacant vacant)
    have sound := placeAll_sound table false (site.within list.arena.nextKey position) items _
      (first.vacant vacant)
    have found := (list.arena.get?_insert ⟨site, .group id position⟩ _).trans (if_pos rfl)
    have kept := sound.1.get?_group found
    refine ⟨_, _, _, rfl, ?_⟩
    simp only [item?, kept, shows.items]

/-- Items that are placed one after the other without merging give members that stand for them. -/
theorem placeAll_shows (table : PrototypeTable) (site : Site) :
    (items : List Item) → (list : EntityList) → list.Vacant →
      (placeAll table false site items list).1.Shows
        (placeAll table false site items list).2.1 items
  | [], _, _ => .nil
  | item :: items, list, vacant => by
    have sound := place_sound table false site item list vacant
    obtain ⟨middle, member, warnings, placed, here⟩ := place_shows table site item list vacant
    rw [placed] at sound
    obtain ⟨placing, stands, -⟩ := sound
    have rest := placeAll_shows table site items middle (placing.vacant vacant)
    have altered : Altered false (fun _ => True) [] middle
        (placeAll table false site items middle).1 :=
      altered_placeAll table false site items middle fun _ _ => trivial
    rw [placeAll, placed]
    exact .cons ((altered.item? stands).trans here) rest

end

end FactoryBlueprint.EntityList
