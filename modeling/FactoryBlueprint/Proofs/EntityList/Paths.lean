import FactoryBlueprint.EntityList.Search
import FactoryBlueprint.Proofs.EntityList.Coherence
import FactoryBlueprint.Proofs.Outcome
import Mathlib.Data.List.Pairwise

/-! # Paths of ids

A search along a path of ids takes the first sibling of the right id at every step. So what it finds
has the path as its id path (`EntityList.HasIdPath`), and what has it is found exactly if no earlier
sibling of it or of a group around it shares the id (`EntityList.Shadowed`).
-/

namespace FactoryBlueprint

namespace Member

/-- The members that stand side by side within the groups `around`, the outermost first. -/
inductive Siblings : List Member → List Key → List Member → Prop
  | top (members : List Member) : Siblings members [] members
  | within {members inner siblings : List Member} {key : Key} {around : List Key}
      (mem : .group key inner ∈ members) (below : Siblings inner around siblings) :
      Siblings members (key :: around) siblings

variable {members siblings others : List Member} {member other : Member} {around above : List Key}
  {key : Key}

/-! ### Members and their places -/

theorem Siblings.mem_placesOfAll (beside : Siblings members around siblings)
    (mem : member ∈ siblings) (above : List Key) :
    (above ++ around, member.key) ∈ placesOfAll above members := by
  induction beside generalizing above with
  | top members =>
    rw [placesOfAll_eq, List.append_nil]
    refine List.mem_flatMap.mpr ⟨member, mem, ?_⟩
    cases member <;> exact List.mem_cons_self
  | @within members inner siblings key around inside _ ih =>
    rw [placesOfAll_eq, List.append_cons]
    exact List.mem_flatMap.mpr
      ⟨.group key inner, inside, List.mem_cons_of_mem _ (ih mem (above ++ [key]))⟩

theorem exists_siblings_of_mem_places {place : List Key × Key} (mem : place ∈ places above member) :
    place = (above, member.key) ∨ ∃ inner around siblings, member = .group member.key inner ∧
      Siblings inner around siblings ∧ place.1 = above ++ member.key :: around ∧
        ∃ here ∈ siblings, here.key = place.2 := by
  induction member generalizing above with
  | entity key => exact .inl (List.mem_singleton.mp mem)
  | group key inner ih =>
    rcases List.mem_cons.mp mem with same | below
    · exact .inl same
    · rw [placesOfAll_eq] at below
      obtain ⟨next, inInner, inside⟩ := List.mem_flatMap.mp below
      refine .inr ?_
      rcases ih next inInner inside with rfl | ⟨deeper, around, siblings, same, beside, path, found⟩
      · exact ⟨inner, [], inner, rfl, .top inner, rfl, next, inInner, rfl⟩
      · refine ⟨inner, next.key :: around, siblings, rfl, .within (same ▸ inInner) beside, ?_, found⟩
        rw [path, List.append_assoc]
        rfl

/-- A walk comes upon a key within the groups `around` if it is there that the key is one of
siblings. -/
theorem mem_placesOfAll_iff : (around, key) ∈ placesOfAll [] members ↔
    ∃ siblings, Siblings members around siblings ∧ ∃ member ∈ siblings, member.key = key := by
  constructor
  · intro mem
    rw [placesOfAll_eq] at mem
    obtain ⟨member, here, inside⟩ := List.mem_flatMap.mp mem
    rcases exists_siblings_of_mem_places inside with
      same | ⟨inner, deeper, siblings, isGroup, beside, path, found⟩
    · obtain ⟨rfl, rfl⟩ := Prod.mk.inj same
      exact ⟨members, .top members, member, here, rfl⟩
    · obtain rfl : around = member.key :: deeper := path
      exact ⟨siblings, .within (isGroup ▸ here) beside, found⟩
  · rintro ⟨siblings, beside, member, mem, rfl⟩
    exact beside.mem_placesOfAll mem []

/-! ### Where no key is visited twice -/

theorem eq_of_mem_keys (nodup : (keysOfAll members).Nodup) (mem : member ∈ members)
    (also : other ∈ members) (first : key ∈ member.keys) (second : key ∈ other.keys) :
    member = other := by
  rw [keysOfAll_eq, List.nodup_flatMap] at nodup
  by_contra differ
  have : Std.Symm (Function.onFun List.Disjoint keys) :=
    ⟨fun _ _ disjoint _ inOne inOther => disjoint inOther inOne⟩
  exact nodup.2.forall mem also differ first second

theorem eq_of_key (nodup : (keysOfAll members).Nodup) (mem : member ∈ members)
    (also : other ∈ members) (same : member.key = other.key) : member = other :=
  eq_of_mem_keys nodup mem also member.key_mem_keys (same ▸ other.key_mem_keys)

theorem nodup_of_mem (nodup : (keysOfAll members).Nodup) (mem : .group key siblings ∈ members) :
    key ∉ keysOfAll siblings ∧ (keysOfAll siblings).Nodup := by
  rw [keysOfAll_eq, List.nodup_flatMap] at nodup
  exact List.nodup_cons.mp (nodup.1 _ mem)

theorem nodup_members (nodup : (keysOfAll members).Nodup) (mem : member ∈ members) :
    (keysOfAll member.members).Nodup := by
  cases member with
  | entity key => exact List.nodup_nil
  | group key inner => exact (nodup_of_mem nodup mem).2

theorem nodup_of_keysOfAll (nodup : (keysOfAll members).Nodup) : members.Nodup := by
  rw [keysOfAll_eq, List.nodup_flatMap] at nodup
  refine nodup.2.imp fun {member other} disjoint same => ?_
  exact disjoint member.key_mem_keys (same ▸ member.key_mem_keys)

namespace Siblings

theorem mem_keysOfAll (beside : Siblings members around siblings) (mem : member ∈ siblings) :
    member.key ∈ keysOfAll members := by
  have place := beside.mem_placesOfAll mem []
  rw [← map_snd_placesOfAll []]
  exact List.mem_map_of_mem place

theorem nodup (beside : Siblings members around siblings) (nodup : (keysOfAll members).Nodup) :
    (keysOfAll siblings).Nodup := by
  induction beside with
  | top members => exact nodup
  | within mem _ ih => exact ih (nodup_of_mem nodup mem).2

/-- A key is among the siblings of one place only. -/
theorem unique (nodup : (keysOfAll members).Nodup) (first : Siblings members around siblings)
    (second : Siblings members above others) (mem : member ∈ siblings) (also : other ∈ others)
    (same : member.key = other.key) : around = above ∧ siblings = others := by
  induction first generalizing above with
  | top members =>
    cases second with
    | top => exact ⟨rfl, rfl⟩
    | @within _ inner _ key around inside below =>
      have deeper : other.key ∈ keysOfAll inner := below.mem_keysOfAll also
      rw [← same] at deeper
      obtain rfl := eq_of_mem_keys nodup mem inside member.key_mem_keys
        (List.mem_cons_of_mem key deeper)
      exact absurd deeper (nodup_of_mem nodup inside).1
  | @within members inner siblings key around inside below ih =>
    have deeper : member.key ∈ keysOfAll inner := below.mem_keysOfAll mem
    cases second with
    | top =>
      rw [same] at deeper
      obtain rfl := eq_of_mem_keys nodup inside also (List.mem_cons_of_mem key deeper)
        other.key_mem_keys
      exact absurd deeper (nodup_of_mem nodup inside).1
    | @within _ inner' _ key' around' inside' below' =>
      have deeper' : other.key ∈ keysOfAll inner' := below'.mem_keysOfAll also
      obtain ⟨rfl, rfl⟩ := Member.group.inj (eq_of_mem_keys nodup inside inside'
        (List.mem_cons_of_mem key deeper) (same ▸ List.mem_cons_of_mem key' deeper'))
      obtain ⟨rfl, rfl⟩ := ih (nodup_of_mem nodup inside).2 below' mem
      exact ⟨rfl, rfl⟩

end Siblings

/-! ### Siblings that share an id -/

variable {name : Key → Option String}

/-- An earlier sibling has the id of the object under the key. -/
def Shadowed (name : Key → Option String) (members : List Member) (key : Key) : Prop :=
  ∃ around before member after id, Siblings members around (before ++ member :: after) ∧
    member.key = key ∧ name key = some id ∧ ∃ earlier ∈ before, name earlier.key = some id

/-- Within a member the same keys are shadowed as in the forest that it is in. -/
theorem shadowed_within_iff (nodup : (keysOfAll members).Nodup) (mem : member ∈ members)
    (inside : key ∈ keysOfAll member.members) :
    Shadowed name member.members key ↔ Shadowed name members key := by
  cases member with
  | entity key => exact nomatch inside
  | group group inner =>
    constructor
    · rintro ⟨around, before, member, after, id, beside, shared⟩
      exact ⟨group :: around, before, member, after, id, .within mem beside, shared⟩
    · rintro ⟨around, before, member, after, id, beside, same, shared⟩
      obtain ⟨⟨deeper, there⟩, place, rfl⟩ := List.mem_map.mp
        ((map_snd_placesOfAll [] inner).symm ▸ inside)
      obtain ⟨siblings, below, here, hereMem, hereKey⟩ := mem_placesOfAll_iff.mp place
      obtain ⟨rfl, rfl⟩ := Siblings.unique nodup (.within mem below) beside hereMem
        (List.mem_append_right before List.mem_cons_self) (hereKey.trans same.symm)
      exact ⟨deeper, before, member, after, id, below, same, shared⟩

/-- The first of the top members with its id is not shadowed, and any later one is. -/
theorem shadowed_top_iff (nodup : (keysOfAll members).Nodup) {id : String}
    (found : members.find? (name ·.key == some id) = some member) (mem : other ∈ members)
    (named : name other.key = some id) : ¬ Shadowed name members other.key ↔ other = member := by
  obtain ⟨has, before, after, rfl, first⟩ := List.find?_eq_some_iff_append.mp found
  have different : ∀ earlier ∈ before, name earlier.key ≠ some id := by simpa using first
  constructor
  · intro unshadowed
    rcases List.mem_append.mp mem with early | later
    · exact absurd named (different other early)
    · rcases List.mem_cons.mp later with rfl | late
      · rfl
      · obtain ⟨between, rest, rfl⟩ := List.append_of_mem late
        refine absurd ⟨[], before ++ member :: between, other, rest, id, ?_, rfl, named, member, ?_,
          beq_iff_eq.mp has⟩ unshadowed
        · rw [List.append_assoc, List.cons_append]
          exact .top _
        · exact List.mem_append_right before List.mem_cons_self
  · rintro rfl ⟨around, above, same, below, shared, beside, key, sharedName, earlier, inAbove, also⟩
    obtain ⟨-, whole⟩ := Siblings.unique nodup (.top _) beside mem
      (List.mem_append_right above List.mem_cons_self) key.symm
    obtain rfl := eq_of_key nodup mem (whole ▸ List.mem_append_right above List.mem_cons_self)
      key.symm
    have middle := List.nodup_middle.mp (nodup_of_keysOfAll nodup)
    obtain ⟨notBefore, notAfter⟩ := not_or.mp (mt List.mem_append.mpr (List.nodup_cons.mp middle).1)
    obtain ⟨rfl, -⟩ := (List.append_cons_inj_of_notMem notBefore notAfter).mp whole
    exact different earlier inAbove (also.trans (sharedName.symm.trans named))

/-! ### Id paths -/

/-- The key stands within the groups `around`, and the ids of these and its own are the path. -/
structure HasIdPath (name : Key → Option String) (members : List Member) (around : List Key)
    (key : Key) (path : List String) : Prop where
  place : (around, key) ∈ placesOfAll [] members
  ids : List.Forall₂ (fun key id => name key = some id) (around ++ [key]) path

theorem mem_placesOfAll_top_iff :
    ([], key) ∈ placesOfAll [] members ↔ ∃ member ∈ members, member.key = key := by
  rw [mem_placesOfAll_iff]
  constructor
  · rintro ⟨siblings, ⟨⟩, found⟩
    exact found
  · exact fun found => ⟨members, .top members, found⟩

theorem mem_placesOfAll_within_iff {group : Key} :
    (group :: around, key) ∈ placesOfAll [] members ↔
      ∃ member ∈ members, member.key = group ∧ (around, key) ∈ placesOfAll [] member.members := by
  rw [mem_placesOfAll_iff]
  constructor
  · rintro ⟨siblings, within, found⟩
    cases within with
    | @within _ inner _ _ _ mem below =>
      exact ⟨_, mem, rfl, mem_placesOfAll_iff.mpr ⟨siblings, below, found⟩⟩
  · rintro ⟨member, mem, rfl, inside⟩
    cases member with
    | entity key => exact nomatch inside
    | group key inner =>
      obtain ⟨siblings, below, found⟩ := mem_placesOfAll_iff.mp inside
      exact ⟨siblings, .within mem below, found⟩

theorem mem_keysOfAll_of_place (place : (around, key) ∈ placesOfAll [] members) {above : Key}
    (mem : above ∈ around ++ [key]) : above ∈ keysOfAll members := by
  induction around generalizing members with
  | nil =>
    obtain ⟨member, here, rfl⟩ := mem_placesOfAll_top_iff.mp place
    rw [List.mem_singleton.mp mem]
    exact mem_keysOfAll.mpr ⟨member, here, member.key_mem_keys⟩
  | cons group below ih =>
    obtain ⟨member, here, rfl, inside⟩ := mem_placesOfAll_within_iff.mp place
    refine mem_keysOfAll.mpr ⟨member, here, ?_⟩
    rcases List.mem_cons.mp mem with rfl | deeper
    · exact member.key_mem_keys
    · cases member with
      | entity key => exact nomatch inside
      | group key inner => exact List.mem_cons_of_mem key (ih inside deeper)

/-- An id path starts at a top member, and ends there or goes on within it. -/
theorem hasIdPath_cons_iff {id : String} {path : List String} :
    HasIdPath name members around key (id :: path) ↔ ∃ member ∈ members,
      name member.key = some id ∧ ((around = [] ∧ key = member.key ∧ path = []) ∨
        ∃ below, around = member.key :: below ∧
          HasIdPath name member.members below key path) := by
  constructor
  · rintro ⟨place, ids⟩
    cases around with
    | nil =>
      obtain ⟨member, mem, rfl⟩ := mem_placesOfAll_top_iff.mp place
      obtain ⟨here, rest⟩ := List.forall₂_cons.mp ids
      exact ⟨member, mem, here, .inl ⟨rfl, rfl, List.forall₂_nil_left_iff.mp rest⟩⟩
    | cons group below =>
      obtain ⟨member, mem, rfl, inside⟩ := mem_placesOfAll_within_iff.mp place
      obtain ⟨here, rest⟩ := List.forall₂_cons.mp ids
      exact ⟨member, mem, here, .inr ⟨below, rfl, inside, rest⟩⟩
  · rintro ⟨member, mem, here, ⟨rfl, rfl, rfl⟩ | ⟨below, rfl, inside, rest⟩⟩
    · exact ⟨mem_placesOfAll_top_iff.mpr ⟨member, mem, rfl⟩, .cons here .nil⟩
    · exact ⟨mem_placesOfAll_within_iff.mpr ⟨member, mem, rfl, inside⟩, .cons here rest⟩

/-- The key stands within the groups `around`, the ids of these and its own are the path, and none of
them is shadowed. -/
structure Leads (name : Key → Option String) (members : List Member) (around : List Key)
    (key : Key) (path : List String) : Prop extends HasIdPath name members around key path where
  unshadowed : ∀ above ∈ around ++ [key], ¬ Shadowed name members above

/-- Where a search is led to starts at the first top member of the first id. -/
theorem leads_cons_iff (nodup : (keysOfAll members).Nodup) {id : String} {path : List String}
    (found : members.find? (name ·.key == some id) = some member) :
    Leads name members around key (id :: path) ↔
      (around = [] ∧ key = member.key ∧ path = []) ∨
        ∃ below, around = member.key :: below ∧ Leads name member.members below key path := by
  have mem := List.mem_of_find?_eq_some found
  have named := List.find?_some found
  have here : name member.key = some id := beq_iff_eq.mp named
  have front : ¬ Shadowed name members member.key := (shadowed_top_iff nodup found mem here).mpr rfl
  constructor
  · rintro ⟨along, unshadowed⟩
    obtain ⟨other, also, there, further⟩ := hasIdPath_cons_iff.mp along
    have first : other.key ∈ around ++ [key] := by
      rcases further with ⟨rfl, rfl, -⟩ | ⟨below, rfl, -⟩ <;> exact List.mem_cons_self
    obtain rfl := (shadowed_top_iff nodup found also there).mp (unshadowed _ first)
    refine further.imp_right ?_
    rintro ⟨below, rfl, deeper⟩
    refine ⟨below, rfl, deeper, fun above inBelow shadowed => ?_⟩
    have inside := mem_keysOfAll_of_place deeper.place inBelow
    exact unshadowed above (List.mem_cons_of_mem _ inBelow)
      ((shadowed_within_iff nodup also inside).mp shadowed)
  · intro further
    have along : HasIdPath name members around key (id :: path) :=
      hasIdPath_cons_iff.mpr ⟨member, mem, here, further.imp_right fun ⟨below, same, deeper⟩ =>
        ⟨below, same, deeper.toHasIdPath⟩⟩
    refine ⟨along, ?_⟩
    rcases further with ⟨rfl, rfl, -⟩ | ⟨below, rfl, deeper⟩
    · exact List.forall_mem_singleton.mpr front
    · refine List.forall_mem_cons.mpr ⟨front, fun above inBelow shadowed => ?_⟩
      have inside := mem_keysOfAll_of_place deeper.place inBelow
      exact deeper.unshadowed above inBelow ((shadowed_within_iff nodup mem inside).mpr shadowed)

end Member

namespace EntityList

open Member

variable {list : EntityList} {members : List Member} {path : List String} {key : Key}

/-- A search finds what the path leads to. -/
theorem findPath_eq_some_iff (nodup : (keysOfAll members).Nodup) :
    list.findPath path members = some key ↔
      ∃ around, Leads list.idOf? members around key path := by
  induction path generalizing members with
  | nil =>
    constructor
    · exact nofun
    · rintro ⟨around, leads⟩
      exact absurd (List.forall₂_nil_right_iff.mp leads.ids) (by simp)
  | cons id path ih =>
    rw [findPath]
    cases found : members.find? (list.idOf? ·.key == some id) with
    | none =>
      constructor
      · exact nofun
      · rintro ⟨around, leads⟩
        obtain ⟨member, mem, here, -⟩ := hasIdPath_cons_iff.mp leads.toHasIdPath
        exact absurd here (by simpa using List.find?_eq_none.mp found member mem)
    | some member =>
      have inner := nodup_members nodup (List.mem_of_find?_eq_some found)
      simp only [leads_cons_iff nodup found]
      cases path with
      | nil =>
        constructor
        · intro result
          exact ⟨[], .inl ⟨rfl, (Option.some.inj result).symm, rfl⟩⟩
        · rintro ⟨around, ⟨rfl, rfl, -⟩ | ⟨below, rfl, deeper⟩⟩
          · rfl
          · exact absurd (List.forall₂_nil_right_iff.mp deeper.ids) (by simp)
      | cons next path =>
        refine Iff.trans (ih inner) ⟨?_, ?_⟩
        · rintro ⟨below, deeper⟩
          exact ⟨member.key :: below, .inr ⟨below, rfl, deeper⟩⟩
        · rintro ⟨around, ⟨-, -, nothing⟩ | ⟨below, -, deeper⟩⟩
          · exact nomatch nothing
          · exact ⟨below, deeper⟩

end EntityList
end FactoryBlueprint
