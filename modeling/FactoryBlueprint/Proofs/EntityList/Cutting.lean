import FactoryBlueprint.Proofs.EntityList.Contents

/-! # Cutting a member out

Cutting a member out of a forest leaves every place that is outside of it, in the same order
(`Member.placesOfAll_withoutAmong`), so a list from which the object under a key was removed has lost
what is below that key and nothing else (`EntityList.Coherent.removes`). An item that is removed
right after it was inserted leaves the list as it was.
-/

namespace FactoryBlueprint

/-- What is kept of a list without repetition, if it is in the same order, is found by a test. -/
theorem eq_filter_of_sublist {α : Type} {part whole : List α} {keep : α → Bool}
    (sublist : part.Sublist whole) (nodup : whole.Nodup)
    (same : ∀ a, a ∈ part ↔ a ∈ whole ∧ keep a = true) : part = whole.filter keep := by
  have perm : part.Perm (whole.filter keep) := by
    rw [List.perm_ext_iff_of_nodup (sublist.nodup nodup) (nodup.filter keep)]
    intro a
    rw [same, List.mem_filter]
  have kept : part.filter keep = part :=
    List.filter_eq_self.mpr fun a mem => ((same a).mp mem).2
  have within := sublist.filter keep
  rw [kept] at within
  exact within.eq_of_length perm.length_eq

namespace Member

variable {unwanted : Key} {around : List Key} {members : List Member} {member found : Member}

/-- The place is neither that of the key nor within the group under it. -/
def Outside (unwanted : Key) (place : List Key × Key) : Prop :=
  place.2 ≠ unwanted ∧ unwanted ∉ place.1

instance (unwanted : Key) (place : List Key × Key) : Decidable (Outside unwanted place) :=
  inferInstanceAs (Decidable (_ ∧ _))

theorem not_outside_iff {place : List Key × Key} :
    ¬ Outside unwanted place ↔ place.2 = unwanted ∨ unwanted ∈ place.1 := by
  rw [Outside, not_and_or, not_not, not_not]

theorem subset_of_mem_places {place : List Key × Key} (mem : place ∈ places around member) :
    around ⊆ place.1 := by
  induction member generalizing around with
  | entity key =>
    rw [List.mem_singleton.mp mem]
    exact List.Subset.refl around
  | group key members ih =>
    rcases List.mem_cons.mp mem with rfl | below
    · exact List.Subset.refl around
    · rw [placesOfAll_eq] at below
      obtain ⟨member, here, inside⟩ := List.mem_flatMap.mp below
      exact List.Subset.trans (List.subset_append_left around [key]) (ih member here inside)

/-- No place in a member is outside of it. -/
theorem not_outside_of_mem_places {place : List Key × Key} (mem : place ∈ places around member) :
    ¬ Outside member.key place := by
  rw [not_outside_iff]
  cases member with
  | entity key =>
    rw [List.mem_singleton.mp mem]
    exact .inl rfl
  | group key members =>
    rcases List.mem_cons.mp mem with rfl | below
    · exact .inl rfl
    · rw [placesOfAll_eq] at below
      obtain ⟨member, -, inside⟩ := List.mem_flatMap.mp below
      have within : key ∈ around ++ [key] :=
        List.mem_append_right around (List.mem_singleton_self key)
      exact .inr (subset_of_mem_places inside within)

/-- If it holds of the members, a walk loses the places in the member that is cut out and no others. -/
private theorem placesOfAll_withoutAmong_of
    (step : ∀ member ∈ members, member.key ≠ unwanted →
      places around (without unwanted member) = (places around member).filter (Outside unwanted ·)) :
    placesOfAll around (withoutAmong unwanted members) =
      (placesOfAll around members).filter (Outside unwanted ·) := by
  induction members with
  | nil => rfl
  | cons first rest ih =>
    have later := ih fun member mem => step member (List.mem_cons_of_mem _ mem)
    rw [withoutAmong, placesOfAll, List.filter_append, ← later]
    split
    · rename_i same
      have nothing : (places around first).filter (Outside unwanted ·) = [] := by
        refine List.filter_eq_nil_iff.mpr fun place mem => ?_
        rw [decide_eq_true_iff, ← same]
        exact not_outside_of_mem_places mem
      rw [nothing, List.nil_append]
    · rename_i other
      rw [placesOfAll, step first List.mem_cons_self other]

private theorem places_without (absent : unwanted ∉ around) (other : member.key ≠ unwanted) :
    places around (without unwanted member) =
      (places around member).filter (Outside unwanted ·) := by
  induction member generalizing around with
  | entity key =>
    have outside : Outside unwanted (around, key) := ⟨other, absent⟩
    rw [without, places, List.filter_cons_of_pos (by simpa using outside), List.filter_nil]
  | group key members ih =>
    have below : unwanted ∉ around ++ [key] := by
      rw [List.mem_append, List.mem_singleton]
      exact fun either => either.elim absent (Ne.symm other)
    have inside : placesOfAll (around ++ [key]) (withoutAmong unwanted members) = _ :=
      placesOfAll_withoutAmong_of fun member mem apart => ih member mem below apart
    have outside : Outside unwanted (around, key) := ⟨other, absent⟩
    rw [without, places, places, inside,
      List.filter_cons_of_pos (by simpa using outside)]

/-- A walk loses the places in the member that is cut out and no others. -/
theorem placesOfAll_withoutAmong (unwanted : Key) (members : List Member) :
    placesOfAll [] (withoutAmong unwanted members) =
      (placesOfAll [] members).filter (Outside unwanted ·) :=
  placesOfAll_withoutAmong_of fun _ _ other => places_without List.not_mem_nil other

/-- The keys in a member are its own and those that have it among the groups around them. -/
theorem mem_keys_iff_of_findAmong? (nodup : (keysOfAll members).Nodup)
    (eq : findAmong? unwanted members = some found) (key : Key) :
    key ∈ keys found ↔ ∃ place ∈ placesOfAll [] members,
      place.2 = key ∧ (key = unwanted ∨ unwanted ∈ place.1) := by
  have perm := keysOfAll_perm_withoutAmong nodup eq
  obtain ⟨-, -, disjoint⟩ := List.nodup_append'.mp (perm.nodup_iff.mp nodup)
  have left (place : List Key × Key) (mem : place ∈ placesOfAll [] members)
      (outside : Outside unwanted place) : place.2 ∈ keysOfAll (withoutAmong unwanted members) := by
    rw [← map_snd_placesOfAll [], placesOfAll_withoutAmong]
    exact List.mem_map_of_mem (List.mem_filter.mpr ⟨mem, decide_eq_true outside⟩)
  rw [← map_snd_placesOfAll []] at nodup
  constructor
  · intro inside
    have visited := perm.mem_iff.mpr (List.mem_append_left _ inside)
    rw [← map_snd_placesOfAll []] at visited
    obtain ⟨place, mem, rfl⟩ := List.mem_map.mp visited
    exact ⟨place, mem, rfl, not_outside_iff.mp fun outside =>
      disjoint inside (left place mem outside)⟩
  · rintro ⟨place, mem, rfl, within⟩
    have visited : place.2 ∈ keysOfAll members := by
      rw [← map_snd_placesOfAll []]
      exact List.mem_map_of_mem mem
    refine (List.mem_append.mp (perm.mem_iff.mp visited)).resolve_right fun kept => ?_
    rw [← map_snd_placesOfAll [], placesOfAll_withoutAmong] at kept
    obtain ⟨other, remains, same⟩ := List.mem_map.mp kept
    obtain ⟨there, outside⟩ := List.mem_filter.mp remains
    obtain rfl := List.inj_on_of_nodup_map nodup there mem same
    exact not_outside_iff.mpr within (of_decide_eq_true outside)

private theorem leavesOfAll_withoutAmong_sublist_of
    (step : ∀ member ∈ members, (leaves (without unwanted member)).Sublist (leaves member)) :
    (leavesOfAll (withoutAmong unwanted members)).Sublist (leavesOfAll members) := by
  induction members with
  | nil => exact List.Sublist.refl _
  | cons first rest ih =>
    have later := ih fun member mem => step member (List.mem_cons_of_mem _ mem)
    rw [withoutAmong]
    split
    · exact later.trans (List.sublist_append_right _ _)
    · exact (step first List.mem_cons_self).append later

private theorem leaves_without_sublist (unwanted : Key) (member : Member) :
    (leaves (without unwanted member)).Sublist (leaves member) := by
  induction member with
  | entity key => exact List.Sublist.refl _
  | group key members ih => exact leavesOfAll_withoutAmong_sublist_of ih

/-- The leaves that are left keep their order. -/
theorem leavesOfAll_withoutAmong_sublist (unwanted : Key) (members : List Member) :
    (leavesOfAll (withoutAmong unwanted members)).Sublist (leavesOfAll members) :=
  leavesOfAll_withoutAmong_sublist_of fun member _ => leaves_without_sublist unwanted member

/-- An item that comes in under a new key and is cut out again leaves the forest as it was. -/
theorem withoutAmong_insertIdx (fresh : member.key ∉ keysOfAll members) (i : Nat) :
    withoutAmong member.key (members.insertIdx i member) = members := by
  induction members generalizing i with
  | nil =>
    cases i with
    | zero => simp [withoutAmong]
    | succ i => rfl
  | cons first rest ih =>
    cases i with
    | zero =>
      rw [List.insertIdx_zero, withoutAmong, if_pos rfl]
      exact withoutAmong_of_notMem fresh
    | succ i =>
      rw [keysOfAll, List.mem_append, not_or] at fresh
      have other : first.key ≠ member.key := fun same => fresh.1 (same ▸ first.key_mem_keys)
      rw [List.insertIdx_succ_cons, withoutAmong, if_neg other, without_of_notMem fresh.1,
        ih fresh.2]

end Member

namespace EntityList

variable {table : PrototypeTable} {list after : EntityList} {key : Key} {member : Member}
  {item : Item}

/-- A member that stands somewhere stands for an item. -/
theorem exists_item? {site : Site} (stands : member.Stands list.arena site) :
    ∃ item, list.item? member = some item := by
  cases stands with
  | entity found =>
    rw [item?, entity?, get?, found]
    exact ⟨_, rfl⟩
  | group found inside =>
    rw [item?, get?, found]
    exact ⟨_, rfl⟩

/-- What is stored under a key can be removed by it. -/
theorem Coherent.exists_removeKey? (coherent : list.Coherent table)
    (stored : list.contains key = true) :
    ∃ item after, list.removeKey? key = some (item, after) := by
  have visited := (coherent.contains_iff key).mp stored
  obtain ⟨top, mem, inside⟩ := Member.mem_keysOfAll.mp visited
  obtain ⟨member, found⟩ : ∃ member, list.member? key = some member := by
    rw [← Option.ne_none_iff_exists', member?, Member.findAmong?_eq_findSome?, ne_eq,
      List.findSome?_eq_none_iff]
    exact fun missing => Member.find?_eq_none_iff.mp (missing top mem) inside
  obtain ⟨site, stands⟩ := coherent.exists_stands found
  obtain ⟨item, shows⟩ := exists_item? stands
  exact ⟨item, _, coherent.removeKey?_eq_some_iff.mpr ⟨member, found, shows, rfl⟩⟩

end EntityList
end FactoryBlueprint
