import FactoryBlueprint.EntityList.Member
import Mathlib.Data.List.Nodup
import Mathlib.Data.List.Perm.Basic

/-! # Walking the forest of members

A walk visits every key of a forest, that of a group before those of its members. This module says
which keys a walk visits after a member was inserted, replaced or cut out, and defines the place of
a key: the groups around it.
-/

namespace FactoryBlueprint.Member

mutual

/-- What holds of every entity, and of a group whenever it holds of its members, holds of every
member. -/
@[induction_eliminator]
theorem forestInduction {motive : Member → Prop} (entity : ∀ key, motive (.entity key))
    (group : ∀ key members, (∀ member ∈ members, motive member) → motive (.group key members)) :
    (member : Member) → motive member
  | .entity key => entity key
  | .group key members => group key members (forestInductionAll entity group members)

theorem forestInductionAll {motive : Member → Prop} (entity : ∀ key, motive (.entity key))
    (group : ∀ key members, (∀ member ∈ members, motive member) → motive (.group key members)) :
    (members : List Member) → ∀ member ∈ members, motive member
  | [], _, mem => absurd mem List.not_mem_nil
  | first :: rest, member, mem =>
    (List.mem_cons.mp mem).elim (fun same => same ▸ forestInduction entity group first)
      (forestInductionAll entity group rest member)

end

/-! ### The keys that a walk visits -/

theorem keysOfAll_eq (members : List Member) : keysOfAll members = members.flatMap keys := by
  induction members with
  | nil => rfl
  | cons first rest ih => simp [keysOfAll, ih]

theorem leavesOfAll_eq (members : List Member) : leavesOfAll members = members.flatMap leaves := by
  induction members with
  | nil => rfl
  | cons first rest ih => simp [leavesOfAll, ih]

theorem mem_keysOfAll {members : List Member} {key : Key} :
    key ∈ keysOfAll members ↔ ∃ member ∈ members, key ∈ keys member := by
  rw [keysOfAll_eq, List.mem_flatMap]

theorem key_mem_keys (member : Member) : member.key ∈ keys member := by
  cases member <;> simp [key, keys]

theorem leaves_sublist_keys (member : Member) : (leaves member).Sublist (keys member) := by
  induction member with
  | entity key => exact List.Sublist.refl _
  | group key members ih =>
    simp only [leaves, keys, leavesOfAll_eq, keysOfAll_eq]
    refine List.Sublist.cons _ ?_
    induction members with
    | nil => exact List.Sublist.refl _
    | cons first rest ihRest =>
      simp only [List.flatMap_cons]
      exact (ih first List.mem_cons_self).append
        (ihRest fun member mem => ih member (List.mem_cons_of_mem _ mem))

theorem leavesOfAll_append (members others : List Member) :
    leavesOfAll (members ++ others) = leavesOfAll members ++ leavesOfAll others := by
  simp only [leavesOfAll_eq, List.flatMap_append]

theorem leavesOfAll_singleton (member : Member) : leavesOfAll [member] = leaves member :=
  List.append_nil _

/-- The leaves of a member come between those of the members before and after it. -/
theorem leavesOfAll_insertIdx {members : List Member} {i : Nat} (bound : i ≤ members.length)
    (member : Member) : leavesOfAll (members.insertIdx i member) =
      leavesOfAll (members.take i) ++ leaves member ++ leavesOfAll (members.drop i) := by
  have split : members.insertIdx i member = members.take i ++ [member] ++ members.drop i := by
    induction members generalizing i with
    | nil =>
      obtain rfl := Nat.le_zero.mp bound
      rfl
    | cons first rest ih =>
      cases i with
      | zero => rfl
      | succ i => exact congrArg (first :: ·) (ih (Nat.le_of_succ_le_succ bound))
  rw [split, leavesOfAll_append, leavesOfAll_append, leavesOfAll_singleton]

theorem leavesOfAll_sublist_keysOfAll (members : List Member) :
    (leavesOfAll members).Sublist (keysOfAll members) := by
  induction members with
  | nil => exact List.Sublist.refl _
  | cons first rest ih => exact (leaves_sublist_keys first).append ih

theorem keysOfAll_perm {members others : List Member} (perm : members.Perm others) :
    (keysOfAll members).Perm (keysOfAll others) := by
  rw [keysOfAll_eq, keysOfAll_eq]
  exact perm.flatMap_right _

theorem keysOfAll_insertIdx_perm {members : List Member} {i : Nat} (bound : i ≤ members.length)
    (member : Member) :
    (keysOfAll (members.insertIdx i member)).Perm (keys member ++ keysOfAll members) :=
  keysOfAll_perm (List.perm_insertIdx member members bound)

/-- What a replacement puts in and what it takes out make up for each other. -/
theorem keysOfAll_set_perm {members : List Member} {i : Nat} {old : Member}
    (present : members[i]? = some old) (member : Member) :
    (keys old ++ keysOfAll (members.set i member)).Perm (keys member ++ keysOfAll members) := by
  obtain ⟨bound, rfl⟩ := List.getElem?_eq_some_iff.mp present
  have after := keysOfAll_perm (List.set_perm_cons_eraseIdx bound member)
  have before := keysOfAll_perm (List.getElem_cons_eraseIdx_perm bound)
  simp only [keysOfAll] at after before
  calc keys members[i] ++ keysOfAll (members.set i member)
      |>.Perm (keys members[i] ++ (keys member ++ keysOfAll (members.eraseIdx i))) :=
        after.append_left _
    _ |>.Perm (keys member ++ (keys members[i] ++ keysOfAll (members.eraseIdx i))) :=
        List.perm_append_comm_assoc ..
    _ |>.Perm (keys member ++ keysOfAll members) := before.append_left _

/-! ### Finding a member and cutting it out -/

theorem findAmong?_eq_findSome? (wanted : Key) (members : List Member) :
    findAmong? wanted members = members.findSome? (find? wanted) := by
  induction members with
  | nil => rfl
  | cons first rest ih =>
    simp only [findAmong?, List.findSome?_cons, ih]
    cases find? wanted first <;> rfl

theorem find?_eq_none_iff {wanted : Key} {member : Member} :
    find? wanted member = none ↔ wanted ∉ keys member := by
  induction member with
  | entity key => by_cases same : key = wanted <;> simp [find?, keys, same, eq_comm (a := wanted)]
  | group key members ih =>
    by_cases same : key = wanted
    · simp [find?, keys, same]
    · simp only [find?, if_neg same, findAmong?_eq_findSome?, List.findSome?_eq_none_iff, keys,
        List.mem_cons, mem_keysOfAll, not_or, not_exists, not_and, Ne.symm same, not_false_eq_true,
        true_and]
      exact forall₂_congr ih

theorem find?_key (member : Member) : find? member.key member = some member := by
  cases member <;> simp [find?, key]

/-- The member that is found has the key that was looked for. -/
theorem key_of_find? {wanted : Key} {member found : Member}
    (eq : find? wanted member = some found) : found.key = wanted := by
  induction member with
  | entity key =>
    obtain ⟨rfl, rfl⟩ := by simpa [find?] using eq
    rfl
  | group key members ih =>
    rw [find?] at eq
    split at eq
    · rename_i same
      exact (Option.some.inj eq) ▸ same
    · rw [findAmong?_eq_findSome?] at eq
      obtain ⟨member, mem, inside⟩ := List.exists_of_findSome?_eq_some eq
      exact ih member mem inside

/-- Where no key is visited twice, a member is found by its key. -/
theorem findAmong?_key {members : List Member} (nodup : (keysOfAll members).Nodup) {member : Member}
    (mem : member ∈ members) : findAmong? member.key members = some member := by
  induction members with
  | nil => contradiction
  | cons first rest ih =>
    obtain ⟨-, others, disjoint⟩ := List.nodup_append'.mp nodup
    rw [findAmong?]
    rcases List.mem_cons.mp mem with rfl | later
    · rw [find?_key, Option.some_or]
    · have absent : member.key ∉ keys first := fun inside =>
        disjoint inside (mem_keysOfAll.mpr ⟨member, later, member.key_mem_keys⟩)
      rw [find?_eq_none_iff.mpr absent, Option.none_or]
      exact ih others later

mutual

/-- The member without the one of the given key below it. -/
def without (unwanted : Key) : Member → Member
  | .entity key => .entity key
  | .group key members => .group key (withoutAmong unwanted members)

/-- The members without the one of the given key, at any depth. -/
def withoutAmong (unwanted : Key) : List Member → List Member
  | [] => []
  | member :: rest =>
    if member.key = unwanted then withoutAmong unwanted rest
    else without unwanted member :: withoutAmong unwanted rest

end

theorem withoutAmong_eq (unwanted : Key) (members : List Member) :
    withoutAmong unwanted members =
      (members.filter (·.key ≠ unwanted)).map (without unwanted) := by
  induction members with
  | nil => rfl
  | cons first rest ih => by_cases same : first.key = unwanted <;> simp [withoutAmong, same, ih]

@[simp] theorem key_without (unwanted : Key) (member : Member) :
    (without unwanted member).key = member.key := by
  cases member <;> rfl

theorem strikeAmong_eq (parent unwanted : Key) (members : List Member) :
    strikeAmong parent unwanted members = members.map (strike parent unwanted) := by
  induction members with
  | nil => rfl
  | cons first rest ih => simp [strikeAmong, ih]

theorem without_of_notMem {unwanted : Key} {member : Member} (absent : unwanted ∉ keys member) :
    without unwanted member = member := by
  induction member with
  | entity key => rfl
  | group key members ih =>
    simp only [keys, List.mem_cons, mem_keysOfAll, not_or, not_exists, not_and] at absent
    have outside (member : Member) (mem : member ∈ members) : member.key ≠ unwanted := by
      intro same
      exact absent.2 member mem (same ▸ key_mem_keys member)
    have all : members.filter (·.key ≠ unwanted) = members :=
      List.filter_eq_self.mpr fun member mem => by simpa using outside member mem
    rw [without, withoutAmong_eq, all]
    have same : members.map (without unwanted) = members.map id :=
      List.map_congr_left fun member mem => ih member mem (absent.2 member mem)
    rw [same, List.map_id]

theorem withoutAmong_of_notMem {unwanted : Key} {members : List Member}
    (absent : unwanted ∉ keysOfAll members) : withoutAmong unwanted members = members := by
  induction members with
  | nil => rfl
  | cons first rest ih =>
    simp only [keysOfAll, List.mem_append, not_or] at absent
    have other : first.key ≠ unwanted := fun same => absent.1 (same ▸ key_mem_keys first)
    rw [withoutAmong, if_neg other, without_of_notMem absent.1, ih absent.2]

/-- If it holds of the members, a walk loses the keys of the member that is cut out and no
others. -/
private theorem keysOfAll_perm_of {unwanted : Key} {members : List Member} {found : Member}
    (step : ∀ member ∈ members, member.key ≠ unwanted → (keys member).Nodup →
      find? unwanted member = some found →
        (keys member).Perm (keys found ++ keys (without unwanted member)))
    (nodup : (keysOfAll members).Nodup) (eq : findAmong? unwanted members = some found) :
    (keysOfAll members).Perm (keys found ++ keysOfAll (withoutAmong unwanted members)) := by
  induction members with
  | nil => simp [findAmong?] at eq
  | cons first rest ih =>
    obtain ⟨firstNodup, restNodup, disjoint⟩ := List.nodup_append'.mp nodup
    have later := ih (fun member mem => step member (List.mem_cons_of_mem _ mem)) restNodup
    by_cases same : first.key = unwanted
    · have inFirst : unwanted ∈ keys first := same ▸ key_mem_keys first
      have here : found = first := by
        cases first <;> simp_all [findAmong?, find?, key]
      rw [withoutAmong, if_pos same, withoutAmong_of_notMem (disjoint inFirst), here]
      exact List.Perm.refl _
    · rw [withoutAmong, if_neg same, keysOfAll, keysOfAll]
      cases eqFirst : find? unwanted first with
      | some member =>
        have inFirst : unwanted ∈ keys first := by
          by_contra absent
          rw [find?_eq_none_iff.mpr absent] at eqFirst
          contradiction
        rw [findAmong?, eqFirst, Option.some_or, Option.some.injEq] at eq
        subst eq
        rw [withoutAmong_of_notMem (disjoint inFirst), ← List.append_assoc]
        exact (step first List.mem_cons_self same firstNodup eqFirst).append_right _
      | none =>
        rw [findAmong?, eqFirst, Option.none_or] at eq
        rw [without_of_notMem (find?_eq_none_iff.mp eqFirst)]
        exact ((later eq).append_left _).trans (List.perm_append_comm_assoc ..)

private theorem keys_perm_without {unwanted : Key} {member found : Member}
    (other : member.key ≠ unwanted) (nodup : (keys member).Nodup)
    (eq : find? unwanted member = some found) :
    (keys member).Perm (keys found ++ keys (without unwanted member)) := by
  induction member with
  | entity key => simp_all [find?, Member.key]
  | group key members ih =>
    rw [Member.key] at other
    rw [find?, if_neg other] at eq
    have inside := keysOfAll_perm_of (fun member mem other nodup => ih member mem other nodup)
      (List.nodup_cons.mp nodup).2 eq
    exact (inside.cons key).trans List.perm_middle.symm

/-- A walk loses the keys of the member that is cut out and no others. -/
theorem keysOfAll_perm_withoutAmong {unwanted : Key} {members : List Member} {found : Member}
    (nodup : (keysOfAll members).Nodup) (eq : findAmong? unwanted members = some found) :
    (keysOfAll members).Perm (keys found ++ keysOfAll (withoutAmong unwanted members)) :=
  keysOfAll_perm_of (fun _ _ other nodup => keys_perm_without other nodup) nodup eq

/-! ### Places -/

mutual

/-- The keys in a member as a walk visits them, each with the groups around it, outermost first. -/
def places (around : List Key) : Member → List (List Key × Key)
  | .entity key => [(around, key)]
  | .group key members => (around, key) :: placesOfAll (around ++ [key]) members

def placesOfAll (around : List Key) : List Member → List (List Key × Key)
  | [] => []
  | member :: rest => places around member ++ placesOfAll around rest

end

theorem placesOfAll_eq (around : List Key) (members : List Member) :
    placesOfAll around members = members.flatMap (places around) := by
  induction members with
  | nil => rfl
  | cons first rest ih => simp [placesOfAll, ih]

theorem map_snd_places (around : List Key) (member : Member) :
    (places around member).map (·.2) = keys member := by
  induction member generalizing around with
  | entity key => rfl
  | group key members ih =>
    simp only [places, keys, placesOfAll_eq, keysOfAll_eq, List.map_cons, List.map_flatMap]
    congr 1
    exact List.flatMap_congr fun member mem => ih member mem _

theorem map_snd_placesOfAll (around : List Key) (members : List Member) :
    (placesOfAll around members).map (·.2) = keysOfAll members := by
  rw [placesOfAll_eq, keysOfAll_eq, List.map_flatMap]
  exact List.flatMap_congr fun member _ => map_snd_places around member

end FactoryBlueprint.Member
