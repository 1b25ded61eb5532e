import FactoryBlueprint.Store.Arena

/-! # Tenancy

What removing many objects, or all of them, leaves under the other keys, and what becomes of keys.

A key is spent if its slot has gone on to a later tenant. Whatever is done to an arena, spent keys
stay spent, and an object is under its key or the key is spent (`Arena.Ages`). So a key that once led
to an object leads to that object or nowhere, and the next key was never in use.
-/

namespace FactoryBlueprint.Arena

variable {α : Type}

theorem contains_iff {arena : Arena α} {key : Key} :
    arena.contains key = true ↔ ∃ object, arena.get? key = some object := Option.isSome_iff_exists

@[simp] theorem get?_empty (key : Key) : (empty : Arena α).get? key = none := by
  simp [get?, empty]

theorem get?_removeAll (arena : Arena α) (keys : List Key) (key : Key) :
    (arena.removeAll keys).get? key = if key ∈ keys then none else arena.get? key := by
  induction keys generalizing arena with
  | nil => simp [removeAll]
  | cons first rest ih =>
    have step : arena.removeAll (first :: rest) = (arena.remove first).removeAll rest := rfl
    rw [step, ih, get?_remove]
    by_cases isFirst : key = first <;> by_cases inRest : key ∈ rest <;> simp [isFirst, inRest]

theorem mem_keys_of_get? {arena : Arena α} {key : Key} {object : α}
    (found : arena.get? key = some object) : key ∈ arena.keys := by
  have slot := exists_slot_of_get? found
  refine List.mem_filterMap.mpr ⟨(⟨key.generation, some object⟩, key.slot), ?_, rfl⟩
  rw [List.mk_mem_zipIdx_iff_getElem?]
  simpa using slot

@[simp] theorem get?_clear (arena : Arena α) (key : Key) : arena.clear.get? key = none := by
  rw [clear, get?_removeAll]
  split
  · rfl
  · rename_i absent
    cases found : arena.get? key with
    | none => rfl
    | some object => exact absurd (mem_keys_of_get? found) absent

variable {arena before middle after : Arena α} {key other : Key}

/-- A slot has one tenant. -/
theorem eq_of_slot_eq {object one : α} (found : arena.get? key = some object)
    (beside : arena.get? other = some one) (slot : other.slot = key.slot) : other = key := by
  have here := exists_slot_of_get? found
  rw [← slot, exists_slot_of_get? beside] at here
  exact Key.ext slot (congrArg Slot.generation (Option.some.inj here))

/-- The slot that is let next has none. -/
theorem slot_ne_nextKey {object : α} (found : arena.get? key = some object) :
    key.slot ≠ arena.nextKey.slot := by
  intro slot
  unfold nextKey at slot
  split at slot
  · exact Nat.ne_of_lt (Array.getElem?_eq_some_iff.mp (exists_slot_of_get? found)).1 slot
  · rename_i i rest eq
    exact slot_notMem_free found (by simp [eq, slot])

/-- The slot of the key has gone on to a later tenant. -/
def Spent (arena : Arena α) (key : Key) : Prop :=
  ∃ slot, arena.slots[key.slot]? = some slot ∧ key.generation < slot.generation

/-- A spent key leads nowhere. -/
theorem Spent.get?_eq_none (spent : arena.Spent key) : arena.get? key = none := by
  obtain ⟨slot, here, later⟩ := spent
  simp only [get?, here]
  exact if_neg (Nat.ne_of_gt later)

/-- The key that is issued next is not spent. -/
theorem not_spent_nextKey (arena : Arena α) : ¬ arena.Spent arena.nextKey := by
  rintro ⟨slot, here, later⟩
  unfold nextKey at here later
  split at here
  · rw [Array.getElem?_eq_none (Nat.le_refl _)] at here
    contradiction
  · rename_i i rest eq
    simp only [eq, here, Option.map_some, Option.getD_some] at later
    exact Nat.lt_irrefl _ later

/-- What an arena becomes in time: no key that is spent comes to lead anywhere, and no key that
leads somewhere comes to lead nowhere but by being spent. -/
structure Ages (before after : Arena α) : Prop where
  spent : ∀ key, before.Spent key → after.Spent key
  stored : ∀ key, (before.get? key).isSome → (after.get? key).isSome ∨ after.Spent key

namespace Ages

theorem refl (arena : Arena α) : arena.Ages arena := ⟨fun _ => id, fun _ => .inl⟩

theorem trans (first : before.Ages middle) (second : middle.Ages after) : before.Ages after where
  spent key gone := second.spent key (first.spent key gone)
  stored key here := by
    rcases first.stored key here with still | gone
    · exact second.stored key still
    · exact .inr (second.spent key gone)

/-- The key of an object that was taken out is spent. -/
theorem spent_of_get?_eq_none (ages : before.Ages after) (here : (before.get? key).isSome)
    (gone : after.get? key = none) : after.Spent key := by
  refine (ages.stored key here).resolve_left fun still => ?_
  rw [gone] at still
  contradiction

end Ages

/-- The key was issued: its object is there, or was. -/
def Issued (arena : Arena α) (key : Key) : Prop := (arena.get? key).isSome ∨ arena.Spent key

theorem Issued.later (issued : before.Issued key) (ages : before.Ages after) : after.Issued key :=
  issued.elim (ages.stored key) fun gone => .inr (ages.spent key gone)

theorem not_issued_nextKey (arena : Arena α) : ¬ arena.Issued arena.nextKey := by
  rintro (here | gone)
  · rw [get?_nextKey] at here
    contradiction
  · exact arena.not_spent_nextKey gone

/-- Slots whose tenants are counted on stay counted on. -/
private theorem Spent.mono (spent : before.Spent key)
    (count : ∀ (i : Nat) slot, before.slots[i]? = some slot →
      ∃ later, after.slots[i]? = some later ∧ slot.generation ≤ later.generation) :
    after.Spent key := by
  obtain ⟨slot, here, gone⟩ := spent
  obtain ⟨later, there, le⟩ := count key.slot slot here
  exact ⟨later, there, Nat.lt_of_lt_of_le gone le⟩

/-- A slot that is put in place of another counts on if the new count is no less. -/
private theorem count_setIfInBounds {slots : Array (Slot α)} {place : Nat} {old new : Slot α}
    (here : slots[place]? = some old) (le : old.generation ≤ new.generation) (i : Nat)
    (slot : Slot α) (found : slots[i]? = some slot) :
    ∃ later, (slots.setIfInBounds place new)[i]? = some later ∧
      slot.generation ≤ later.generation := by
  rw [Array.getElem?_setIfInBounds]
  by_cases same : place = i
  · subst same
    obtain rfl := Option.some.inj (here.symm.trans found)
    have inside := (Array.getElem?_eq_some_iff.mp here).1
    exact ⟨new, by simp [inside], le⟩
  · exact ⟨slot, by simp [same, found], Nat.le_refl _⟩

theorem ages_insert (arena : Arena α) (object : α) : arena.Ages (arena.insert object) where
  spent key gone := by
    refine gone.mono fun i slot found => ?_
    unfold insert
    split
    · have inside := (Array.getElem?_eq_some_iff.mp found).1
      refine ⟨slot, ?_, Nat.le_refl _⟩
      simp only [Array.getElem?_push, Nat.ne_of_lt inside, if_false, found]
    · rename_i place rest eq
      obtain ⟨generation, vacant⟩ := arena.free_vacant place (by simp [eq])
      refine count_setIfInBounds vacant ?_ i slot found
      simp [nextKey, eq, vacant]
  stored key here := by
    rw [get?_insert]
    split
    · exact .inl rfl
    · exact .inl here

theorem ages_remove (arena : Arena α) (key : Key) : arena.Ages (arena.remove key) := by
  have count : ∀ (i : Nat) slot, arena.slots[i]? = some slot →
      ∃ later, (arena.remove key).slots[i]? = some later ∧ slot.generation ≤ later.generation := by
    intro i slot found
    unfold remove
    split
    · exact ⟨slot, found, Nat.le_refl _⟩
    · rename_i object here
      exact count_setIfInBounds (exists_slot_of_get? here) (Nat.le_succ _) i slot found
  refine ⟨fun other gone => gone.mono count, fun other here => ?_⟩
  rw [get?_remove]
  split
  · rename_i same
    subst same
    -- The slot that is vacated counts one tenant more.
    obtain ⟨object, stored⟩ := Option.isSome_iff_exists.mp here
    have inside := (Array.getElem?_eq_some_iff.mp (exists_slot_of_get? stored)).1
    refine .inr ⟨⟨other.generation + 1, none⟩, ?_, Nat.lt_succ_self _⟩
    unfold remove
    split
    · rename_i missing
      exact nomatch missing.symm.trans stored
    · rw [Array.getElem?_setIfInBounds]
      simp [inside]
  · exact .inl here

theorem ages_modify (arena : Arena α) (key : Key) (f : α → α) :
    arena.Ages (arena.modify key f) where
  spent other gone := by
    refine gone.mono fun i slot found => ?_
    unfold modify
    split
    · exact ⟨slot, found, Nat.le_refl _⟩
    · rename_i object here
      exact count_setIfInBounds (exists_slot_of_get? here) (Nat.le_refl key.generation) i slot found
  stored other here := by
    rw [get?_modify]
    split
    · rename_i same
      rw [Option.isSome_map, ← same]
      exact .inl here
    · exact .inl here

theorem ages_map (arena : Arena α) (f : α → α) : arena.Ages (arena.map f) where
  spent key gone := by
    refine gone.mono fun i slot found =>
      ⟨⟨slot.generation, slot.content.map f⟩, ?_, Nat.le_refl _⟩
    simp [map, found]
  stored key here := by
    rw [get?_map, Option.isSome_map]
    exact .inl here

theorem ages_removeAll (arena : Arena α) (keys : List Key) : arena.Ages (arena.removeAll keys) := by
  induction keys generalizing arena with
  | nil => exact .refl arena
  | cons first rest ih => exact (arena.ages_remove first).trans (ih _)

theorem ages_clear (arena : Arena α) : arena.Ages arena.clear := arena.ages_removeAll arena.keys

end FactoryBlueprint.Arena
