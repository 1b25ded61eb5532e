/-! # Arenas

An arena stores objects in numbered slots. A slot counts its tenants, and a key names a slot
together with the tenant it was issued for, so the key of an object that has been removed never
names a later tenant of the same slot. The slot that was vacated last is let first.

`get?_insert`, `get?_remove` and `get?_modify` say what each operation does to the objects under
their keys.
-/

namespace FactoryBlueprint

/-- Names a tenant of a slot. -/
@[ext]
structure Key where
  slot : Nat
  generation : Nat
  deriving DecidableEq, Hashable, Inhabited

/-- A slot with the number of its tenant, or of the next one while it is vacant. -/
structure Arena.Slot (α : Type) where
  generation : Nat
  content : Option α

/-- Objects under keys that are never issued twice. -/
structure Arena (α : Type) where
  slots : Array (Arena.Slot α)
  /-- The vacant slots, the one vacated last in front. -/
  free : List Nat
  free_vacant : ∀ i ∈ free, ∃ generation, slots[i]? = some ⟨generation, none⟩
  free_nodup : free.Nodup

namespace Arena

variable {α : Type}

def empty : Arena α := ⟨#[], [], by simp, by simp⟩

instance : Inhabited (Arena α) := ⟨empty⟩

/-- The object under a key. -/
def get? (arena : Arena α) (key : Key) : Option α :=
  match arena.slots[key.slot]? with
  | some slot => if slot.generation = key.generation then slot.content else none
  | none => none

def contains (arena : Arena α) (key : Key) : Bool := (arena.get? key).isSome

/-- The key that the next object gets. -/
def nextKey (arena : Arena α) : Key :=
  match arena.free with
  | [] => ⟨arena.slots.size, 0⟩
  | i :: _ => ⟨i, ((arena.slots[i]?).map Slot.generation).getD 0⟩

/-- The arena with one more object, under `nextKey`. -/
def insert (arena : Arena α) (object : α) : Arena α :=
  match eq : arena.free with
  | [] => { arena with
      slots := arena.slots.push ⟨0, some object⟩
      free_vacant := by simp [eq] }
  | i :: rest => { arena with
      slots := arena.slots.setIfInBounds i ⟨arena.nextKey.generation, some object⟩
      free := rest
      free_vacant := by
        intro j mem
        have nodup := arena.free_nodup
        rw [eq] at nodup
        have differ : i ≠ j := fun same => (List.nodup_cons.mp nodup).1 (same ▸ mem)
        rw [Array.getElem?_setIfInBounds_ne differ]
        exact arena.free_vacant j (by simp [eq, mem])
      free_nodup := by
        have nodup := arena.free_nodup
        rw [eq] at nodup
        exact (List.nodup_cons.mp nodup).2 }

theorem exists_slot_of_get? {arena : Arena α} {key : Key} {object : α}
    (found : arena.get? key = some object) :
    arena.slots[key.slot]? = some ⟨key.generation, some object⟩ := by
  unfold get? at found
  split at found
  · rename_i slot eq
    obtain ⟨generation, content⟩ := slot
    split at found
    · rename_i same
      simp only at same found
      rw [eq, same, found]
    · simp at found
  · simp at found

theorem slot_notMem_free {arena : Arena α} {key : Key} {object : α}
    (found : arena.get? key = some object) : key.slot ∉ arena.free := by
  intro mem
  obtain ⟨generation, vacant⟩ := arena.free_vacant _ mem
  rw [exists_slot_of_get? found] at vacant
  simp at vacant

/-- The arena without the object under `key`; its slot is let next. -/
def remove (arena : Arena α) (key : Key) : Arena α :=
  match found : arena.get? key with
  | none => arena
  | some _ => { arena with
      slots := arena.slots.setIfInBounds key.slot ⟨key.generation + 1, none⟩
      free := key.slot :: arena.free
      free_vacant := by
        intro i mem
        rw [Array.getElem?_setIfInBounds]
        rcases List.mem_cons.mp mem with rfl | inFree
        · have inside : key.slot < arena.slots.size := by
            have eq := exists_slot_of_get? found
            exact (Array.getElem?_eq_some_iff.mp eq).1
          simp [inside]
        · have differ : key.slot ≠ i := fun same => slot_notMem_free found (same ▸ inFree)
          rw [if_neg differ]
          exact arena.free_vacant i inFree
      free_nodup := List.nodup_cons.mpr ⟨slot_notMem_free found, arena.free_nodup⟩ }

/-- The arena with `f` applied to every object. -/
def map (arena : Arena α) (f : α → α) : Arena α :=
  { arena with
    slots := arena.slots.map fun slot => ⟨slot.generation, slot.content.map f⟩
    free_vacant := by
      intro i mem
      obtain ⟨generation, vacant⟩ := arena.free_vacant i mem
      exact ⟨generation, by simp [vacant]⟩ }

/-- The arena with `f` applied to the object under `key`. -/
def modify (arena : Arena α) (key : Key) (f : α → α) : Arena α :=
  match found : arena.get? key with
  | none => arena
  | some object => { arena with
      slots := arena.slots.setIfInBounds key.slot ⟨key.generation, some (f object)⟩
      free_vacant := by
        intro i mem
        have differ : key.slot ≠ i := fun same => slot_notMem_free found (same ▸ mem)
        rw [Array.getElem?_setIfInBounds_ne differ]
        exact arena.free_vacant i mem }

/-- The keys of all objects, in slot order. -/
def keys (arena : Arena α) : List Key :=
  arena.slots.toList.zipIdx.filterMap fun (slot, i) =>
    slot.content.map fun _ => ⟨i, slot.generation⟩

/-- The arena without the objects under the given keys, removed one after the other. -/
def removeAll (arena : Arena α) (keys : List Key) : Arena α := keys.foldl remove arena

/-- The arena without any object. Its keys stay used. -/
def clear (arena : Arena α) : Arena α := arena.removeAll arena.keys

/-! ### What the operations do -/

theorem get?_nextKey (arena : Arena α) : arena.get? arena.nextKey = none := by
  unfold nextKey
  split
  · simp [get?]
  · rename_i i rest eq
    obtain ⟨generation, vacant⟩ := arena.free_vacant i (by simp [eq])
    simp [get?, vacant]

theorem get?_insert (arena : Arena α) (object : α) (key : Key) :
    (arena.insert object).get? key =
      if key = arena.nextKey then some object else arena.get? key := by
  obtain ⟨slot, generation⟩ := key
  unfold insert
  split
  · rename_i eq
    simp only [get?, nextKey, eq, Key.mk.injEq, Array.getElem?_push]
    by_cases last : slot = arena.slots.size
    · subst last
      by_cases first : generation = 0 <;> simp [first, eq_comm]
    · simp [last]
  · rename_i i rest eq
    obtain ⟨tenant, vacant⟩ := arena.free_vacant i (by simp [eq])
    obtain ⟨inside, content⟩ := Array.getElem?_eq_some_iff.mp vacant
    simp only [get?, nextKey, eq, Key.mk.injEq, Array.getElem?_setIfInBounds, vacant]
    by_cases same : slot = i
    · subst same
      by_cases tenancy : generation = tenant
      · simp [inside, tenancy]
      · simp [inside, tenancy, Ne.symm tenancy, content]
    · simp [same, Ne.symm same]

theorem get?_remove (arena : Arena α) (key other : Key) :
    (arena.remove key).get? other = if other = key then none else arena.get? other := by
  unfold remove
  split
  · rename_i missing
    split
    · rename_i same
      rw [same, missing]
    · rfl
  · rename_i object found
    obtain ⟨inside, content⟩ := Array.getElem?_eq_some_iff.mp (exists_slot_of_get? found)
    obtain ⟨slot, generation⟩ := key
    obtain ⟨otherSlot, otherGeneration⟩ := other
    simp only [get?, Key.mk.injEq, Array.getElem?_setIfInBounds] at *
    by_cases same : otherSlot = slot
    · subst same
      by_cases tenancy : otherGeneration = generation
      · simp [inside, tenancy]
      · simp [inside, tenancy, content, Ne.symm tenancy]
    · simp [same, Ne.symm same]

theorem get?_modify (arena : Arena α) (key other : Key) (f : α → α) :
    (arena.modify key f).get? other =
      if other = key then (arena.get? key).map f else arena.get? other := by
  unfold modify
  split
  · rename_i missing
    split
    · rename_i same
      rw [same, missing]
      rfl
    · rfl
  · rename_i object found
    obtain ⟨inside, content⟩ := Array.getElem?_eq_some_iff.mp (exists_slot_of_get? found)
    have image : (arena.get? key).map f = some (f object) := congrArg (Option.map f) found
    rw [image]
    obtain ⟨slot, generation⟩ := key
    obtain ⟨otherSlot, otherGeneration⟩ := other
    simp only [get?, Key.mk.injEq, Array.getElem?_setIfInBounds] at *
    by_cases same : otherSlot = slot
    · subst same
      by_cases tenancy : otherGeneration = generation
      · simp [inside, tenancy]
      · simp [inside, tenancy, content, Ne.symm tenancy]
    · simp [same, Ne.symm same]

theorem get?_map (arena : Arena α) (f : α → α) (key : Key) :
    (arena.map f).get? key = (arena.get? key).map f := by
  simp only [get?, map, Array.getElem?_map]
  cases arena.slots[key.slot]? with
  | none => rfl
  | some slot =>
    by_cases same : slot.generation = key.generation <;> simp [same]

end Arena
end FactoryBlueprint
