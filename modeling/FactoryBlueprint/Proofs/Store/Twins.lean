import FactoryBlueprint.Proofs.Store.Tenancy
import FactoryBlueprint.Proofs.Store.Clashes

/-! # Arenas and indexes that are alike

An arena whose objects were mapped issues the same keys as the one that it was mapped from, and what
is done to both keeps it the mapped one. Indexes `Agree` if they know the same boxes, in whatever
order their cells list them; queries of both find the same keys, in some order.
-/

namespace FactoryBlueprint

namespace Arena

variable {α : Type} {arena : Arena α} {f g : α → α}

theorem eq_of_slots {other : Arena α} (slots : arena.slots = other.slots)
    (free : arena.free = other.free) : arena = other := by
  cases arena
  cases other
  obtain rfl : _ = _ := slots
  obtain rfl : _ = _ := free
  rfl

theorem slots_insert (arena : Arena α) (object : α) : (arena.insert object).slots =
    match arena.free with
    | [] => arena.slots.push ⟨0, some object⟩
    | i :: _ => arena.slots.setIfInBounds i ⟨arena.nextKey.generation, some object⟩ := by
  unfold insert
  split <;> rename_i eq <;> simp only [eq]

theorem free_insert (arena : Arena α) (object : α) :
    (arena.insert object).free = arena.free.tail := by
  unfold insert
  split <;> rename_i eq <;> simp [eq]

theorem slots_remove (arena : Arena α) (key : Key) : (arena.remove key).slots =
    if arena.contains key then arena.slots.setIfInBounds key.slot ⟨key.generation + 1, none⟩
    else arena.slots := by
  unfold remove
  split <;> rename_i eq <;> simp [contains, eq]

theorem free_remove (arena : Arena α) (key : Key) : (arena.remove key).free =
    if arena.contains key then key.slot :: arena.free else arena.free := by
  unfold remove
  split <;> rename_i eq <;> simp [contains, eq]

theorem slots_modify (arena : Arena α) (key : Key) (f : α → α) : (arena.modify key f).slots =
    match arena.get? key with
    | none => arena.slots
    | some object => arena.slots.setIfInBounds key.slot ⟨key.generation, some (f object)⟩ := by
  unfold modify
  split <;> rename_i eq <;> simp only [eq]

theorem free_modify (arena : Arena α) (key : Key) (f : α → α) :
    (arena.modify key f).free = arena.free := by
  unfold modify
  split <;> rfl

/-- A change that leaves the object as it is leaves the arena as it is. -/
theorem modify_eq_self {key : Key} (same : ∀ object, arena.get? key = some object →
    f object = object) : arena.modify key f = arena := by
  refine eq_of_slots ?_ (free_modify arena key f)
  rw [slots_modify]
  cases found : arena.get? key with
  | none => rfl
  | some object =>
    obtain ⟨inside, here⟩ := Array.getElem?_eq_some_iff.mp (exists_slot_of_get? found)
    dsimp only
    rw [same object found, ← here, Array.setIfInBounds_def, dif_pos inside,
      Array.set_getElem_self]

/-- A change that does nothing more to an object the second time can be made once. -/
theorem modify_modify {key : Key} (same : ∀ object, f (f object) = f object) :
    (arena.modify key f).modify key f = arena.modify key f := by
  refine modify_eq_self fun object found => ?_
  rw [get?_modify, if_pos rfl] at found
  obtain ⟨before, -, rfl⟩ := Option.map_eq_some_iff.mp found
  exact same before

theorem modify_insert_nextKey {object : α} (same : f object = object) :
    (arena.insert object).modify arena.nextKey f = arena.insert object := by
  refine modify_eq_self fun stored found => ?_
  rw [get?_insert, if_pos rfl] at found
  obtain rfl := Option.some.inj found
  exact same

/-! ### Arenas with the same slots -/

/-- The slots have been let as often, and the same ones are vacant, in the same order. -/
structure SameTenancies (arena after : Arena α) : Prop where
  free : after.free = arena.free
  counts : ∀ i : Nat, (after.slots[i]?).map Slot.generation = (arena.slots[i]?).map Slot.generation

namespace SameTenancies

variable {middle after : Arena α}

theorem symm (same : arena.SameTenancies after) : after.SameTenancies arena :=
  ⟨same.free.symm, fun i => (same.counts i).symm⟩

theorem trans (first : arena.SameTenancies middle) (second : middle.SameTenancies after) :
    arena.SameTenancies after :=
  ⟨second.free.trans first.free, fun i => (second.counts i).trans (first.counts i)⟩

theorem of_modify (arena : Arena α) (key : Key) (f : α → α) :
    arena.SameTenancies (arena.modify key f) where
  free := free_modify arena key f
  counts i := by
    rw [slots_modify]
    cases found : arena.get? key with
    | none => rfl
    | some object =>
      dsimp only
      rw [Array.getElem?_setIfInBounds]
      by_cases here : key.slot = i
      · obtain ⟨inside, -⟩ := Array.getElem?_eq_some_iff.mp (exists_slot_of_get? found)
        subst here
        rw [if_pos rfl, if_pos inside, exists_slot_of_get? found]
        rfl
      · rw [if_neg here]

/-- Nothing but objects can tell such arenas apart. -/
theorem eq (same : arena.SameTenancies after) (objects : ∀ key, after.get? key = arena.get? key) :
    after = arena := by
  refine eq_of_slots (Array.ext_getElem? fun i => ?_) same.free
  have counts := same.counts i
  cases here : arena.slots[i]? with
  | none =>
    rw [here] at counts
    exact Option.map_eq_none_iff.mp counts
  | some slot =>
    rw [here] at counts
    obtain ⟨⟨generation, content⟩, there, rfl⟩ := Option.map_eq_some_iff.mp counts
    have object := objects ⟨i, slot.generation⟩
    simp only [get?, here, there, if_true] at object
    rw [there, object]

end SameTenancies

/-! ### Mapped arenas -/

@[simp] theorem nextKey_map (arena : Arena α) (f : α → α) :
    (arena.map f).nextKey = arena.nextKey := by
  simp only [nextKey, map, Array.size_map, Array.getElem?_map, Option.map_map]
  rfl

@[simp] theorem contains_map (arena : Arena α) (f : α → α) (key : Key) :
    (arena.map f).contains key = arena.contains key := by
  rw [contains, get?_map, Option.isSome_map, contains]

@[simp] theorem map_empty (f : α → α) : (empty : Arena α).map f = empty :=
  eq_of_slots Array.map_empty rfl

theorem map_insert (arena : Arena α) (f : α → α) (object : α) :
    (arena.insert object).map f = (arena.map f).insert (f object) := by
  refine eq_of_slots ?_ ?_
  · have mapped : ((arena.insert object).map f).slots =
        (arena.insert object).slots.map fun slot => ⟨slot.generation, slot.content.map f⟩ := rfl
    have kept : (arena.map f).free = arena.free := rfl
    rw [mapped, slots_insert, slots_insert, kept, nextKey_map]
    split
    · rw [Array.map_push]
      rfl
    · rw [Array.map_setIfInBounds]
      rfl
  · rw [free_insert]
    exact free_insert arena object

theorem map_remove (arena : Arena α) (f : α → α) (key : Key) :
    (arena.remove key).map f = (arena.map f).remove key := by
  refine eq_of_slots ?_ ?_
  · have mapped : ((arena.remove key).map f).slots =
        (arena.remove key).slots.map fun slot => ⟨slot.generation, slot.content.map f⟩ := rfl
    rw [mapped, slots_remove, slots_remove, contains_map]
    split
    · rw [Array.map_setIfInBounds]
      rfl
    · rfl
  · rw [free_remove, contains_map]
    exact free_remove arena key

theorem map_modify (arena : Arena α) {f change changed : α → α} (key : Key)
    (same : ∀ object, arena.get? key = some object → f (change object) = changed (f object)) :
    (arena.modify key change).map f = (arena.map f).modify key changed := by
  refine eq_of_slots ?_ ?_
  · have mapped : ((arena.modify key change).map f).slots =
        (arena.modify key change).slots.map fun slot => ⟨slot.generation, slot.content.map f⟩ := rfl
    rw [mapped, slots_modify, slots_modify, get?_map]
    cases found : arena.get? key with
    | none => rfl
    | some object =>
      simp only [Option.map_some, Array.map_setIfInBounds, same object found]
      rfl
  · rw [free_modify]
    exact free_modify arena key change

theorem map_removeAll (arena : Arena α) (f : α → α) (keys : List Key) :
    (arena.removeAll keys).map f = (arena.map f).removeAll keys := by
  induction keys generalizing arena with
  | nil => rfl
  | cons first rest ih =>
    have step : (arena.removeAll (first :: rest)).map f =
        ((arena.remove first).removeAll rest).map f := rfl
    rw [step, ih, map_remove]
    rfl

@[simp] theorem keys_map (arena : Arena α) (f : α → α) : (arena.map f).keys = arena.keys := by
  simp only [keys, map, Array.toList_map, List.zipIdx_map, List.filterMap_map]
  refine congrArg (List.filterMap · _) (funext fun entry => ?_)
  obtain ⟨slot, i⟩ := entry
  simp [Option.map_map, Function.comp_def]

theorem map_clear (arena : Arena α) (f : α → α) : arena.clear.map f = (arena.map f).clear := by
  rw [clear, clear, keys_map, map_removeAll]

theorem map_map (arena : Arena α) (f g : α → α) :
    (arena.map f).map g = arena.map fun object => g (f object) := by
  refine eq_of_slots ?_ rfl
  simp only [map, Array.map_map]
  refine congrArg (Array.map · arena.slots) (funext fun slot => ?_)
  simp [Function.comp_def]

/-- Only what is done to the objects counts. -/
theorem map_congr (same : ∀ key object, arena.get? key = some object → f object = g object) :
    arena.map f = arena.map g := by
  refine eq_of_slots ?_ rfl
  refine Array.map_congr_left fun slot mem => ?_
  obtain ⟨i, inside, eq⟩ := Array.getElem_of_mem mem
  obtain ⟨generation, content⟩ := slot
  cases content with
  | none => rfl
  | some object =>
    have found : arena.get? ⟨i, generation⟩ = some object := by
      simp [get?, Array.getElem?_eq_getElem inside, eq]
    simp only [Option.map_some, same _ object found]

end Arena

/-- A search that at most one element answers does not depend on the order. -/
theorem find?_eq_of_perm {α : Type} {as bs : List α} {accepts : α → Bool} (perm : as.Perm bs)
    (unique : ∀ a ∈ as, ∀ b ∈ as, accepts a = true → accepts b = true → a = b) :
    bs.find? accepts = as.find? accepts := by
  cases found : as.find? accepts with
  | none =>
    rw [List.find?_eq_none] at found ⊢
    exact fun b mem => found b (perm.mem_iff.mpr mem)
  | some a =>
    have accepted := List.find?_some found
    have mem := List.mem_of_find?_eq_some found
    obtain ⟨b, first⟩ := Option.isSome_iff_exists.mp
      (List.find?_isSome.mpr ⟨a, perm.mem_iff.mp mem, accepted⟩)
    have here := perm.mem_iff.mpr (List.mem_of_find?_eq_some first)
    rw [first, unique b here a mem (List.find?_some first) accepted]

namespace SpatialIndex

variable {index other : SpatialIndex} {key : Key}

/-- Both indexes have the same boxes, and their cells list the same keys, in whatever order. -/
structure Agrees (index other : SpatialIndex) : Prop where
  listed : ∀ cell key, key ∈ other.cell cell ↔ key ∈ index.cell cell
  boxes : ∀ slot : Nat, other.boxes[slot]? = index.boxes[slot]?

namespace Agrees

/-- Indexes that file the same boxes. -/
theorem of_filed (filed : index.Filed) (otherFiled : other.Filed)
    (same : ∀ key, other.box? key = index.box? key) : index.Agrees other where
  listed cell key := by rw [filed, otherFiled, same]
  boxes slot := by
    refine Option.ext fun ⟨generation, box⟩ => ?_
    have here := same ⟨slot, generation⟩
    rw [← @box?_eq_some_iff other ⟨slot, generation⟩ box, here, box?_eq_some_iff]

theorem box? (agrees : index.Agrees other) (key : Key) : other.box? key = index.box? key := by
  rw [SpatialIndex.box?, SpatialIndex.box?, agrees.boxes]

/-- Queries find the same keys, in some order. -/
theorem query (agrees : index.Agrees other) (area : Box) :
    (index.query area).Perm (other.query area) := by
  refine (List.perm_ext_iff_of_nodup (nodup_query _ _) (nodup_query _ _)).mpr fun key => ?_
  simp only [SpatialIndex.query, Distinct.mem_addAll, List.mem_filter, List.mem_flatMap,
    agrees.listed, agrees.box?]

theorem mem_boxList (agrees : index.Agrees other) (box : Box) :
    box ∈ other.boxList ↔ box ∈ index.boxList := by
  simp only [SpatialIndex.mem_boxList, agrees.box?]

theorem empty : SpatialIndex.empty.Agrees SpatialIndex.empty := ⟨fun _ _ => .rfl, fun _ => rfl⟩

theorem remove (agrees : index.Agrees other) (key : Key) :
    (index.remove key).Agrees (other.remove key) := by
  rw [SpatialIndex.remove, SpatialIndex.remove, agrees.box?]
  cases index.box? key with
  | none => exact agrees
  | some box =>
    refine ⟨fun cell at_ => ?_, fun slot => ?_⟩
    · have listed := agrees.listed cell at_
      simp only [SpatialIndex.cell] at listed ⊢
      rw [mem_getD_foldl_leave, mem_getD_foldl_leave, listed]
    · rw [Std.HashMap.getElem?_erase, Std.HashMap.getElem?_erase, agrees.boxes]

theorem add (agrees : index.Agrees other) (key : Key) (box : Box) :
    (index.add key box).Agrees (other.add key box) where
  listed cell at_ := by
    have listed := (agrees.remove key).listed cell at_
    simp only [SpatialIndex.cell] at listed
    simp only [SpatialIndex.cell, SpatialIndex.add]
    rw [mem_getD_foldl_enter, mem_getD_foldl_enter, listed]
  boxes slot := by
    have boxes := (agrees.remove key).boxes
    simp only [SpatialIndex.add, record, boxes key.slot]
    split
    · split
      · exact boxes slot
      · rw [Std.HashMap.getElem?_insert, Std.HashMap.getElem?_insert, boxes]
    · rw [Std.HashMap.getElem?_insert, Std.HashMap.getElem?_insert, boxes]

theorem removeAll (agrees : index.Agrees other) (keys : List Key) :
    (index.removeAll keys).Agrees (other.removeAll keys) := by
  induction keys generalizing index other with
  | nil => exact agrees
  | cons first rest ih => exact ih (agrees.remove first)

theorem addAll (agrees : index.Agrees other) (entries : List (Key × Box)) :
    (index.addAll entries).Agrees (other.addAll entries) := by
  induction entries generalizing index other with
  | nil => exact agrees
  | cons first rest ih => exact ih (agrees.add first.1 first.2)

end Agrees
end SpatialIndex
end FactoryBlueprint
