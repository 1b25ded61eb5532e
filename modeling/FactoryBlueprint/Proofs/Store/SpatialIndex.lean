import FactoryBlueprint.Proofs.Store.Tenancy
import FactoryBlueprint.Store.SpatialIndex

/-! # Boxes of a spatial index

What the operations of an index do to the box under each key, and that a query finds only keys
whose boxes overlap the area.
-/

namespace FactoryBlueprint.SpatialIndex

@[simp] theorem box?_empty (key : Key) : empty.box? key = none := by simp [box?, empty]

theorem box?_eq_some_iff {index : SpatialIndex} {key : Key} {box : Box} :
    index.box? key = some box ↔ index.boxes[key.slot]? = some (key.generation, box) := by
  unfold box?
  cases index.boxes[key.slot]? with
  | none => simp
  | some entry =>
    obtain ⟨generation, found⟩ := entry
    simp [and_comm (a := generation = key.generation), eq_comm (a := found)]

theorem box?_remove (index : SpatialIndex) (key other : Key) :
    (index.remove key).box? other = if other = key then none else index.box? other := by
  unfold remove
  split
  · rename_i missing
    split
    · rename_i same
      rw [same, missing]
    · rfl
  · rename_i box found
    have here := box?_eq_some_iff.mp found
    simp only [box?, Std.HashMap.getElem?_erase, beq_iff_eq]
    by_cases slot : key.slot = other.slot
    · -- Only the key itself has a box in the slot.
      rw [if_pos slot, ← slot, here]
      by_cases same : other = key
      · rw [if_pos same]
      · have generation : key.generation ≠ other.generation :=
          fun equal => same (Key.ext slot.symm equal.symm)
        simp only [if_neg same, if_neg generation]
    · have differ : other ≠ key := fun same => slot (congrArg Key.slot same).symm
      rw [if_neg slot, if_neg differ]

/-- No other key has a box in the slot of the key. -/
def Room (index : SpatialIndex) (key : Key) : Prop :=
  ∀ other box, index.box? other = some box → other.slot = key.slot → other = key

theorem room_empty (key : Key) : empty.Room key := by
  intro other box boxed
  rw [box?_empty] at boxed
  contradiction

variable {index : SpatialIndex} {key : Key}

theorem Room.remove (room : index.Room key) (gone : Key) : (index.remove gone).Room key := by
  intro other box boxed
  rw [box?_remove] at boxed
  split at boxed
  · contradiction
  · exact room other box boxed

/-- Where it gets a box no one has one. -/
theorem Room.getElem?_remove (room : index.Room key) :
    (index.remove key).boxes[key.slot]? = none := by
  cases found : (index.remove key).boxes[key.slot]? with
  | none => rfl
  | some entry =>
    obtain ⟨generation, box⟩ := entry
    have boxed : (index.remove key).box? ⟨key.slot, generation⟩ = some box :=
      box?_eq_some_iff.mpr found
    rw [box?_remove] at boxed
    split at boxed
    · contradiction
    · rename_i differ
      exact absurd (room _ box boxed rfl) differ

theorem box?_add (room : index.Room key) (other : Key) (box : Box) :
    (index.add key box).box? other = if other = key then some box else index.box? other := by
  have recorded : (index.add key box).boxes =
      (index.remove key).boxes.insert key.slot (key.generation, box) := by
    rw [add, record, room.getElem?_remove]
  simp only [box?, recorded, Std.HashMap.getElem?_insert, beq_iff_eq]
  by_cases slot : key.slot = other.slot
  · rw [if_pos slot]
    by_cases same : other = key
    · subst same
      simp
    · have generation : key.generation ≠ other.generation :=
        fun equal => same (Key.ext slot.symm equal.symm)
      have none : index.box? other = none := by
        refine Option.eq_none_iff_forall_ne_some.mpr fun found boxed => ?_
        exact same (room other found boxed slot.symm)
      simp only [if_neg generation, if_neg same]
      exact none.symm
  · have differ : other ≠ key := fun same => slot (congrArg Key.slot same).symm
    have before := box?_remove index key other
    rw [if_neg differ] at before
    rw [if_neg slot, if_neg differ]
    exact before

theorem box?_add_self (room : index.Room key) (box : Box) :
    (index.add key box).box? key = some box := by
  rw [box?_add room, if_pos rfl]

/-- The keys are of different slots, in which no other key has a box. -/
structure RoomFor (index : SpatialIndex) (keys : List Key) : Prop where
  room : ∀ key ∈ keys, index.Room key
  apart : ∀ key ∈ keys, ∀ other ∈ keys, other.slot = key.slot → other = key

theorem RoomFor.empty {keys : List Key}
    (apart : ∀ key ∈ keys, ∀ other ∈ keys, other.slot = key.slot → other = key) :
    SpatialIndex.empty.RoomFor keys :=
  ⟨fun key _ => room_empty key, apart⟩

theorem RoomFor.sub {keys more : List Key} (rooms : index.RoomFor more) (sub : keys ⊆ more) :
    index.RoomFor keys where
  room one mem := rooms.room one (sub mem)
  apart one mem other also := rooms.apart one (sub mem) other (sub also)

theorem RoomFor.tail {keys : List Key} (rooms : index.RoomFor (key :: keys)) :
    index.RoomFor keys :=
  rooms.sub (List.subset_cons_self key keys)

/-- Whichever boxes the keys are to get. -/
theorem RoomFor.entries {keys : List Key} (rooms : index.RoomFor keys) (box : Key → Option Box) :
    index.RoomFor ((keys.filterMap fun key => (box key).map (key, ·)).map (·.1)) := by
  refine rooms.sub fun key mem => ?_
  obtain ⟨entry, given, rfl⟩ := List.mem_map.mp mem
  obtain ⟨one, inKeys, some⟩ := List.mem_filterMap.mp given
  obtain ⟨_, -, rfl⟩ := Option.map_eq_some_iff.mp some
  exact inKeys

/-- There is still room once one of the keys has its box. -/
theorem RoomFor.add {keys : List Key} (rooms : index.RoomFor keys) (mem : key ∈ keys) (box : Box) :
    (index.add key box).RoomFor keys where
  room one also other found boxed slot := by
    rw [box?_add (rooms.room key mem)] at boxed
    split at boxed
    · rename_i same
      subst same
      exact rooms.apart one also other mem slot
    · exact rooms.room one also other found boxed slot
  apart := rooms.apart

/-! ### Keys of an arena -/

section Arena

variable {α : Type} {arena : Arena α}

theorem exists_get?_of_box? (vacant : ∀ key, arena.get? key = none → index.box? key = none)
    {box : Box} (boxed : index.box? key = some box) : ∃ object, arena.get? key = some object := by
  refine Option.ne_none_iff_exists'.mp fun missing => ?_
  rw [vacant key missing] at boxed
  contradiction

theorem room_nextKey (vacant : ∀ key, arena.get? key = none → index.box? key = none) :
    index.Room arena.nextKey := by
  intro other box boxed slot
  obtain ⟨object, found⟩ := exists_get?_of_box? vacant boxed
  exact absurd slot (Arena.slot_ne_nextKey found)

theorem room_of_get? (vacant : ∀ key, arena.get? key = none → index.box? key = none) {object : α}
    (found : arena.get? key = some object) : index.Room key := by
  intro other box boxed slot
  obtain ⟨one, beside⟩ := exists_get?_of_box? vacant boxed
  exact Arena.eq_of_slot_eq found beside slot

theorem roomFor_of_get? (vacant : ∀ key, arena.get? key = none → index.box? key = none)
    {keys : List Key} (stored : ∀ key ∈ keys, arena.get? key ≠ none) : index.RoomFor keys where
  room key mem :=
    let ⟨_, found⟩ := Option.ne_none_iff_exists'.mp (stored key mem)
    room_of_get? vacant found
  apart key mem other also slot :=
    let ⟨_, found⟩ := Option.ne_none_iff_exists'.mp (stored key mem)
    let ⟨_, beside⟩ := Option.ne_none_iff_exists'.mp (stored other also)
    Arena.eq_of_slot_eq found beside slot

end Arena

/-! ### Many keys -/

theorem box?_removeAll (index : SpatialIndex) (keys : List Key) (key : Key) :
    (index.removeAll keys).box? key = if key ∈ keys then none else index.box? key := by
  induction keys generalizing index with
  | nil => simp [removeAll]
  | cons first rest ih =>
    have step : index.removeAll (first :: rest) = (index.remove first).removeAll rest := rfl
    rw [step, ih, box?_remove]
    by_cases isFirst : key = first <;> by_cases inRest : key ∈ rest <;> simp [isFirst, inRest]

/-- Keys are added with the boxes that `box` gives them; those to which it gives none stay as they
are. -/
theorem box?_addAll {keys : List Key} (rooms : index.RoomFor keys) (box : Key → Option Box)
    (key : Key) : (index.addAll (keys.filterMap fun key => (box key).map (key, ·))).box? key =
      if key ∈ keys then (box key).or (index.box? key) else index.box? key := by
  induction keys generalizing index with
  | nil => simp [addAll]
  | cons first rest ih =>
    cases given : box first with
    | none =>
      have step : (first :: rest).filterMap (fun key => (box key).map (key, ·)) =
          rest.filterMap fun key => (box key).map (key, ·) := by simp [given]
      rw [step, ih rooms.tail]
      by_cases isFirst : key = first
      · subst isFirst
        simp [given]
      · simp [isFirst]
    | some area =>
      have step : index.addAll ((first :: rest).filterMap fun key => (box key).map (key, ·)) =
          (index.add first area).addAll (rest.filterMap fun key => (box key).map (key, ·)) := by
        simp [given, addAll]
      rw [step, ih (rooms.add List.mem_cons_self area).tail,
        box?_add (rooms.room first List.mem_cons_self)]
      by_cases isFirst : key = first
      · subst isFirst
        simp [given]
      · simp [isFirst]

theorem box?_of_mem_query {index : SpatialIndex} {area : Box} {key : Key}
    (found : key ∈ index.query area) : ∃ box, index.box? key = some box ∧ box.overlaps area := by
  rcases Distinct.mem_addAll.mp found with nothing | candidate
  · exact absurd nothing List.not_mem_nil
  · simpa only [Option.any_eq_true] using (List.mem_filter.mp candidate).2

theorem mem_getD_foldl_enter {key other : Key} {cells : List Cell}
    {entered : Std.HashMap Cell (List Key)} {cell : Cell} :
    other ∈ (cells.foldl (enter key) entered).getD cell [] ↔
      other ∈ entered.getD cell [] ∨ other = key ∧ cell ∈ cells := by
  induction cells generalizing entered with
  | nil => simp
  | cons first rest ih =>
    have step : other ∈ (enter key entered first).getD cell [] ↔
        other ∈ entered.getD cell [] ∨ other = key ∧ cell = first := by
      rw [enter, Std.HashMap.getD_insert]
      by_cases same : first = cell
      · simp [same]
      · simp [same, Ne.symm same]
    rw [List.foldl_cons, ih, step, List.mem_cons, or_assoc, ← and_or_left]

/-- A key is found by an area that its box overlaps, where both reach into one cell. -/
theorem mem_query_add (room : index.Room key) {box area : Box} {cell : Cell}
    (inBox : cell ∈ Cell.covering box) (inArea : cell ∈ Cell.covering area)
    (overlaps : box.overlaps area = true) : key ∈ (index.add key box).query area := by
  have listed : key ∈ (index.add key box).cell cell :=
    mem_getD_foldl_enter.mpr (.inr ⟨rfl, inBox⟩)
  refine Distinct.mem_addAll.mpr (.inr (List.mem_filter.mpr ⟨?_, ?_⟩))
  · exact List.mem_flatMap.mpr ⟨cell, inArea, listed⟩
  · simp [box?_add_self room, overlaps]

theorem query_add_empty_eq_nil {key : Key} {box area : Box} (apart : box.overlaps area = false) :
    (empty.add key box).query area = [] := by
  refine List.eq_nil_iff_forall_not_mem.mpr fun other mem => ?_
  obtain ⟨otherBox, boxed, overlaps⟩ := box?_of_mem_query mem
  rw [box?_add (room_empty key), box?_empty] at boxed
  split at boxed
  · rw [← Option.some.inj boxed, apart] at overlaps
    contradiction
  · contradiction

/-- A query finds the only key of an index where its box overlaps the area. -/
theorem find?_query_add_empty {key : Key} {box area : Box} {cell : Cell} {accepts : Key → Bool}
    (inBox : cell ∈ Cell.covering box) (inArea : cell ∈ Cell.covering area)
    (overlaps : box.overlaps area = true) (accepted : accepts key = true) :
    ((empty.add key box).query area).find? accepts = some key := by
  have mem : key ∈ (empty.add key box).query area :=
    mem_query_add (room_empty key) inBox inArea overlaps
  obtain ⟨other, first⟩ := Option.isSome_iff_exists.mp (List.find?_isSome.mpr ⟨key, mem, accepted⟩)
  obtain ⟨otherBox, boxed, -⟩ := box?_of_mem_query (List.mem_of_find?_eq_some first)
  rw [box?_add (room_empty key), box?_empty] at boxed
  split at boxed
  · rename_i same
    rw [first, same]
  · contradiction

theorem mem_boxList {index : SpatialIndex} {box : Box} :
    box ∈ index.boxList ↔ ∃ key, index.box? key = some box := by
  simp only [boxList, box?_eq_some_iff, List.mem_map, Prod.exists,
    Std.HashMap.mem_toList_iff_getElem?_eq_some]
  constructor
  · rintro ⟨slot, generation, _, found, rfl⟩
    exact ⟨⟨slot, generation⟩, found⟩
  · rintro ⟨key, found⟩
    exact ⟨key.slot, key.generation, box, found, rfl⟩

theorem boxList_empty : SpatialIndex.empty.boxList = [] := by
  refine List.eq_nil_iff_forall_not_mem.mpr fun box mem => ?_
  obtain ⟨key, found⟩ := mem_boxList.mp mem
  rw [box?_empty] at found
  contradiction

theorem mem_boxList_add (room : index.Room key) {box other : Box} (new : index.box? key = none) :
    other ∈ (index.add key box).boxList ↔ other ∈ index.boxList ∨ other = box := by
  simp only [mem_boxList, box?_add room]
  constructor
  · rintro ⟨at_, found⟩
    split at found
    · exact .inr (Option.some.inj found).symm
    · exact .inl ⟨at_, found⟩
  · rintro (⟨at_, found⟩ | rfl)
    · refine ⟨at_, ?_⟩
      rw [if_neg, found]
      rintro rfl
      rw [new] at found
      contradiction
    · exact ⟨key, if_pos rfl⟩

end FactoryBlueprint.SpatialIndex
