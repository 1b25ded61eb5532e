import FactoryBlueprint.Proofs.Store.SpatialIndex
import Mathlib.Logic.Equiv.Basic

/-! # Cells of a spatial index

Every cell lists the keys whose boxes reach into it, and no others (`SpatialIndex.Filed`), so a
query finds every key whose box overlaps the area where both reach into one cell
(`Filed.mem_query_iff`).

Cells list keys in the order in which they were added, whatever the keys are. So an index that
differs from another in the names of its keys only (`SpatialIndex.Renames`) finds the same objects,
in the same order.
-/

namespace FactoryBlueprint

/-- Elements that are renamed one to one are kept or dropped as they were. -/
theorem Distinct.addAll_map {α β : Type} [DecidableEq α] [DecidableEq β] {f : α → β}
    (injective : Function.Injective f) (as others : List α) :
    addAll (as.map f) (others.map f) = (addAll as others).map f := by
  induction others generalizing as with
  | nil => rfl
  | cons a rest ih =>
    have step : add (as.map f) (f a) = (add as a).map f := by
      simp only [add, List.mem_map, injective.eq_iff, exists_eq_right]
      split <;> simp
    have first : addAll as (a :: rest) = addAll (add as a) rest := rfl
    have firstImage : addAll (as.map f) ((a :: rest).map f) =
        addAll (add (as.map f) (f a)) (rest.map f) := rfl
    rw [first, firstImage, step, ih]

namespace SpatialIndex

variable {index : SpatialIndex} {key other : Key} {box area : Box} {cell : Cell}

/-! ### What cells list -/

theorem getD_foldl_enter (cells : List Cell) (entered : Std.HashMap Cell (List Key)) :
    (cells.foldl (enter key) entered).getD cell [] =
      entered.getD cell [] ++ List.replicate (cells.count cell) key := by
  induction cells generalizing entered with
  | nil => simp
  | cons first rest ih =>
    rw [List.foldl_cons, ih, enter, Std.HashMap.getD_insert, List.count_cons]
    by_cases same : first = cell
    · subst same
      simp [List.replicate_succ]
    · simp [same]

theorem getD_leave (cells : Std.HashMap Cell (List Key)) (left : Cell) :
    (leave key cells left).getD cell [] =
      if left = cell then (cells.getD cell []).filter (· ≠ key) else cells.getD cell [] := by
  unfold leave
  split
  · rename_i none
    rw [Std.HashMap.getD_erase]
    by_cases same : left = cell
    · subst same
      rw [none]
      simp
    · simp [same]
  · rw [Std.HashMap.getD_insert]
    by_cases same : left = cell
    · subst same
      simp
    · simp [same]

theorem getD_foldl_leave (cells : List Cell) (left : Std.HashMap Cell (List Key)) :
    (cells.foldl (leave key) left).getD cell [] =
      if cell ∈ cells then (left.getD cell []).filter (· ≠ key) else left.getD cell [] := by
  induction cells generalizing left with
  | nil => simp
  | cons first rest ih =>
    rw [List.foldl_cons, ih, getD_leave]
    by_cases same : first = cell
    · subst same
      simp
    · simp [same, Ne.symm same]

theorem mem_getD_foldl_leave {cells : List Cell} {left : Std.HashMap Cell (List Key)} :
    other ∈ (cells.foldl (leave key) left).getD cell [] ↔
      other ∈ left.getD cell [] ∧ (other = key → cell ∉ cells) := by
  rw [getD_foldl_leave]
  by_cases listed : cell ∈ cells <;> simp [listed]

/-- Every cell lists the keys whose boxes reach into it, and no others. -/
def Filed (index : SpatialIndex) : Prop :=
  ∀ cell key, key ∈ index.cell cell ↔ ∃ box, index.box? key = some box ∧ cell ∈ Cell.covering box

theorem filed_empty : empty.Filed := by
  intro cell key
  simp [SpatialIndex.cell, empty, box?]

namespace Filed

theorem remove (filed : index.Filed) (key : Key) : (index.remove key).Filed := by
  intro cell other
  rw [box?_remove]
  unfold SpatialIndex.remove
  split
  · rename_i missing
    rw [filed]
    split
    · rename_i same
      rw [same, missing]
    · rfl
  · rename_i box found
    rw [SpatialIndex.cell, mem_getD_foldl_leave, ← SpatialIndex.cell, filed]
    split
    · rename_i same
      subst same
      simp [found]
    · rename_i differ
      simp [differ]

theorem add (filed : index.Filed) (room : index.Room key) (box : Box) :
    (index.add key box).Filed := by
  intro cell other
  have before := filed.remove key cell other
  rw [box?_remove] at before
  rw [SpatialIndex.cell, SpatialIndex.add, mem_getD_foldl_enter, ← SpatialIndex.cell, before,
    ← SpatialIndex.add, box?_add room]
  by_cases same : other = key <;> simp [same]

theorem removeAll (filed : index.Filed) (keys : List Key) : (index.removeAll keys).Filed := by
  induction keys generalizing index with
  | nil => exact filed
  | cons first rest ih => exact ih (filed.remove first)

theorem addAll (filed : index.Filed) {entries : List (Key × Box)}
    (rooms : index.RoomFor (entries.map (·.1))) : (index.addAll entries).Filed := by
  induction entries generalizing index with
  | nil => exact filed
  | cons first rest ih =>
    have here := List.mem_cons_self (a := first.1) (l := rest.map (·.1))
    exact ih (filed.add (rooms.room first.1 here) first.2) (rooms.add here first.2).tail

/-- A query finds the keys whose boxes overlap the area where both reach into one cell. -/
theorem mem_query_iff (filed : index.Filed) : key ∈ index.query area ↔
    ∃ box, index.box? key = some box ∧ box.overlaps area = true ∧
      ∃ cell ∈ Cell.covering area, cell ∈ Cell.covering box := by
  simp only [query, Distinct.mem_addAll, List.not_mem_nil, false_or, List.mem_filter,
    List.mem_flatMap, filed _ key, Option.any_eq_true]
  constructor
  · rintro ⟨⟨cell, inArea, box, found, inBox⟩, same, again, overlaps⟩
    obtain rfl := Option.some.inj (found.symm.trans again)
    exact ⟨box, found, overlaps, cell, inArea, inBox⟩
  · rintro ⟨box, found, overlaps, cell, inArea, inBox⟩
    exact ⟨⟨cell, inArea, box, found, inBox⟩, box, found, overlaps⟩

/-- A key without a box is in no cell. -/
theorem notMem_cell (filed : index.Filed) (missing : index.box? key = none) (cell : Cell) :
    key ∉ index.cell cell := by
  rw [filed, missing]
  simp

end Filed

/-- A key that is removed is struck from every cell. -/
theorem Filed.cell_remove (filed : index.Filed) (key : Key) (cell : Cell) :
    (index.remove key).cell cell = (index.cell cell).filter (· ≠ key) := by
  unfold SpatialIndex.remove
  split
  · rename_i missing
    refine (List.filter_eq_self.mpr fun other mem => decide_eq_true ?_).symm
    rintro rfl
    exact filed.notMem_cell missing cell mem
  · rename_i box found
    rw [SpatialIndex.cell, getD_foldl_leave]
    split
    · rfl
    · rename_i elsewhere
      refine (List.filter_eq_self.mpr fun other mem => decide_eq_true ?_).symm
      rintro rfl
      obtain ⟨reached, boxed, covered⟩ := (filed cell other).mp mem
      obtain rfl := Option.some.inj (boxed.symm.trans found)
      exact elsewhere covered

/-- A key that is added is struck from every cell, and stands last in those that its box reaches
into. -/
theorem Filed.cell_add (filed : index.Filed) (key : Key) (box : Box) (cell : Cell) :
    (index.add key box).cell cell = (index.cell cell).filter (· ≠ key) ++
      List.replicate ((Cell.covering box).count cell) key := by
  rw [← filed.cell_remove, SpatialIndex.cell, SpatialIndex.add, getD_foldl_enter]
  rfl

/-- Two keys that are added once more with their boxes stand as they did. -/
theorem Filed.cell_add_again (filed : index.Filed) {a b : Key} (rooms : index.RoomFor [a, b])
    {boxA boxB laterA laterB : Box} {once twice : SpatialIndex}
    (first : once = (index.add a boxA).add b boxB)
    (again : twice = (once.add a laterA).add b laterB)
    (boxes : ∀ key, twice.box? key = once.box? key) (cell : Cell) :
    twice.cell cell = once.cell cell := by
  have inA : a ∈ [a, b] := List.mem_cons_self
  have inB : b ∈ [a, b] := List.mem_cons_of_mem a List.mem_cons_self
  have middleRooms := rooms.add inA boxA
  have onceRooms : once.RoomFor [a, b] := first ▸ middleRooms.add inB boxB
  have againRooms := onceRooms.add inA laterA
  have middleFiled := filed.add (rooms.room a inA) boxA
  have onceFiled : once.Filed := first ▸ middleFiled.add (middleRooms.room b inB) boxB
  have atB := boxes b
  rw [again, box?_add_self (againRooms.room b inB), first, box?_add_self (middleRooms.room b inB)]
    at atB
  obtain rfl : laterB = boxB := Option.some.inj atB
  rw [again, (onceFiled.add (onceRooms.room a inA) laterA).cell_add, onceFiled.cell_add, first,
    middleFiled.cell_add, filed.cell_add]
  by_cases same : a = b
  · subst same
    simp
  · have atA := boxes a
    rw [again, box?_add (againRooms.room b inB), if_neg same, box?_add_self (onceRooms.room a inA),
      first, box?_add (middleRooms.room b inB), if_neg same, box?_add_self (rooms.room a inA)] at atA
    obtain rfl : laterA = boxA := Option.some.inj atA
    simp [List.filter_filter, Bool.and_comm, Bool.and_left_comm, same, Ne.symm same]

/-- A key that is new stands last in every cell that its box reaches into. -/
theorem cell_add (new : index.box? key = none) (box : Box) (cell : Cell) :
    (index.add key box).cell cell =
      index.cell cell ++ List.replicate ((Cell.covering box).count cell) key := by
  have same : index.remove key = index := by rw [remove, new]
  rw [SpatialIndex.cell, add, same, getD_foldl_enter]
  rfl

end SpatialIndex

/-! ### Renamed keys -/

/-- The renaming that leads from `key` to `target` instead, and the key that led there elsewhere. -/
def redirect (rename : Equiv.Perm Key) (key target : Key) : Equiv.Perm Key :=
  rename.trans (Equiv.swap (rename key) target)

section Redirect

variable {rename : Equiv.Perm Key} {key target other : Key}

theorem redirect_self : redirect rename key target key = target := Equiv.swap_apply_left _ _

theorem redirect_of_ne (differ : other ≠ key) (elsewhere : rename other ≠ target) :
    redirect rename key target other = rename other :=
  Equiv.swap_apply_of_ne_of_ne (fun same => differ (rename.injective same)) elsewhere

theorem redirect_eq_target_iff : redirect rename key target other = target ↔ other = key := by
  constructor
  · intro same
    exact (redirect rename key target).injective (same.trans redirect_self.symm)
  · rintro rfl
    exact redirect_self

/-- What is the same under the other names stays so if nothing stood at either end. -/
theorem apply_redirect {α : Type} {before after : Key → Option α}
    (same : ∀ other, after (rename other) = before other) (here : before key = none)
    (there : after target = none) (differ : other ≠ key) :
    after (redirect rename key target other) = before other := by
  by_cases elsewhere : rename other = target
  · have swapped : redirect rename key target other = rename key := by
      rw [redirect, Equiv.trans_apply, elsewhere]
      exact Equiv.swap_apply_right _ _
    rw [swapped, same, here, ← same other, elsewhere, there]
  · rw [redirect_of_ne differ elsewhere, same]

end Redirect

/-- The other index is the same but for the names of its keys. -/
structure SpatialIndex.Renames (rename : Equiv.Perm Key) (index other : SpatialIndex) : Prop where
  box? : ∀ key, other.box? (rename key) = index.box? key
  cell : ∀ cell, other.cell cell = (index.cell cell).map rename

namespace SpatialIndex.Renames

variable {rename : Equiv.Perm Key} {index other : SpatialIndex} {key target : Key}

theorem refl (index : SpatialIndex) : index.Renames (.refl Key) index := ⟨fun _ => rfl, by simp⟩

/-- The same objects are found, in the same order. -/
theorem query (renames : index.Renames rename other) (area : Box) :
    other.query area = (index.query area).map rename := by
  have listed : (Cell.covering area).flatMap other.cell =
      ((Cell.covering area).flatMap index.cell).map rename := by
    simp only [List.map_flatMap, ← renames.cell]
  simp only [SpatialIndex.query, listed, List.filter_map, Function.comp_def, renames.box?]
  exact Distinct.addAll_map rename.injective [] _

/-- An object that is new comes into both, each under a key of its own. -/
theorem add (renames : index.Renames rename other) (filed : index.Filed) (otherFiled : other.Filed)
    (new : index.box? key = none) (otherNew : other.box? target = none) (room : index.Room key)
    (otherRoom : other.Room target) (box : Box) :
    (index.add key box).Renames (redirect rename key target) (other.add target box) where
  box? named := by
    simp only [box?_add room, box?_add otherRoom, redirect_eq_target_iff]
    split
    · rfl
    · rename_i differ
      exact apply_redirect renames.box? new otherNew differ
  cell cell := by
    have kept : (index.cell cell).map (redirect rename key target) = other.cell cell := by
      rw [renames.cell]
      refine List.map_congr_left fun named mem => redirect_of_ne ?_ ?_
      · rintro rfl
        exact filed.notMem_cell new cell mem
      · intro same
        refine otherFiled.notMem_cell otherNew cell ?_
        rw [renames.cell, ← same]
        exact List.mem_map_of_mem mem
    rw [cell_add new, cell_add otherNew, List.map_append, kept, List.map_replicate, redirect_self]

end SpatialIndex.Renames
end FactoryBlueprint
