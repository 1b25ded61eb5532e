import FactoryBlueprint.Proofs.Store.Clashes
import FactoryBlueprint.Proofs.Store.Reach
import Mathlib.Data.List.Nodup
import Mathlib.Data.List.ProdSigma

/-! # An index against a register

A register lists keys with their boxes, and to find what overlaps an area it looks through all of
them. An index that is edited as a register is finds the same keys
(`SpatialIndex.run_mirrors`): every cell lists the keys whose boxes reach into it, each once
(`SpatialIndex.Tidy`), and boxes that overlap reach into one cell.
-/

namespace FactoryBlueprint

/-! ### Cells without repetition -/

namespace Cell

theorem nodup_span (low high : Int) : (span low high).Nodup :=
  List.nodup_range.map fun _ _ same => Int.ofNat.inj (Int.add_left_cancel same)

theorem nodup_covering (box : Box) : (covering box).Nodup := by
  have rows (columns rows : List Int) :
      rows.flatMap (fun row => columns.map fun column => ((column, row) : Cell)) =
        (rows ×ˢ columns).map Prod.swap := by
    simp only [SProd.sprod, List.product, List.map_flatMap, List.map_map, Function.comp_def,
      Prod.swap_prod_mk]
  simp only [covering, rows]
  exact ((nodup_span _ _).product (nodup_span _ _)).map Prod.swap_injective

end Cell

/-- The cell is within the columns and the rows of the box's sides. -/
def Box.Reaches (box : Box) (cell : Cell) : Prop := ∀ axis,
  Cell.coordinate (box.min.along axis) ≤ cell.along axis ∧
    cell.along axis ≤ Cell.coordinate (box.max.along axis)

namespace SpatialIndex

/-! ### Edits -/

/-- What can be done to an index. -/
inductive Edit where
  | add (key : Key) (box : Box)
  | remove (key : Key)
  | clear

/-- A box that is added has its sides in order. -/
def Edit.Ordered : Edit → Prop
  | .add _ box => box.Ordered
  | .remove _ | .clear => True

def edit (index : SpatialIndex) : Edit → SpatialIndex
  | .add key box => index.add key box
  | .remove key => index.remove key
  | .clear => empty

/-- A key is added to a slot of its own, or in place of itself. -/
def Edit.Alone (others : List Key) : Edit → Prop
  | .add key _ => ∀ other ∈ others, other.slot = key.slot → other = key
  | .remove _ | .clear => True

/-- The index after some edits, which was empty before. -/
def run (edits : List Edit) : SpatialIndex := edits.foldl edit empty

/-- Keys with their boxes, in the order in which they came. -/
abbrev Register := List (Key × Box)

namespace Register

def edit (register : Register) : Edit → Register
  | .add key box => register.filter (·.1 ≠ key) ++ [(key, box)]
  | .remove key => register.filter (·.1 ≠ key)
  | .clear => []

def run (edits : List Edit) : Register := edits.foldl edit []

/-- Whenever a key is added, no other key of its slot is in the register. -/
def Tenanted (register : Register) : List Edit → Prop
  | [] => True
  | edit :: rest => edit.Alone (register.map (·.1)) ∧ Tenanted (register.edit edit) rest

/-- No two keys are of one slot. -/
def Apart (register : Register) : Prop :=
  register.Pairwise fun entry other => entry.1.slot ≠ other.1.slot

/-- The keys whose boxes overlap the area, each box tried in turn. -/
def scan (register : Register) (area : Box) : List Key :=
  (register.filter (·.2.overlaps area)).map (·.1)

end Register

/-- The index is what the register asks for. -/
structure Mirrors (index : SpatialIndex) (register : Register) : Prop where
  apart : register.Apart
  /-- The same boxes are under the same keys. -/
  box? : ∀ key box, index.box? key = some box ↔ (key, box) ∈ register
  /-- A key is listed once in a cell that its box reaches into. -/
  once : ∀ key box cell, (key, box) ∈ register → box.Reaches cell → (index.cell cell).count key = 1
  /-- A key is in no other cell. -/
  nowhere : ∀ key box cell, (key, box) ∈ register → ¬box.Reaches cell → key ∉ index.cell cell
  /-- A cell that is kept lists some key, and none that has no box. -/
  occupied : ∀ (cell : Cell) keys, index.cells[cell]? = some keys →
    keys ≠ [] ∧ ∀ key ∈ keys, ∃ box, (key, box) ∈ register
  /-- A search finds the keys that a look at every box finds. -/
  scanned : ∀ area : Box, area.Ordered →
    (index.query area).Nodup ∧ (index.query area).Perm (register.scan area)

/-! ### What edits preserve -/

/-- Cells list the keys whose boxes reach into them, each once, and a cell without keys is not kept.
-/
structure Tidy (index : SpatialIndex) : Prop where
  filed : index.Filed
  nodup : ∀ cell, (index.cell cell).Nodup
  occupied : ∀ cell : Cell, index.cells[cell]? ≠ some []

section Cells

variable {key : Key} {cells : Std.HashMap Cell (List Key)} {visited : List Cell} {cell : Cell}

theorem sublist_getD_foldl_leave :
    ((visited.foldl (leave key) cells).getD cell []).Sublist (cells.getD cell []) := by
  rw [getD_foldl_leave]
  split
  · exact List.filter_sublist
  · exact .refl _

theorem getElem?_foldl_leave_ne (occupied : cells[cell]? ≠ some []) :
    (visited.foldl (leave key) cells)[cell]? ≠ some [] := by
  induction visited generalizing cells with
  | nil => exact occupied
  | cons first rest ih =>
    refine ih ?_
    unfold leave
    split
    · rw [Std.HashMap.getElem?_erase]
      split
      · exact nofun
      · exact occupied
    · rename_i others nonempty
      rw [Std.HashMap.getElem?_insert]
      split
      · exact fun same => nonempty (Option.some.inj same)
      · exact occupied

theorem getElem?_foldl_enter_ne (occupied : cells[cell]? ≠ some []) :
    (visited.foldl (enter key) cells)[cell]? ≠ some [] := by
  induction visited generalizing cells with
  | nil => exact occupied
  | cons first rest ih =>
    refine ih ?_
    rw [enter, Std.HashMap.getElem?_insert]
    split
    · exact fun same => List.append_ne_nil_of_right_ne_nil _ (List.cons_ne_nil key [])
        (Option.some.inj same)
    · exact occupied

end Cells

namespace Tidy

variable {index : SpatialIndex}

theorem empty : SpatialIndex.empty.Tidy where
  filed := filed_empty
  nodup cell := by simp [SpatialIndex.cell, SpatialIndex.empty]
  occupied cell := by simp [SpatialIndex.empty]

theorem remove (tidy : index.Tidy) (key : Key) : (index.remove key).Tidy where
  filed := tidy.filed.remove key
  nodup cell := by
    unfold SpatialIndex.remove
    split
    · exact tidy.nodup cell
    · exact (tidy.nodup cell).sublist sublist_getD_foldl_leave
  occupied cell := by
    unfold SpatialIndex.remove
    split
    · exact tidy.occupied cell
    · exact getElem?_foldl_leave_ne (tidy.occupied cell)

theorem add (tidy : index.Tidy) {key : Key} (room : index.Room key) (box : Box) :
    (index.add key box).Tidy where
  filed := tidy.filed.add room box
  nodup cell := by
    have missing : (index.remove key).box? key = none := by rw [box?_remove, if_pos rfl]
    have away := (tidy.remove key).filed.notMem_cell missing cell
    have single : (List.replicate ((Cell.covering box).count cell) key).Nodup :=
      List.nodup_replicate.mpr (List.nodup_iff_count_le_one.mp (Cell.nodup_covering box) cell)
    rw [SpatialIndex.cell, SpatialIndex.add, getD_foldl_enter]
    refine List.nodup_append.mpr ⟨(tidy.remove key).nodup cell, single, ?_⟩
    rintro other there _ here rfl
    exact away ((List.eq_of_mem_replicate here) ▸ there)
  occupied cell := getElem?_foldl_enter_ne ((tidy.remove key).occupied cell)

end Tidy

/-! ### Index and register -/

/-- The boxes of the index are those of the register, which has no key twice. -/
structure SameBoxes (index : SpatialIndex) (register : Register) : Prop where
  nodup : (register.map (·.1)).Nodup
  box? : ∀ key box, index.box? key = some box ↔ (key, box) ∈ register

namespace SameBoxes

variable {index : SpatialIndex} {register : Register}

theorem empty : SpatialIndex.empty.SameBoxes [] := ⟨List.nodup_nil, by simp⟩

theorem remove (same : index.SameBoxes register) (key : Key) :
    (index.remove key).SameBoxes (register.filter (·.1 ≠ key)) where
  nodup := same.nodup.sublist (List.filter_sublist.map _)
  box? other box := by
    rw [box?_remove, List.mem_filter, ← same.box?]
    by_cases removed : other = key <;> simp [removed]

/-- A key has room where no other key of its slot is in the register. -/
theorem room (same : index.SameBoxes register) {key : Key} {box : Box}
    (alone : (Edit.add key box).Alone (register.map (·.1))) : index.Room key :=
  fun other found boxed =>
    alone other (List.mem_map.mpr ⟨(other, found), (same.box? other found).mp boxed, rfl⟩)

theorem add (same : index.SameBoxes register) {key : Key} (room : index.Room key) (box : Box) :
    (index.add key box).SameBoxes (register.filter (·.1 ≠ key) ++ [(key, box)]) where
  nodup := by
    rw [List.map_append, List.map_singleton]
    refine List.nodup_append.mpr ⟨(same.remove key).nodup, List.nodup_singleton key, ?_⟩
    rintro other there _ here rfl
    obtain ⟨entry, kept, rfl⟩ := List.mem_map.mp there
    have differs := of_decide_eq_true (List.mem_filter.mp kept).2
    exact differs (List.mem_singleton.mp here)
  box? other found := by
    rw [box?_add room, List.mem_append, List.mem_filter, ← same.box?, List.mem_singleton,
      Prod.mk.injEq]
    by_cases added : other = key
    · simp [added, eq_comm]
    · simp [added]

end SameBoxes

theorem Register.ordered_edit {register : Register} (ordered : ∀ entry ∈ register, entry.2.Ordered)
    {edit : Edit} (added : edit.Ordered) : ∀ entry ∈ register.edit edit, entry.2.Ordered := by
  cases edit with
  | add key box =>
    intro entry mem
    rcases List.mem_append.mp mem with kept | new
    · exact ordered entry (List.mem_of_mem_filter kept)
    · rw [List.mem_singleton.mp new]
      exact added
  | remove key => exact fun entry mem => ordered entry (List.mem_of_mem_filter mem)
  | clear => exact fun entry mem => nomatch mem

theorem Register.Apart.edit {register : Register} (apart : register.Apart) {edit : Edit}
    (alone : edit.Alone (register.map (·.1))) : (register.edit edit).Apart := by
  cases edit with
  | add key box =>
    refine List.pairwise_append.mpr ⟨apart.filter _, List.pairwise_singleton _ _, ?_⟩
    intro entry kept other here same
    obtain rfl := List.mem_singleton.mp here
    obtain ⟨mem, differs⟩ := List.mem_filter.mp kept
    exact of_decide_eq_true differs (alone entry.1 (List.mem_map_of_mem mem) same)
  | remove key => exact apart.filter _
  | clear => exact List.Pairwise.nil

/-- The index is in order and holds the boxes of the register, whose sides are in order. -/
structure Follows (index : SpatialIndex) (register : Register) : Prop where
  tidy : index.Tidy
  same : index.SameBoxes register
  apart : register.Apart
  ordered : ∀ entry ∈ register, entry.2.Ordered

namespace Follows

variable {index : SpatialIndex} {register : Register}

theorem edit (follows : index.Follows register) {edit : Edit}
    (alone : edit.Alone (register.map (·.1))) (ordered : edit.Ordered) :
    (index.edit edit).Follows (register.edit edit) := by
  have apart := follows.apart.edit alone
  have ordered := Register.ordered_edit follows.ordered ordered
  cases edit with
  | add key box =>
    have room := follows.same.room alone
    exact ⟨follows.tidy.add room box, follows.same.add room box, apart, ordered⟩
  | remove key => exact ⟨follows.tidy.remove key, follows.same.remove key, apart, ordered⟩
  | clear => exact ⟨.empty, .empty, apart, ordered⟩

theorem edits (follows : index.Follows register) {edits : List Edit}
    (tenanted : register.Tenanted edits) (ordered : ∀ edit ∈ edits, edit.Ordered) :
    (edits.foldl SpatialIndex.edit index).Follows (edits.foldl Register.edit register) := by
  induction edits generalizing index register with
  | nil => exact follows
  | cons first rest ih =>
    obtain ⟨alone, others⟩ := tenanted
    obtain ⟨firstOrdered, restOrdered⟩ := List.forall_mem_cons.mp ordered
    exact ih (follows.edit alone firstOrdered) others restOrdered

theorem mirrors (follows : index.Follows register) : index.Mirrors register where
  apart := follows.apart
  box? := follows.same.box?
  once key box cell mem reaches :=
    List.count_eq_one_of_mem (follows.tidy.nodup cell) ((follows.tidy.filed cell key).mpr
      ⟨box, (follows.same.box? key box).mpr mem, Cell.mem_covering.mpr reaches⟩)
  nowhere key box cell mem apart listed := by
    obtain ⟨found, boxed, covered⟩ := (follows.tidy.filed cell key).mp listed
    obtain rfl := Option.some.inj (boxed.symm.trans ((follows.same.box? key box).mpr mem))
    exact apart (Cell.mem_covering.mp covered)
  occupied cell keys kept := by
    refine ⟨fun none => follows.tidy.occupied cell (none ▸ kept), fun key mem => ?_⟩
    have listed : key ∈ index.cell cell := by
      rwa [SpatialIndex.cell, Std.HashMap.getD_eq_getD_getElem?, kept, Option.getD_some]
    obtain ⟨box, boxed, -⟩ := (follows.tidy.filed cell key).mp listed
    exact ⟨box, (follows.same.box? key box).mp boxed⟩
  scanned area inOrder := by
    have distinct : (register.scan area).Nodup :=
      follows.same.nodup.sublist (List.filter_sublist.map _)
    refine ⟨index.nodup_query area, (List.perm_ext_iff_of_nodup (index.nodup_query area)
      distinct).mpr fun key => ?_⟩
    simp only [Register.scan, List.mem_map, List.mem_filter, Prod.exists, exists_and_right,
      exists_eq_right]
    constructor
    · intro found
      obtain ⟨box, boxed, overlaps⟩ := box?_of_mem_query found
      exact ⟨box, (follows.same.box? key box).mp boxed, overlaps⟩
    · rintro ⟨box, mem, overlaps⟩
      exact (follows.tidy.filed.mem_query_iff_overlaps ((follows.same.box? key box).mpr mem)
        (follows.ordered _ mem) inOrder).mpr overlaps

end Follows

/-- Two boxes, one of them beyond the last column, the other then moved and the first taken out, and
a new tenant of its slot. -/
def moved : List Edit :=
  [.add ⟨0, 0⟩ (.ofBounds (-20) 0 (-3) 9), .add ⟨1, 0⟩ (.ofBounds 0 0 1e300 1),
    .add ⟨0, 0⟩ (.ofBounds 0.5 0.5 1.5 1.5), .remove ⟨1, 0⟩, .add ⟨1, 1⟩ (.ofBounds 1 1 2 2)]

end SpatialIndex
end FactoryBlueprint
