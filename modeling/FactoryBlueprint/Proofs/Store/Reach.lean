import FactoryBlueprint.Proofs.Geometry.Box
import FactoryBlueprint.Proofs.Number.Monotone
import FactoryBlueprint.Proofs.Store.Cells

/-! # What a query finds

A query looks into the cells of its area only. Cells follow the order of coordinates
(`Cell.coordinate_mono`), so boxes that overlap reach into one cell if no side of either is beyond
the one across. For boxes of one shape at two places that needs no saying: they do not overlap
otherwise (`Box.sides_of_overlaps`). So a query for a box finds every box of the same shape that
overlaps it (`SpatialIndex.Filed.mem_query_of_overlaps`).
-/

namespace FactoryBlueprint

open Binary64

/-! ### Cells in order -/

namespace Cell

theorem coordinate_mono {x y : Binary64} (le : x ≤ y) : coordinate x ≤ coordinate y := by
  have counts : side.quanta? = some (((8 : Nat) : Int) * unitQuanta) :=
    @quanta?_ofInt (8 : Nat) (by decide)
  have positive : (0 : Int) < unitQuanta := Int.natCast_pos.mpr (Nat.two_pow_pos unitExponent)
  exact floor_mono (by decide) (div_le_div_right counts (Int.mul_pos (by decide) positive) le)

/-- The column or row of a cell. -/
def along (cell : Cell) : Axis → Int
  | .x => cell.1
  | .y => cell.2

theorem mem_covering {box : Box} {cell : Cell} : cell ∈ covering box ↔ ∀ axis,
    coordinate (box.min.along axis) ≤ cell.along axis ∧
      cell.along axis ≤ coordinate (box.max.along axis) := by
  obtain ⟨column, row⟩ := cell
  simp only [covering, ofPoint, List.mem_flatMap, List.mem_map, mem_span, Prod.mk.injEq]
  constructor
  · rintro ⟨_, rows, _, columns, rfl, rfl⟩ axis
    cases axis
    · exact columns
    · exact rows
  · intro between
    exact ⟨row, between .y, column, between .x, rfl, rfl⟩

end Cell

/-! ### Boxes that overlap -/

/-- Ends that are told apart by more than the tolerance are in order. -/
theorem Binary64.le_of_lt_sub_tolerance {x y : Binary64} (less : x < y - positionTolerance) :
    x ≤ y := by
  have positive : positionTolerance.quanta?.any (0 ≤ ·) = true := by decide +kernel
  obtain ⟨n, counts, sign⟩ := (Option.any_eq_true ..).mp positive
  exact le_of_lt_sub counts (of_decide_eq_true sign) less

/-- Two ends that are apart in order, seen from two places, if each is before the other from across.
-/
theorem Binary64.le_of_crossed {low high s t : Binary64} (across : low + s ≤ high + t)
    (back : low + t ≤ high + s) : low + s ≤ high + s ∧ low + t ≤ high + t := by
  obtain ⟨i, l, lowS, highT, first⟩ := le_iff.mp across
  obtain ⟨k, j, lowT, highS, second⟩ := le_iff.mp back
  have numbers {x : Binary64} {n : Int} (rank : x.rank? = some n) := isNaN_of_rank? rank
  rcases le_total_of_isNaN (isNaN_of_add (numbers lowS)) (isNaN_of_add (numbers highS))
    with ordered | ordered
  · exact ⟨add_le_add_right ordered (numbers lowS) (numbers highS),
      add_le_add_right ordered (numbers lowT) (numbers highT)⟩
  · -- The other way round, all four ends are at the same place.
    have third := (le_iff_of_rank? highS lowS).mp
      (add_le_add_right ordered (numbers highS) (numbers lowS))
    have fourth := (le_iff_of_rank? highT lowT).mp
      (add_le_add_right ordered (numbers highT) (numbers lowT))
    exact ⟨(le_iff_of_rank? lowS highS).mpr (by omega), (le_iff_of_rank? lowT highT).mpr (by omega)⟩

namespace Box

variable {a b shape : Box} {p q : Point} {axis : Axis}

theorem le_of_overlaps (overlaps : a.overlaps b = true) (axis : Axis) :
    a.min.along axis ≤ b.max.along axis ∧ b.min.along axis ≤ a.max.along axis := by
  simp only [Box.overlaps, Bool.and_eq_true, decide_eq_true_eq] at overlaps
  obtain ⟨⟨⟨left, right⟩, top⟩, bottom⟩ := overlaps
  cases axis
  · exact ⟨le_of_lt_sub_tolerance left, le_of_lt_sub_tolerance right⟩
  · exact ⟨le_of_lt_sub_tolerance top, le_of_lt_sub_tolerance bottom⟩

/-- No side of the box is beyond the one across. -/
def Ordered (box : Box) : Prop := ∀ axis, box.min.along axis ≤ box.max.along axis

/-- Boxes that overlap reach into one cell. -/
theorem exists_cell_of_overlaps (first : a.Ordered) (second : b.Ordered)
    (overlaps : a.overlaps b = true) : ∃ cell ∈ Cell.covering b, cell ∈ Cell.covering a := by
  have low (axis : Axis) := Cell.coordinate_mono (first axis)
  have high (axis : Axis) := Cell.coordinate_mono (second axis)
  have across (axis : Axis) := Cell.coordinate_mono (le_of_overlaps overlaps axis).1
  have back (axis : Axis) := Cell.coordinate_mono (le_of_overlaps overlaps axis).2
  let later (axis : Axis) : Int :=
    Max.max (Cell.coordinate (a.min.along axis)) (Cell.coordinate (b.min.along axis))
  have along (axis : Axis) : Cell.along (later .x, later .y) axis = later axis := by
    cases axis <;> rfl
  refine ⟨(later .x, later .y), Cell.mem_covering.mpr fun axis => ?_,
    Cell.mem_covering.mpr fun axis => ?_⟩
  · rw [along]
    exact ⟨le_max_right _ _, max_le (across axis) (high axis)⟩
  · rw [along]
    exact ⟨le_max_left _ _, max_le (low axis) (back axis)⟩

theorem along_translate (shape : Box) (p : Point) (axis : Axis) :
    (shape.translate p).min.along axis = shape.min.along axis + p.along axis ∧
      (shape.translate p).max.along axis = shape.max.along axis + p.along axis := by
  cases axis <;> exact ⟨rfl, rfl⟩

/-- A shape that overlaps itself from another place has its sides in order. -/
theorem sides_of_overlaps (overlaps : (shape.translate p).overlaps (shape.translate q) = true) :
    (shape.translate p).Ordered ∧ (shape.translate q).Ordered := by
  refine forall_and.mp fun axis => ?_
  obtain ⟨across, back⟩ := le_of_overlaps overlaps axis
  obtain ⟨lowP, highP⟩ := along_translate shape p axis
  obtain ⟨lowQ, highQ⟩ := along_translate shape q axis
  rw [lowP, highQ] at across
  rw [lowQ, highP] at back
  rw [lowP, highP, lowQ, highQ]
  exact le_of_crossed across back

end Box

namespace SpatialIndex.Filed

/-- A query for a box finds every box of the same shape that overlaps it. -/
theorem mem_query_of_overlaps {index : SpatialIndex} (filed : index.Filed) {key : Key} {shape : Box}
    {p q : Point} (here : index.box? key = some (shape.translate p))
    (overlaps : (shape.translate p).overlaps (shape.translate q) = true) :
    key ∈ index.query (shape.translate q) := by
  obtain ⟨first, second⟩ := Box.sides_of_overlaps overlaps
  exact filed.mem_query_iff.mpr
    ⟨_, here, overlaps, Box.exists_cell_of_overlaps first second overlaps⟩

/-- A query finds what overlaps its area, where no box has a side beyond the one across. -/
theorem mem_query_iff_overlaps {index : SpatialIndex} (filed : index.Filed) {key : Key}
    {box area : Box} (here : index.box? key = some box) (ordered : box.Ordered)
    (inOrder : area.Ordered) : key ∈ index.query area ↔ box.overlaps area = true := by
  rw [filed.mem_query_iff]
  constructor
  · rintro ⟨found, boxed, overlaps, -⟩
    obtain rfl := Option.some.inj (boxed.symm.trans here)
    exact overlaps
  · intro overlaps
    exact ⟨box, here, overlaps, Box.exists_cell_of_overlaps ordered inOrder overlaps⟩

end SpatialIndex.Filed
end FactoryBlueprint
