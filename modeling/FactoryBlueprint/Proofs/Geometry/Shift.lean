import FactoryBlueprint.Proofs.Blueprint.Fits
import FactoryBlueprint.Proofs.Geometry.Box

/-! # Boxes told from another origin

A box is moved if each of its sides is told from another origin, exactly (`Box.Moved`). Tight boxes
around boxes that are moved are moved themselves, the square of a tile is moved with the tile, and
the box of an entity is moved with its position where sums are exact.
-/

namespace FactoryBlueprint

open Binary64

/-- The second number is the first one less a count of whole tiles, exactly. -/
def Binary64.ExactSub (x : Binary64) (tiles : Int) (y : Binary64) : Prop :=
  ∃ i, x.quanta? = some i ∧ y.quanta? = some (i - tiles * unitQuanta)

theorem Binary64.exactSub_iff {x y : Binary64} {tiles : Int} : ExactSub x tiles y ↔
    x.quanta?.isSome ∧ y.quanta? = x.quanta?.map (· - tiles * unitQuanta) := by
  constructor
  · rintro ⟨i, counts, less⟩
    rw [counts]
    exact ⟨rfl, less⟩
  · rintro ⟨finite, less⟩
    obtain ⟨i, counts⟩ := Option.isSome_iff_exists.mp finite
    rw [counts] at less
    exact ⟨i, counts, less⟩

instance (x : Binary64) (tiles : Int) (y : Binary64) : Decidable (ExactSub x tiles y) :=
  decidable_of_iff _ exactSub_iff.symm

namespace Box

/-- The second box is the first one told from another origin, exactly. -/
structure Moved (origin : GridPosition) (box moved : Box) : Prop where
  low : ∀ axis, ExactSub (box.min.along axis) (origin.along axis) (moved.min.along axis)
  high : ∀ axis, ExactSub (box.max.along axis) (origin.along axis) (moved.max.along axis)

theorem Moved.exists_at {origin : GridPosition} {box moved : Box} (shift : Moved origin box moved) :
    ∃ lows highs, box.At lows highs ∧ moved.At (fun axis => lows axis - origin.along axis * unitQuanta)
      fun axis => highs axis - origin.along axis * unitQuanta := by
  choose lows low movedLow using shift.low
  choose highs high movedHigh using shift.high
  exact ⟨lows, highs, ⟨low, high⟩, movedLow, movedHigh⟩

/-- The extreme side of boxes that are moved is moved as well. -/
theorem Extreme.moved {before : Int → Int → Prop} {side : Box → Binary64} {boxes others : List Box}
    {area other : Box} {tiles : Int} (first : Extreme before side boxes area)
    (second : Extreme before side others other)
    (shift : List.Forall₂ (fun box moved => ExactSub (side box) tiles (side moved)) boxes others)
    (antisymm : ∀ i j n, before i j → before (j - n) (i - n) → i = j) :
    ExactSub (side area) tiles (side other) := by
  obtain ⟨i, here, ⟨attained, mem, same⟩, beyond⟩ := first
  obtain ⟨j, there, ⟨attained', mem', same'⟩, beyond'⟩ := second
  obtain ⟨image, inOthers, k, isK, down⟩ := exists_of_mem_left shift mem
  obtain ⟨source, inBoxes, l, isL, down'⟩ := exists_of_mem_right shift mem'
  obtain ⟨m, isM, le⟩ := beyond source inBoxes
  obtain ⟨n, isN, le'⟩ := beyond' image inOthers
  obtain rfl := Option.some.inj (same.symm.trans isK)
  obtain rfl := Option.some.inj (same'.symm.trans down')
  obtain rfl := Option.some.inj (isL.symm.trans isM)
  obtain rfl := Option.some.inj (down.symm.trans isN)
  obtain rfl := antisymm i l _ le le'
  exact ⟨i, here, there⟩

/-- Tight boxes around boxes that are moved are moved themselves. -/
theorem Tight.moved {origin : GridPosition} {boxes others : List Box} {area other : Box}
    (first : Tight boxes area) (second : Tight others other)
    (shift : List.Forall₂ (Moved origin) boxes others) : Moved origin area other where
  low axis := (first.low axis).moved (second.low axis) (shift.imp fun _ _ moved => moved.low axis)
    fun i j n first second => by omega
  high axis :=
    (first.high axis).moved (second.high axis) (shift.imp fun _ _ moved => moved.high axis)
      fun i j n first second => by omega

/-! ### Boxes at a place -/

end Box

theorem Point.along_x (point : Point) : point.along .x = point.x := rfl

theorem Point.along_y (point : Point) : point.along .y = point.y := rfl

theorem Point.add_along (p q : Point) (axis : Axis) :
    (p + q).along axis = p.along axis + q.along axis := by
  cases axis <;> rfl

theorem Point.add_comm (p q : Point) : p + q = q + p := by
  change (⟨p.x + q.x, p.y + q.y⟩ : Point) = ⟨q.x + p.x, q.y + p.y⟩
  rw [Binary64.add_comm p.x, Binary64.add_comm p.y]

theorem Point.quanta?_add_zero {point : Point} {axis : Axis} {i : Int}
    (counts : (point.along axis).quanta? = some i) :
    ((point + .zero).along axis).quanta? = some i := by
  rw [Point.add_along, Binary64.add_comm]
  cases axis <;> exact quanta?_zero_add counts

/-- Numbers that count as many quanta have the same sums. -/
theorem Binary64.quanta?_add_congr {x y z : Binary64} {i j : Int} (first : x.quanta? = some i)
    (second : y.quanta? = some j) (third : z.quanta? = some j) :
    (x + y).quanta? = (x + z).quanta? :=
  (quanta?_add_eq first second).trans (quanta?_add_eq first third).symm

/-- The numbers and their sum are finite, and the sum is not rounded. -/
def Binary64.ExactSum (x y : Binary64) : Prop :=
  ∃ i j, x.quanta? = some i ∧ y.quanta? = some j ∧ (x + y).quanta? = some (i + j)

theorem Binary64.exactSum_iff {x y : Binary64} : ExactSum x y ↔ x.quanta?.isSome ∧
    y.quanta?.isSome ∧ (x + y).quanta? = x.quanta?.bind fun i => y.quanta?.map (i + ·) := by
  unfold ExactSum
  cases x.quanta? <;> cases y.quanta? <;> simp

instance (x y : Binary64) : Decidable (ExactSum x y) := decidable_of_iff _ exactSum_iff.symm

namespace Box

/-- The coordinates of a box that stands at `world` and is told from `origin` are finite and, as far
as the origin plays a part in them, exact. -/
structure ExactAt (box : Box) (world : Point) (origin : GridPosition) : Prop where
  told : ∀ axis, ExactSub (world.along axis) (origin.along axis)
    ((world - origin.toPoint).along axis)
  finite : ∃ lows highs, (box.translate world).At lows highs
  sums : origin ≠ .zero → ∀ axis, ∀ corner ∈ [box.min, box.max],
    ExactSum (corner.along axis) (world.along axis) ∧
      ExactSum (corner.along axis) ((world - origin.toPoint).along axis)

/-- A corner is told from the origin together with the place of the box. -/
theorem ExactAt.corner {box : Box} {world : Point} {origin : GridPosition}
    (exact : box.ExactAt world origin) {axis : Axis} {corner : Point}
    (isCorner : corner ∈ [box.min, box.max]) {i : Int}
    (finite : ((corner + world).along axis).quanta? = some i) {place : Point}
    (same : (place.along axis).quanta? = ((world - origin.toPoint).along axis).quanta?) :
    ExactSub ((corner + world).along axis) (origin.along axis)
      ((corner + (place + .zero)).along axis) := by
  obtain ⟨w, here, there⟩ := exact.told axis
  have placed := Point.quanta?_add_zero (same.trans there)
  rw [Point.add_along] at finite ⊢
  rw [Point.add_along]
  by_cases isZero : origin = .zero
  · have none : origin.along axis = 0 := by
      rw [isZero]
      cases axis <;> rfl
    obtain ⟨⟨c, counts⟩, -⟩ := exists_quanta?_of_add finite
    rw [none, Int.zero_mul, Int.sub_zero] at placed
    refine ⟨i, finite, ?_⟩
    rw [none, Int.zero_mul, Int.sub_zero, quanta?_add_congr counts placed here]
    exact finite
  · obtain ⟨⟨c, v, counts, same, sum⟩, d, u, counts', told, moved⟩ :=
      exact.sums isZero axis corner isCorner
    obtain rfl := Option.some.inj (counts.symm.trans counts')
    obtain rfl := Option.some.inj (here.symm.trans same)
    obtain rfl := Option.some.inj (there.symm.trans told)
    refine ⟨c + w, sum, ?_⟩
    rw [quanta?_add_congr counts placed there, moved, Int.add_sub_assoc]

/-- A box is moved with its place. -/
theorem ExactAt.moved {box : Box} {world : Point} {origin : GridPosition}
    (exact : box.ExactAt world origin) {place : Point} (same : ∀ axis,
      (place.along axis).quanta? = ((world - origin.toPoint).along axis).quanta?) :
    Moved origin (box.translate world) (box.translate (place + .zero)) := by
  obtain ⟨lows, highs, finite⟩ := exact.finite
  exact ⟨fun axis => exact.corner List.mem_cons_self (finite.low axis) (same axis),
    fun axis => exact.corner (List.mem_cons_of_mem _ List.mem_cons_self) (finite.high axis)
      (same axis)⟩

end Box

/-! ### Squares of tiles -/

/-- The tile with its position told from `origin`. -/
def Tile.relativeTo (tile : Tile) (origin : GridPosition) : Tile :=
  { tile with position := tile.position - origin }

theorem Binary64.quanta?_ofInt_add_one {n : Int} (fits : Fits32 n) :
    (ofInt n).quanta? = some (n * unitQuanta) ∧
      (ofInt n + 1).quanta? = some ((n + 1) * unitQuanta) := by
  have bound : (n + 1).natAbs < 2 ^ significantBits := by
    have := fits.1
    have := fits.2
    simp only [significantBits]
    omega
  have here := @quanta?_ofInt n (by
    have := fits.1
    have := fits.2
    simp only [significantBits]
    omega)
  have next : (n * unitQuanta + 1 * unitQuanta : Int) = (n + 1) * unitQuanta := by
    rw [Int.add_mul]
  have sum := quanta?_add here (@quanta?_ofInt 1 (by decide)) (by
    rw [next, Int.natAbs_mul, Int.natAbs_natCast]
    exact representable_unit bound)
  rw [next] at sum
  exact ⟨here, sum⟩

theorem GridPosition.SubFits.along {p q : GridPosition} (fits : p.SubFits q) (axis : Axis) :
    (p - q).along axis = p.along axis - q.along axis := by
  rw [fits.sub_eq]
  cases axis <;> rfl

theorem GridPosition.Fits.along {position : GridPosition} (fits : position.Fits) (axis : Axis) :
    Fits32 (position.along axis) := by
  cases axis with
  | x => exact fits.x
  | y => exact fits.y

theorem GridPosition.toPoint_along (position : GridPosition) (axis : Axis) :
    position.toPoint.along axis = .ofInt (position.along axis) := by
  cases axis with
  | x => rw [Point.along_x, toPoint, GridPosition.along]
  | y => rw [Point.along_y, toPoint, GridPosition.along]

theorem Tile.min_box (tile : Tile) (axis : Axis) :
    tile.box.min.along axis = .ofInt (tile.position.along axis) :=
  tile.position.toPoint_along axis

theorem Tile.max_box (tile : Tile) (axis : Axis) :
    tile.box.max.along axis = .ofInt (tile.position.along axis) + 1 := by
  rw [← GridPosition.toPoint_along]
  cases axis with
  | x => rw [Point.along_x, Point.along_x, box]
  | y => rw [Point.along_y, Point.along_y, box]

/-- The square of a tile is moved with the tile. -/
theorem Tile.moved {tile : Tile} {origin : GridPosition} (here : tile.position.Fits)
    (within : tile.position.SubFits origin) :
    Box.Moved origin tile.box (tile.relativeTo origin).box where
  low axis := by
    obtain ⟨low, -⟩ := quanta?_ofInt_add_one (here.along axis)
    obtain ⟨told, -⟩ := quanta?_ofInt_add_one ((GridPosition.fits_sub _ _).along axis)
    rw [min_box, min_box]
    refine ⟨_, low, told.trans ?_⟩
    rw [within.along, Int.sub_mul]
  high axis := by
    obtain ⟨-, high⟩ := quanta?_ofInt_add_one (here.along axis)
    obtain ⟨-, told⟩ := quanta?_ofInt_add_one ((GridPosition.fits_sub _ _).along axis)
    have next : tile.position.along axis - origin.along axis + 1 =
        tile.position.along axis + 1 - origin.along axis := by omega
    rw [max_box, max_box]
    refine ⟨_, high, told.trans ?_⟩
    rw [within.along, next, Int.sub_mul]

end FactoryBlueprint
