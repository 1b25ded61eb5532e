import FactoryBlueprint.Error
import FactoryBlueprint.Proofs.Number.Order
import FactoryBlueprint.Proofs.Outcome
import Mathlib.Tactic.Choose
import Mathlib.Tactic.Tauto

/-! # Boxes around boxes

A box is around another if it starts no later and ends no earlier on both axes. A union is around
its parts (`around_union_left`, `around_union_right`) and no greater than it must be (`Tight`).
-/

namespace FactoryBlueprint

open Binary64

inductive Axis where
  | x
  | y

def Point.along (point : Point) : Axis → Binary64
  | .x => point.x
  | .y => point.y

def GridPosition.along (position : GridPosition) : Axis → Int
  | .x => position.x
  | .y => position.y

namespace Box

theorem min_union (a b : Box) (axis : Axis) :
    (a.union b).min.along axis = Min.min (a.min.along axis) (b.min.along axis) := by
  cases axis <;> rfl

theorem max_union (a b : Box) (axis : Axis) :
    (a.union b).max.along axis = Max.max (a.max.along axis) (b.max.along axis) := by
  cases axis <;> rfl

/-- The tiles across the box along an axis. -/
def tilesAlong (box : Box) (axis : Axis) : Nat :=
  tilesAcross (box.max.along axis - box.min.along axis)

/-! ### Around -/

/-- The box is around the other, as far as sides are numbers. -/
structure Around (area box : Box) : Prop where
  low : ∀ axis, Low (area.min.along axis) (box.min.along axis)
  high : ∀ axis, High (area.max.along axis) (box.max.along axis)

theorem Around.refl (box : Box) : box.Around box := ⟨fun _ => .refl _, fun _ => .refl _⟩

theorem Around.trans {area between box : Box} (first : area.Around between)
    (second : between.Around box) : area.Around box :=
  ⟨fun axis => (first.low axis).trans (second.low axis),
    fun axis => (first.high axis).trans (second.high axis)⟩

theorem around_union_left (a b : Box) : (a.union b).Around a where
  low axis := by
    rw [min_union]
    exact low_min_left _ _
  high axis := by
    rw [max_union]
    exact high_max_left _ _

theorem around_union_right (a b : Box) : (a.union b).Around b where
  low axis := by
    rw [min_union]
    exact low_min_right _ _
  high axis := by
    rw [max_union]
    exact high_max_right _ _

/-! ### Finite boxes -/

/-- The sides of the box are at the given counts of quanta. -/
structure At (box : Box) (lows highs : Axis → Int) : Prop where
  low : ∀ axis, (box.min.along axis).quanta? = some (lows axis)
  high : ∀ axis, (box.max.along axis).quanta? = some (highs axis)

/-- The sides are at counts of quanta if all are finite. -/
theorem exists_at_iff {box : Box} : (∃ lows highs, box.At lows highs) ↔ ∀ axis,
    (box.min.along axis).quanta?.isSome ∧ (box.max.along axis).quanta?.isSome := by
  constructor
  · rintro ⟨lows, highs, here⟩ axis
    exact ⟨Option.isSome_of_eq_some (here.low axis), Option.isSome_of_eq_some (here.high axis)⟩
  · intro finite
    choose lows low using fun axis => Option.isSome_iff_exists.mp (finite axis).1
    choose highs high using fun axis => Option.isSome_iff_exists.mp (finite axis).2
    exact ⟨lows, highs, low, high⟩

/-- The box has finite sides, all between the given counts of quanta. -/
structure Within (box : Box) (least greatest : Axis → Int) : Prop where
  low : ∀ axis, ∃ i, (box.min.along axis).quanta? = some i ∧ least axis ≤ i
  high : ∀ axis, ∃ j, (box.max.along axis).quanta? = some j ∧ j ≤ greatest axis

theorem Within.union {a b : Box} {least greatest : Axis → Int} (first : a.Within least greatest)
    (second : b.Within least greatest) : (a.union b).Within least greatest where
  low axis := by
    obtain ⟨i, firstLow, above⟩ := first.low axis
    obtain ⟨j, secondLow, also⟩ := second.low axis
    rw [min_union]
    exact ⟨Min.min i j, quanta?_min firstLow secondLow, by omega⟩
  high axis := by
    obtain ⟨i, firstHigh, below⟩ := first.high axis
    obtain ⟨j, secondHigh, also⟩ := second.high axis
    rw [max_union]
    exact ⟨Max.max i j, quanta?_max firstHigh secondHigh, by omega⟩

/-- A box within spans no more tiles than what it is within. -/
theorem Within.tilesAlong_le {box area : Box} {least greatest lows highs : Axis → Int}
    (within : box.Within least greatest) (whole : area.At lows highs)
    (spans : ∀ axis, greatest axis - least axis ≤ highs axis - lows axis) (axis : Axis) :
    box.tilesAlong axis ≤ area.tilesAlong axis := by
  obtain ⟨i, low, above⟩ := within.low axis
  obtain ⟨j, high, below⟩ := within.high axis
  have span := spans axis
  exact tilesAcross_sub_le (whole.low axis) (whole.high axis) low high (by omega)

/-- What is around finite boxes and spans a bounded count of tiles is finite. -/
theorem Around.exists_at {area box : Box} {lows highs : Axis → Int} (around : area.Around box)
    (finite : box.At lows highs) (bounded : ∀ axis, area.tilesAlong axis < maxTiles) :
    ∃ least greatest, area.At least greatest ∧
      ∀ axis, least axis ≤ lows axis ∧ highs axis ≤ greatest axis := by
  have each : ∀ axis, ∃ a b, (area.min.along axis).quanta? = some a ∧
      (area.max.along axis).quanta? = some b ∧ a ≤ lows axis ∧ highs axis ≤ b := by
    intro axis
    obtain ⟨⟨a, low, above⟩, b, high, below⟩ := exists_quanta?_of_tilesAcross (around.low axis)
      (around.high axis) (finite.low axis) (finite.high axis) (bounded axis)
    exact ⟨a, b, low, high, above, below⟩
  choose least greatest low high above below using each
  exact ⟨least, greatest, ⟨low, high⟩, fun axis => ⟨above axis, below axis⟩⟩

/-- Around a box that it is finite, a finite box has its sides beyond. -/
theorem Around.le {area box : Box} {least greatest lows highs : Axis → Int}
    (around : area.Around box) (whole : area.At least greatest) (finite : box.At lows highs)
    (axis : Axis) : least axis ≤ lows axis ∧ highs axis ≤ greatest axis := by
  obtain ⟨i, low, above⟩ := around.low axis _ (rank?_of_quanta? (finite.low axis))
  obtain ⟨j, high, below⟩ := around.high axis _ (rank?_of_quanta? (finite.high axis))
  obtain rfl := Option.some.inj (low.symm.trans (rank?_of_quanta? (whole.low axis)))
  obtain rfl := Option.some.inj (high.symm.trans (rank?_of_quanta? (whole.high axis)))
  exact ⟨above, below⟩

/-! ### Tight boxes -/

/-- A side is the extreme one of those of the boxes, which are all finite. -/
def Extreme (before : Int → Int → Prop) (side : Box → Binary64) (boxes : List Box) (area : Box) :
    Prop :=
  ∃ i, (side area).quanta? = some i ∧ (∃ box ∈ boxes, (side box).quanta? = some i) ∧
    ∀ box ∈ boxes, ∃ j, (side box).quanta? = some j ∧ before i j

/-- The box is around all boxes, which are finite, and each of its sides is a side of one. -/
structure Tight (boxes : List Box) (area : Box) : Prop where
  low : ∀ axis, Extreme (· ≤ ·) (·.min.along axis) boxes area
  high : ∀ axis, Extreme (· ≥ ·) (·.max.along axis) boxes area

theorem tight_single {box : Box} {lows highs : Axis → Int} (finite : box.At lows highs) :
    Tight [box] box where
  low axis := ⟨lows axis, finite.low axis, ⟨box, List.mem_singleton_self box, finite.low axis⟩,
    fun _ mem => ⟨lows axis, List.mem_singleton.mp mem ▸ finite.low axis, Int.le_refl _⟩⟩
  high axis := ⟨highs axis, finite.high axis, ⟨box, List.mem_singleton_self box, finite.high axis⟩,
    fun _ mem => ⟨highs axis, List.mem_singleton.mp mem ▸ finite.high axis, Int.le_refl _⟩⟩

/-- One more box makes the union with it tight. -/
theorem Tight.union {boxes : List Box} {area box : Box} {lows highs : Axis → Int}
    (tight : Tight boxes area) (finite : box.At lows highs) :
    Tight (box :: boxes) (area.union box) where
  low axis := by
    obtain ⟨i, low, ⟨attained, mem, same⟩, least⟩ := tight.low axis
    have here := finite.low axis
    refine ⟨Min.min i (lows axis), ?_, ?_,
      List.forall_mem_cons.mpr ⟨⟨_, here, Int.min_le_right _ _⟩, ?_⟩⟩
    · exact (congrArg quanta? (min_union area box axis)).trans (quanta?_min low here)
    · rcases Int.le_total i (lows axis) with le | ge
      · exact ⟨attained, List.mem_cons_of_mem _ mem, by rw [Int.min_eq_left le, same]⟩
      · exact ⟨box, List.mem_cons_self, by rw [Int.min_eq_right ge, here]⟩
    · intro other inBoxes
      obtain ⟨j, there, le⟩ := least other inBoxes
      exact ⟨j, there, Int.le_trans (Int.min_le_left _ _) le⟩
  high axis := by
    obtain ⟨i, high, ⟨attained, mem, same⟩, greatest⟩ := tight.high axis
    have here := finite.high axis
    refine ⟨Max.max i (highs axis), ?_, ?_,
      List.forall_mem_cons.mpr ⟨⟨_, here, Int.le_max_right _ _⟩, ?_⟩⟩
    · exact (congrArg quanta? (max_union area box axis)).trans (quanta?_max high here)
    · rcases Int.le_total i (highs axis) with le | ge
      · exact ⟨box, List.mem_cons_self, by rw [Int.max_eq_right le, here]⟩
      · exact ⟨attained, List.mem_cons_of_mem _ mem, by rw [Int.max_eq_left ge, same]⟩
    · intro other inBoxes
      obtain ⟨j, there, le⟩ := greatest other inBoxes
      exact ⟨j, there, Int.le_trans le (Int.le_max_left _ _)⟩

/-- Only which boxes there are counts. -/
theorem Extreme.congr {before : Int → Int → Prop} {side : Box → Binary64} {boxes others : List Box}
    {area : Box} (extreme : Extreme before side boxes area)
    (same : ∀ box, box ∈ others ↔ box ∈ boxes) : Extreme before side others area := by
  obtain ⟨i, here, ⟨attained, mem, there⟩, beyond⟩ := extreme
  exact ⟨i, here, ⟨attained, (same attained).mpr mem, there⟩,
    fun box inOthers => beyond box ((same box).mp inOthers)⟩

theorem Tight.congr {boxes others : List Box} {area : Box} (tight : Tight boxes area)
    (same : ∀ box, box ∈ others ↔ box ∈ boxes) : Tight others area where
  low axis := (tight.low axis).congr same
  high axis := (tight.high axis).congr same

/-- The union of finite boxes is tight. -/
theorem tight_union? {boxes : List Box} (finite : ∀ box ∈ boxes, ∃ lows highs, box.At lows highs) :
    (boxes = [] ∧ union? boxes = none) ∨ ∃ area, union? boxes = some area ∧ Tight boxes area := by
  cases boxes with
  | nil => exact .inl ⟨rfl, rfl⟩
  | cons first rest =>
    obtain ⟨⟨lows, highs, here⟩, later⟩ := List.forall_mem_cons.mp finite
    refine .inr ⟨_, rfl, ?_⟩
    -- The boxes before come in any order, so that the next one can be put in front of them.
    have general : ∀ (others boxes : List Box) (area : Box), Tight others area →
        (∀ box ∈ boxes, ∃ lows highs, box.At lows highs) →
        Tight (others ++ boxes) (boxes.foldl union area) := by
      intro others boxes
      induction boxes generalizing others with
      | nil => exact fun area tight _ => by rwa [List.append_nil]
      | cons box boxes ih =>
        intro area tight finite
        obtain ⟨⟨lows, highs, here⟩, later⟩ := List.forall_mem_cons.mp finite
        refine (ih (box :: others) _ (tight.union here) later).congr fun other => ?_
        simp only [List.mem_append, List.mem_cons]
        exact ⟨fun either => by tauto, fun either => by tauto⟩
    exact general [first] rest first (tight_single here) later

end Box

end FactoryBlueprint
