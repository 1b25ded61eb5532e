import FactoryBlueprint.Proofs.Blueprint.Limit

/-! # Boxes in any order

An extent that is extended box by box gets as far as the boxes together are within the limit. The
order does not matter (`extendAll_in_any_order`): either every step succeeds and the extent is the
one of all boxes at once, or some step fails and no sequence with these boxes can do without.
-/

namespace FactoryBlueprint
namespace Extent

variable {extent : Extent} {box : Box} {boxes others longer : List Box}

/-- Grows an extent to cover one box after the other, whatever becomes of the steps. -/
def extendAll (extent : Extent) : List Box → Extent × List (Except Oversize Unit)
  | [] => (extent, [])
  | box :: boxes =>
    let rest := (extent.extend box).1.extendAll boxes
    (rest.1, (extent.extend box).2 :: rest.2)

/-- Every step succeeds. -/
def ExtendsThroughout (extent : Extent) (boxes : List Box) : Prop :=
  ∀ outcome ∈ (extent.extendAll boxes).2, outcome = .ok ()

/-! ### One step -/

theorem extend_of_within (within : (extent.cover box).oversize? = none) :
    extent.extend box = (extent.cover box, .ok ()) := by
  rw [extend, within]

theorem extend_cases (extent : Extent) (box : Box) :
    ((extent.cover box).oversize? = none ∧ extent.extend box = (extent.cover box, .ok ())) ∨
      ∃ size, (extent.cover box).oversize? = some size ∧
        extent.extend box = (extent, .error size) := by
  rw [extend]
  cases (extent.cover box).oversize? with
  | none => exact .inl ⟨rfl, rfl⟩
  | some size => exact .inr ⟨size, rfl, rfl⟩

/-- A step that fails leaves the extent as it was. -/
theorem extend_eq_self (fails : (extent.extend box).2 ≠ .ok ()) :
    (extent.extend box).1 = extent := by
  rcases extend_cases extent box with ⟨-, step⟩ | ⟨size, -, step⟩
  · exact absurd (congrArg Prod.snd step) fails
  · rw [step]

/-! ### All steps -/

theorem extendAll_concat (extent : Extent) (boxes : List Box) (box : Box) :
    extent.extendAll (boxes ++ [box]) =
      (((extent.extendAll boxes).1.extend box).1,
        (extent.extendAll boxes).2 ++ [((extent.extendAll boxes).1.extend box).2]) := by
  induction boxes generalizing extent with
  | nil => rfl
  | cons first rest ih => rw [List.cons_append, extendAll, ih]; rfl

theorem extendsThroughout_cons_iff : extent.ExtendsThroughout (box :: boxes) ↔
    (extent.cover box).oversize? = none ∧ (extent.cover box).ExtendsThroughout boxes := by
  rw [ExtendsThroughout, extendAll, List.forall_mem_cons]
  rcases extend_cases extent box with ⟨within, step⟩ | ⟨size, beyond, step⟩
  · rw [step]
    exact ⟨fun each => ⟨within, each.2⟩, fun each => ⟨rfl, each.2⟩⟩
  · rw [step, beyond]
    constructor
    · rintro ⟨fails, -⟩
      contradiction
    · rintro ⟨within, -⟩
      contradiction

/-- Every step succeeds if the extent at the end is within the limit: those on the way cover less. -/
theorem extendsThroughout_iff (within : extent.oversize? = none) :
    extent.ExtendsThroughout boxes ↔ (extent.coverAll boxes).oversize? = none := by
  induction boxes generalizing extent with
  | nil => exact ⟨fun _ => within, fun _ _ mem => absurd mem List.not_mem_nil⟩
  | cons box boxes ih =>
    rw [extendsThroughout_cons_iff]
    constructor
    · rintro ⟨first, rest⟩
      exact (ih first).mp rest
    · intro last
      have first : (extent.cover box).oversize? = none := oversize?_of_coverAll last
      exact ⟨first, (ih first).mpr last⟩

theorem ExtendsThroughout.eq_coverAll (throughout : extent.ExtendsThroughout boxes) :
    (extent.extendAll boxes).1 = extent.coverAll boxes := by
  induction boxes generalizing extent with
  | nil => rfl
  | cons box boxes ih =>
    obtain ⟨within, rest⟩ := extendsThroughout_cons_iff.mp throughout
    rw [extendAll, extend_of_within within]
    exact ih rest

/-- From nothing, every step succeeds if the extent of all boxes at once passes the check. -/
theorem extendsThroughout_empty_iff :
    empty.ExtendsThroughout boxes ↔ (ofBoxes boxes).check = .ok () := by
  rw [extendsThroughout_iff rfl, check_eq_ok_iff, ofBoxes_eq_coverAll]

/-- Fewer boxes, in whatever order, are within the limit if more are. -/
theorem check_ofBoxes_of_subset (subset : ∀ box ∈ boxes, box ∈ longer)
    (passes : (ofBoxes longer).check = .ok ()) : (ofBoxes boxes).check = .ok () :=
  check_eq_ok_iff.mpr <| oversize?_ofBoxes (check_eq_ok_iff.mp passes) fun box mem =>
    covers_ofBoxes (subset box mem)

/-- Extending box by box, in any order, succeeds throughout if the extent of all boxes at once passes
the check, and that is the extent at the end. A step that fails leaves the extent as it is, and once
a step fails for some boxes, one fails in every sequence that has them. -/
theorem extendAll_in_any_order (reordered : others.Perm boxes) :
    (empty.ExtendsThroughout others ↔ (ofBoxes boxes).check = .ok ()) ∧
      (empty.ExtendsThroughout others →
        (empty.extendAll others).1.area = (ofBoxes boxes).area ∧
        (empty.extendAll others).1.tileWidth = (ofBoxes boxes).tileWidth ∧
        (empty.extendAll others).1.tileHeight = (ofBoxes boxes).tileHeight) ∧
      (∀ before box, (empty.extendAll (before ++ [box])).2.getLast? ≠ some (.ok ()) →
        (empty.extendAll (before ++ [box])).1 = (empty.extendAll before).1) ∧
      (¬ empty.ExtendsThroughout others → ∀ longer, (∀ box ∈ boxes, box ∈ longer) →
        ¬ empty.ExtendsThroughout longer) := by
  have same : ofBoxes others = ofBoxes boxes := ofBoxes_congr fun _ => reordered.mem_iff
  refine ⟨?_, fun throughout => ?_, fun before box fails => ?_, fun fails longer subset all => ?_⟩
  · rw [extendsThroughout_empty_iff, same]
  · rw [throughout.eq_coverAll, ← ofBoxes_eq_coverAll, same]
    exact ⟨rfl, rfl, rfl⟩
  · rw [extendAll_concat, List.getLast?_concat] at fails
    rw [extendAll_concat]
    exact extend_eq_self fun succeeds => fails (congrArg some succeeds)
  · refine fails (extendsThroughout_empty_iff.mpr ?_)
    rw [same]
    exact check_ofBoxes_of_subset subset (extendsThroughout_empty_iff.mp all)

/-- The tile at `x` on the axis. -/
def axisTile (x : Int) : Box := .ofBounds (.ofInt x) 0 (.ofInt (x + 1)) 1

/-- The first tile and the one that is just within the limit fit in either order. With one more tile,
whichever comes last fails, and so does some step wherever else a tile is put. -/
theorem extendAll_in_any_order_axisTiles :
    empty.ExtendsThroughout [axisTile 9999, axisTile 0] ∧
      (empty.extendAll [axisTile 9999, axisTile 0]).1.tileWidth = 10000 ∧
      ¬ empty.ExtendsThroughout [axisTile 10000, axisTile 5, axisTile 0] := by
  obtain ⟨throughout, whole, -, -⟩ := extendAll_in_any_order
    (List.Perm.swap (axisTile 0) (axisTile 9999) [])
  obtain ⟨beyond, -, -, lasting⟩ := extendAll_in_any_order
    (List.Perm.swap (axisTile 0) (axisTile 10000) [])
  have fits := throughout.mpr (check_eq_ok_iff.mpr (by decide +kernel))
  refine ⟨fits, ?_, lasting (fun all => ?_) _ (by simp)⟩
  · rw [(whole fits).2.1]
    decide +kernel
  · exact absurd (check_eq_ok_iff.mp (beyond.mp all)) (by decide +kernel)

end Extent
end FactoryBlueprint
