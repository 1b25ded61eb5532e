import FactoryBlueprint.Proofs.Blueprint.Extent
import FactoryBlueprint.Proofs.Geometry.Union

/-! # Extents that cover boxes

Boxes may be covered one by one, in any order and as often as wanted, or by their union at once
(`coverAll_congr`, `coverAll_union?`). An extent that is within the limit stays so if it is computed
anew from fewer boxes (`oversize?_ofBoxes`).
-/

namespace FactoryBlueprint

namespace Box

variable {boxes : List Box} {area joint : Box} {property : Box → Prop}

/-- What holds of boxes and is kept by unions holds of their union. -/
theorem forall_union? (kept : ∀ a b, property a → property b → property (a.union b))
    (each : ∀ box ∈ boxes, property box) (found : union? boxes = some joint) : property joint := by
  cases boxes with
  | nil => contradiction
  | cons first rest =>
    obtain rfl := Option.some.inj found
    obtain ⟨here, later⟩ := List.forall_mem_cons.mp each
    clear found each
    induction rest generalizing first with
    | nil => exact here
    | cons box rest ih =>
      obtain ⟨next, last⟩ := List.forall_mem_cons.mp later
      exact ih (first.union box) (kept first box here next) last

theorem Around.union? (around : ∀ box ∈ boxes, area.Around box)
    (found : Box.union? boxes = some joint) : area.Around joint :=
  forall_union? (fun _ _ => Around.union) around found

theorem attained_union? (found : union? boxes = some joint) : Attained (· ∈ boxes) joint :=
  forall_union? (fun _ _ => Attained.union) (fun _ => Attained.self) found

theorem union?_eq_none_iff : union? boxes = none ↔ boxes = [] := by
  cases boxes <;> simp [union?]

end Box

namespace Extent

variable {extent : Extent} {a b box : Box} {boxes others : List Box}

/-- The extent that covers all boxes as well. -/
def coverAll (extent : Extent) (boxes : List Box) : Extent := boxes.foldl cover extent

/-- Two boxes are covered by covering their union. -/
theorem cover_cover (extent : Extent) (a b : Box) :
    (extent.cover a).cover b = extent.cover (a.union b) := by
  rw [cover, cover, cover]
  cases extent.area with
  | none => rfl
  | some area => exact congrArg (fun joint => ofArea (some joint)) (Box.union_assoc area a b)

theorem cover_right_comm (extent : Extent) (a b : Box) :
    (extent.cover a).cover b = (extent.cover b).cover a := by
  rw [cover_cover, cover_cover, Box.union_comm]

instance : RightCommutative cover := ⟨cover_right_comm⟩

theorem cover_self (extent : Extent) (box : Box) :
    (extent.cover box).cover box = extent.cover box := by
  rw [cover_cover, Box.union_self]

theorem coverAll_append (extent : Extent) (boxes others : List Box) :
    extent.coverAll (boxes ++ others) = (extent.coverAll boxes).coverAll others :=
  List.foldl_append

theorem coverAll_perm (extent : Extent) (perm : boxes.Perm others) :
    extent.coverAll boxes = extent.coverAll others :=
  perm.foldl_eq extent

/-- A box that was covered before is covered again to no effect. -/
theorem cover_coverAll (mem : box ∈ boxes) :
    (extent.coverAll boxes).cover box = extent.coverAll boxes := by
  obtain ⟨before, after, rfl⟩ := List.append_of_mem mem
  have last : (before ++ box :: after).Perm (before ++ after ++ [box]) :=
    List.perm_middle.trans (List.perm_append_singleton box _).symm
  rw [coverAll_perm extent last, coverAll_append]
  exact cover_self _ box

theorem coverAll_coverAll (subset : ∀ box ∈ others, box ∈ boxes) :
    (extent.coverAll boxes).coverAll others = extent.coverAll boxes := by
  induction others with
  | nil => rfl
  | cons box rest ih =>
    obtain ⟨here, later⟩ := List.forall_mem_cons.mp subset
    have first := @cover_coverAll extent box boxes here
    rw [coverAll, List.foldl_cons, first]
    exact ih later

/-- Only which boxes there are counts. -/
theorem coverAll_congr (extent : Extent) (same : ∀ box, box ∈ boxes ↔ box ∈ others) :
    extent.coverAll boxes = extent.coverAll others := by
  calc
    extent.coverAll boxes = (extent.coverAll boxes).coverAll others :=
      (coverAll_coverAll fun box => (same box).mpr).symm
    _ = extent.coverAll (boxes ++ others) := (coverAll_append extent boxes others).symm
    _ = extent.coverAll (others ++ boxes) := coverAll_perm extent List.perm_append_comm
    _ = (extent.coverAll others).coverAll boxes := coverAll_append extent others boxes
    _ = extent.coverAll others := coverAll_coverAll fun box => (same box).mp

theorem ofBoxes_eq_coverAll (boxes : List Box) : ofBoxes boxes = empty.coverAll boxes :=
  ofBoxes_eq boxes

theorem ofBoxes_congr (same : ∀ box, box ∈ boxes ↔ box ∈ others) :
    ofBoxes boxes = ofBoxes others := by
  rw [ofBoxes_eq_coverAll, ofBoxes_eq_coverAll, coverAll_congr empty same]

/-- Boxes are covered by covering their union, if there are any. -/
theorem coverAll_union? (extent : Extent) (boxes : List Box) :
    extent.coverAll boxes = (Box.union? boxes).elim extent extent.cover := by
  cases boxes with
  | nil => rfl
  | cons first rest =>
    have general : ∀ area, rest.foldl cover (extent.cover area) =
        extent.cover (rest.foldl Box.union area) := by
      induction rest with
      | nil => exact fun _ => rfl
      | cons box rest ih =>
        intro area
        rw [List.foldl_cons, List.foldl_cons, cover_cover]
        exact ih (area.union box)
    exact general first

/-! ### The limit -/

/-- An extent of boxes that are covered is within the limit if the one that covers them is. -/
theorem oversize?_ofBoxes (within : extent.oversize? = none)
    (covered : ∀ box ∈ boxes, extent.Covers box) : (ofBoxes boxes).oversize? = none := by
  cases found : Box.union? boxes with
  | none => rw [ofBoxes, found]; rfl
  | some joint =>
    obtain ⟨first, mem⟩ := List.exists_mem_of_ne_nil boxes fun none => by
      rw [Box.union?_eq_none_iff.mpr none] at found
      contradiction
    obtain ⟨area, here, -⟩ := covered first mem
    have around : ∀ box ∈ boxes, area.Around box := by
      intro box mem
      obtain ⟨same, there, around⟩ := covered box mem
      exact Option.some.inj (here.symm.trans there) ▸ around
    rw [ofBoxes, found]
    exact (oversize?_eq_none_iff rfl).mpr fun axis =>
      Nat.le_trans (Box.tilesAlong_mono (Box.Around.union? around found) axis)
        ((oversize?_eq_none_iff here).mp within axis)

theorem oversize?_of_cover (within : (extent.cover box).oversize? = none) :
    extent.oversize? = none := by
  cases known : extent.area with
  | none =>
    rw [extent.eq_ofArea, known]
    rfl
  | some area =>
    rw [cover, known] at within
    exact (oversize?_eq_none_iff known).mpr fun axis =>
      Nat.le_trans (Box.tilesAlong_mono (Box.around_union_left area box) axis)
        ((oversize?_eq_none_iff rfl).mp within axis)

/-- An extent is within the limit if one that covers more is. -/
theorem oversize?_of_coverAll (within : (extent.coverAll boxes).oversize? = none) :
    extent.oversize? = none := by
  induction boxes generalizing extent with
  | nil => exact within
  | cons box boxes ih => exact oversize?_of_cover (ih within)

end Extent
end FactoryBlueprint
