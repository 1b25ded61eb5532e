/-! # Lists without repetition

`Distinct.add` appends an element unless it is there already, so the first occurrence keeps its
place.
-/

namespace FactoryBlueprint.Distinct

variable {α : Type} [DecidableEq α]

/-- The list with `a` at its end, or unchanged if it holds `a`. -/
def add (as : List α) (a : α) : List α := if a ∈ as then as else as ++ [a]

/-- The list with each of `others` added in turn. -/
def addAll (as others : List α) : List α := others.foldl add as

theorem mem_add {as : List α} {a b : α} : b ∈ add as a ↔ b ∈ as ∨ b = a := by
  unfold add
  split
  · rename_i mem
    exact ⟨.inl, fun either => either.elim id fun same => same ▸ mem⟩
  · simp

theorem add_ne_nil (as : List α) (a : α) : add as a ≠ [] :=
  List.ne_nil_of_mem (mem_add.mpr (.inr rfl))

theorem nodup_add {as : List α} (nodup : as.Nodup) (a : α) : (add as a).Nodup := by
  unfold add
  split
  · exact nodup
  · rename_i fresh
    exact List.nodup_append.mpr ⟨nodup, by simp, fun b mem c last differ => fresh (by
      rw [List.mem_singleton.mp last] at differ
      exact differ ▸ mem)⟩

theorem mem_addAll {as others : List α} {b : α} : b ∈ addAll as others ↔ b ∈ as ∨ b ∈ others := by
  induction others generalizing as with
  | nil => simp [addAll]
  | cons a rest ih =>
    have step : addAll as (a :: rest) = addAll (add as a) rest := rfl
    rw [step, ih, mem_add, List.mem_cons, or_assoc]

theorem nodup_addAll {as : List α} (nodup : as.Nodup) (others : List α) :
    (addAll as others).Nodup := by
  induction others generalizing as with
  | nil => exact nodup
  | cons a rest ih => exact ih (nodup_add nodup a)

/-- Elements that are there already change nothing. -/
theorem addAll_eq_self {as others : List α} (there : ∀ b ∈ others, b ∈ as) :
    addAll as others = as := by
  induction others with
  | nil => rfl
  | cons a rest ih =>
    obtain ⟨here, later⟩ := List.forall_mem_cons.mp there
    have step : addAll as (a :: rest) = addAll (add as a) rest := rfl
    rw [step, add, if_pos here, ih later]

end FactoryBlueprint.Distinct
