import FactoryBlueprint.Blueprint.Inspection
import FactoryBlueprint.Proofs.Blueprint.Extent
import FactoryBlueprint.Proofs.Blueprint.References

/-! # What an inspection without errors tells

An inspection reports no error if every check succeeds (`Report.errors_foldl_absorb_eq_nil_iff`).
Without regard to warnings, the checks that count are those of the colour, the icons, the extent and
the references (`sound_of_inspect`).
-/

namespace FactoryBlueprint

/-- No error is reported if every outcome is a success. -/
theorem Report.errors_foldl_absorb_eq_nil_iff {outcomes : List (Except Error (List Warning))}
    {report : Report} : (outcomes.foldl Report.absorb report).errors = [] ↔
      report.errors = [] ∧ ∀ outcome ∈ outcomes, ∃ warnings, outcome = .ok warnings := by
  induction outcomes generalizing report with
  | nil => simp
  | cons outcome outcomes ih =>
    rw [List.foldl_cons, ih, List.forall_mem_cons, ← and_assoc]
    refine and_congr_left fun _ => ?_
    cases outcome with
    | error error => simp [Report.absorb]
    | ok warnings => simp [Report.absorb]

/-- The warnings of an outcome, none if it failed. -/
def Report.told : Except Error (List Warning) → List Warning
  | .ok warnings => warnings
  | .error _ => []

@[simp] theorem Report.told_ok (warnings : List Warning) :
    Report.told (.ok warnings) = warnings := rfl

/-- The warnings of all outcomes are reported in order. -/
theorem Report.warnings_foldl_absorb (outcomes : List (Except Error (List Warning)))
    (report : Report) : (outcomes.foldl Report.absorb report).warnings =
      report.warnings ++ outcomes.flatMap Report.told := by
  induction outcomes generalizing report with
  | nil => simp
  | cons outcome outcomes ih =>
    rw [List.foldl_cons, ih, List.flatMap_cons, ← List.append_assoc]
    cases outcome with
    | error error => simp [Report.absorb, Report.told]
    | ok warnings => rfl

namespace Blueprint

variable {blueprint : Blueprint}

theorem exists_ok_of_silent {α : Type} {outcome : Except Error α}
    (succeeds : ∃ warnings, silent outcome = .ok warnings) : ∃ a, outcome = .ok a := by
  cases outcome with
  | error error => simp [silent, Except.map] at succeeds
  | ok a => exact ⟨a, rfl⟩

/-- What has to hold of a blueprint without regard to warnings. -/
structure Sound (blueprint : Blueprint) : Prop where
  color : ∀ color ∈ blueprint.labelColor, color.badChannel? = none
  icons : ∃ warnings, Icon.check blueprint.icons .minimum blueprint.table = .ok warnings
  extent : blueprint.extent.oversize? = none
  entities : ∃ documents, blueprint.exportEntities .zero = .ok documents
  schedules : ∃ documents, blueprint.exportSchedules = .ok documents

theorem badChannel?_of_check {color : Color} {path : String}
    (passed : ∃ a, color.check path = .ok a) : color.badChannel? = none := by
  obtain ⟨_, passed⟩ := passed
  unfold Color.check at passed
  split at passed
  · exact nomatch passed
  · rename_i fine
    exact fine

theorem oversize?_of_check {extent : Extent} (passed : ∃ a, extent.check = .ok a) :
    extent.oversize? = none := by
  obtain ⟨_, passed⟩ := passed
  rw [Extent.check] at passed
  split at passed
  · exact nomatch passed
  · rename_i fine
    exact fine

theorem sound_of_inspect (valid : (blueprint.inspect .minimum).errors = []) : blueprint.Sound := by
  rw [inspect, if_neg (by decide), Report.errors_foldl_absorb_eq_nil_iff] at valid
  obtain ⟨-, succeed⟩ := valid
  rw [checks, List.forall_mem_append, List.forall_mem_append, List.forall_mem_append,
    List.forall_mem_append, List.forall_mem_append] at succeed
  obtain ⟨⟨⟨⟨⟨colors, middle⟩, -⟩, -⟩, -⟩, last⟩ := succeed
  obtain ⟨icons, extent, -⟩ := by
    simpa only [List.forall_mem_cons] using middle
  obtain ⟨-, -, entities, schedules, -⟩ := by
    simpa only [List.forall_mem_cons] using last
  refine ⟨fun color given => ?_, icons, ?_, ?_, ?_⟩
  · exact badChannel?_of_check (exists_ok_of_silent
      (colors _ (List.mem_map_of_mem (Option.mem_toList.mpr given))))
  · exact oversize?_of_check (exists_ok_of_silent extent)
  · exact exists_ok_of_silent entities
  · exact exists_ok_of_silent schedules

/-- What was inspected without errors can be written. -/
theorem Sound.exists_toDocument (sound : blueprint.Sound) (coherent : blueprint.Coherent) :
    ∃ document, blueprint.toDocument = .ok document :=
  (toDocument_ok_iff coherent).mpr ⟨(exportEntities_ok_iff coherent .zero).mp sound.entities,
    (exportSchedules_ok_iff coherent).mp sound.schedules⟩

/-- Icons that were checked are in slots that can be written. -/
theorem Sound.icon_lt (sound : blueprint.Sound) : ∀ icon ∈ blueprint.icons, icon.index < 2 ^ 8 := by
  intro icon mem
  obtain ⟨_, passed⟩ := sound.icons
  rw [Icon.check, if_neg (by decide)] at passed
  split at passed
  · exact nomatch passed
  · split at passed
    · exact nomatch passed
    · rename_i fine
      obtain ⟨i, place⟩ := List.mem_iff_getElem?.mp mem
      have inList : (icon, i) ∈ blueprint.icons.zipIdx :=
        List.mem_iff_getElem?.mpr ⟨i, by simp [List.getElem?_zipIdx, place]⟩
      have slot := List.find?_eq_none.mp (Option.map_eq_none_iff.mp fine) (icon, i) inList
      have count : Icon.maxCount = 4 := rfl
      simp only [Bool.not_eq_true, Bool.not_eq_false', Bool.and_eq_true, decide_eq_true_eq] at slot
      omega

end Blueprint
end FactoryBlueprint
