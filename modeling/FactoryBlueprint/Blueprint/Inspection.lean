import FactoryBlueprint.Blueprint.Export

/-! # Inspecting blueprints

An inspection checks a blueprint as it stands and reports all errors and warnings.
-/

namespace FactoryBlueprint.Blueprint

/-- An outcome without warnings. -/
def silent {α : Type} (outcome : Except Error α) : Except Error (List Warning) :=
  outcome.map fun _ => []

/-- The outcomes of all checks, in order. -/
def checks (blueprint : Blueprint) (mode : ValidationMode) : List (Except Error (List Warning)) :=
  let table := blueprint.table
  (blueprint.labelColor.toList.map fun color => silent (color.check (kind ++ ".color"))) ++
    [Icon.check blueprint.icons mode table, silent blueprint.extent.check,
      mode.accept (unknownKeys blueprint.extra)] ++
    (blueprint.entities.entries.map fun (_, entity) => mode.accept (entity.warnings table)) ++
    (blueprint.tiles.tiles.map fun tile => mode.accept (tile.warnings table)) ++
    (blueprint.schedules.map fun schedule => mode.accept (schedule.warnings table)) ++
    [mode.accept (blueprint.entities.overlapWarnings table),
      mode.accept (blueprint.tiles.overlapWarnings table),
      silent (blueprint.exportEntities .zero), silent blueprint.exportSchedules]

/-- What there is to say of the blueprint as it stands. Without validation that is nothing. -/
def inspect (blueprint : Blueprint) (mode : ValidationMode) : Report :=
  if mode = .none then .empty
  else (blueprint.checks mode).foldl Report.absorb .empty

end FactoryBlueprint.Blueprint
