import FactoryBlueprint.Error

/-! # Validation

A validation mode says how much is checked. Checks produce warnings; `ValidationMode.accept` decides
what becomes of them: dropped, reported, or refused as an error.
-/

namespace FactoryBlueprint

/-- How much is checked, from nothing to refusing every warning. -/
inductive ValidationMode where
  | none
  /-- Only the structure. -/
  | minimum
  /-- Also what warnings are about. -/
  | strict
  /-- Warnings are errors. -/
  | pedantic
  deriving DecidableEq, Inhabited

namespace ValidationMode

def names : List (String × ValidationMode) :=
  [("none", .none), ("minimum", .minimum), ("strict", .strict), ("pedantic", .pedantic)]

def name : ValidationMode → String
  | .none => "none"
  | .minimum => "minimum"
  | .strict => "strict"
  | .pedantic => "pedantic"

/-- A text that names no mode, in lower case. -/
structure Unknown where
  name : String

def Unknown.message (unknown : Unknown) : String := s!"unknown validation mode '{unknown.name}'"

/-- The mode of a name; the case of ASCII letters does not count. -/
def ofName (name : String) : Except Unknown ValidationMode :=
  match names.lookup (name.map Char.toLower) with
  | some mode => .ok mode
  | Option.none => .error ⟨name.map Char.toLower⟩

/-- True if warnings are wanted. -/
def wantsWarnings : ValidationMode → Bool
  | .none | .minimum => false
  | .strict | .pedantic => true

/-- The warnings that are reported, or the first as an error. -/
def accept (mode : ValidationMode) (warnings : List Warning) : Except Error (List Warning) :=
  match mode, warnings with
  | .none, _ | .minimum, _ => .ok []
  | .strict, warnings => .ok warnings
  | .pedantic, [] => .ok []
  | .pedantic, warning :: _ => .error (.promoted warning)

end ValidationMode

/-- The outcome of inspecting a blueprint: all errors and warnings in the order of the checks. -/
structure Report where
  errors : List Error
  warnings : List Warning

namespace Report

def empty : Report := ⟨[], []⟩

def isValid (report : Report) : Bool := report.errors.isEmpty

/-- The report with the outcome of one more check. -/
def absorb (report : Report) : Except Error (List Warning) → Report
  | .ok warnings => { report with warnings := report.warnings ++ warnings }
  | .error error => { report with errors := report.errors ++ [error] }

/-- The first error, or the warnings if there is none. -/
def toExcept (report : Report) : Except Error (List Warning) :=
  match report.errors with
  | [] => .ok report.warnings
  | error :: _ => .error error

end Report
end FactoryBlueprint
