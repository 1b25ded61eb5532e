import FactoryBlueprint.Proofs.Outcome
import FactoryBlueprint.Validation

/-! # Outcomes with warnings

A check reports warnings, and the mode decides what becomes of them. A computation in strict mode and
the same one in another mode stay together step by step until a warning is refused (`Vets`), whatever
else the two runs differ in (`Vets.andThen`). So what a call does in another mode is told by what it
does in strict mode: it succeeds as far as the mode accepts the warnings, and a pedantic call fails
with the first of them.
-/

namespace FactoryBlueprint

namespace ValidationMode

variable {mode : ValidationMode} {warnings more accepted : List Warning} {error : Error}

theorem accept_strict (warnings : List Warning) : strict.accept warnings = .ok warnings := rfl

theorem accept_nil (mode : ValidationMode) : mode.accept [] = .ok [] := by
  cases mode <;> rfl

/-- Warnings that are reported together are accepted one part after the other. -/
theorem accept_append (mode : ValidationMode) (warnings more : List Warning) :
    mode.accept (warnings ++ more) =
      (mode.accept warnings).bind fun first => (mode.accept more).map (first ++ ·) := by
  cases mode with
  | none => rfl
  | minimum => rfl
  | strict => rfl
  | pedantic =>
    cases warnings with
    | nil =>
      rw [List.nil_append]
      cases more <;> rfl
    | cons warning rest => rfl

/-- Only a pedantic mode refuses warnings, and names the first. -/
theorem accept_eq_error_iff : mode.accept warnings = .error error ↔
    mode = .pedantic ∧ ∃ warning rest, warnings = warning :: rest ∧ error = .promoted warning := by
  cases mode with
  | none => simp [accept]
  | minimum => simp [accept]
  | strict => simp [accept]
  | pedantic => cases warnings <;> simp [accept, eq_comm]

/-- A pedantic mode accepts no warning. -/
theorem accept_pedantic_eq_ok_iff :
    pedantic.accept warnings = .ok accepted ↔ warnings = [] ∧ accepted = [] := by
  cases warnings <;> simp [accept, eq_comm]

end ValidationMode

/-- The outcome of a computation that reports warnings. -/
abbrev Reported (α : Type) := Except Error (α × List Warning)

namespace Reported

variable {α β γ : Type}

/-- An outcome without warnings. -/
def quiet (outcome : Except Error α) : Reported α := outcome.map (·, [])

/-- Nothing but the warnings of a check. -/
def ofCheck (outcome : Except Error (List Warning)) : Reported Unit := outcome.map ((), ·)

/-- A computation and then another one, with the warnings of both. -/
def andThen (first : Reported α) (next : α → Reported β) : Reported β :=
  first.bind fun (a, warnings) => (next a).map fun (b, more) => (b, warnings ++ more)

/-- What is reported of two values at once. -/
def ofPair (outcome : Except Error (α × β × List Warning)) : Reported (α × β) :=
  outcome.map fun (a, b, warnings) => ((a, b), warnings)

/-- What a mode makes of an outcome in strict mode that does not depend on the mode otherwise. -/
def under (strict : Reported α) (mode : ValidationMode) : Reported α :=
  strict.bind fun (a, warnings) => (mode.accept warnings).map (a, ·)

/-- What is reported of several values, one after the other. -/
def gather (outcomes : Except Error (List (α × List Warning))) : Reported (List α) :=
  outcomes.map fun reports => (reports.map (·.1), reports.flatMap (·.2))

theorem quiet_eq_ok_iff {outcome : Except Error α} {a : α} {warnings : List Warning} :
    quiet outcome = .ok (a, warnings) ↔ outcome = .ok a ∧ warnings = [] := by
  cases outcome <;> simp [quiet, Except.map, eq_comm]

theorem ofPair_eq_ok_iff {outcome : Except Error (α × β × List Warning)} {a : α} {b : β}
    {warnings : List Warning} :
    ofPair outcome = .ok ((a, b), warnings) ↔ outcome = .ok (a, b, warnings) := by
  cases outcome <;> simp [ofPair, Except.map, Prod.ext_iff, and_assoc]

theorem exists_ofCheck_iff {outcome : Except Error (List Warning)} :
    (∃ a warnings, ofCheck outcome = .ok (a, warnings)) ↔ ∃ warnings, outcome = .ok warnings := by
  cases outcome <;> simp [ofCheck, Except.map]

theorem andThen_eq_ok_iff {first : Reported α} {next : α → Reported β} {b : β}
    {warnings : List Warning} : first.andThen next = .ok (b, warnings) ↔
      ∃ a own more, first = .ok (a, own) ∧ next a = .ok (b, more) ∧ warnings = own ++ more := by
  cases first with
  | error error => simp [andThen, Except.bind]
  | ok reported =>
    obtain ⟨a, own⟩ := reported
    cases later : next a with
    | error error => simp [andThen, Except.bind, Except.map, later]
    | ok joint => simp [andThen, Except.bind, Except.map, later, Prod.ext_iff, eq_comm]

theorem andThen_eq_error_iff {first : Reported α} {next : α → Reported β} {error : Error} :
    first.andThen next = .error error ↔
      first = .error error ∨ ∃ a own, first = .ok (a, own) ∧ next a = .error error := by
  cases first with
  | error error => simp [andThen, Except.bind]
  | ok reported =>
    obtain ⟨a, own⟩ := reported
    cases later : next a <;> simp [andThen, Except.bind, Except.map, later]

theorem gather_cons (f : γ → Except Error (α × List Warning)) (c : γ) (cs : List γ) :
    gather ((c :: cs).mapM f) =
      andThen (f c) fun a => andThen (gather (cs.mapM f)) fun as => .ok (a :: as, []) := by
  rw [List.mapM_cons]
  cases f c with
  | error error => rfl
  | ok first =>
    cases rest : cs.mapM f with
    | error error => rfl
    | ok others => simp [gather, andThen, bind, Except.bind, pure, Except.pure, Except.map]

end Reported

open Reported

/-- What another mode makes of an outcome in strict mode: where the mode accepts the warnings, a
related outcome with what is left of them, otherwise its refusal. If the other mode `looks` at
structure, too, a computation that fails in strict mode fails in it. -/
structure Vets {α β : Type} (looks : Prop) (R : α → β → Prop) (mode : ValidationMode)
    (strict : Reported α) (outcome : Reported β) : Prop where
  accepted : ∀ a warnings, strict = .ok (a, warnings) →
    (∃ left b, mode.accept warnings = .ok left ∧ outcome = .ok (b, left) ∧ R a b) ∨
      ∃ error, mode.accept warnings = .error error ∧ outcome = .error error
  refused : looks → ∀ error, strict = .error error → ∃ other, outcome = .error other

namespace Vets

variable {α β γ δ : Type} {looks : Prop} {R : α → β → Prop} {S : γ → δ → Prop}
  {mode : ValidationMode}

theorem ok {a : α} {b : β} (related : R a b) : Vets looks R mode (.ok (a, [])) (.ok (b, [])) where
  accepted _ _ done := by
    obtain ⟨rfl, rfl⟩ := Prod.mk.inj (Except.ok.inj done)
    exact .inl ⟨[], b, mode.accept_nil, rfl, related⟩
  refused _ _ fails := nomatch fails

theorem error (first second : Error) : Vets looks R mode (.error first) (.error second) where
  accepted _ _ done := nomatch done
  refused _ _ _ := ⟨second, rfl⟩

/-- Computations without warnings that succeed together. -/
theorem quiet {first : Except Error α} {second : Except Error β}
    (together : (∃ a, first = .ok a) ↔ ∃ b, second = .ok b)
    (related : ∀ a b, first = .ok a → second = .ok b → R a b) :
    Vets looks R mode (quiet first) (quiet second) := by
  cases first with
  | error failure =>
    cases second with
    | error other => exact .error failure other
    | ok b => exact nomatch (together.mpr ⟨b, rfl⟩)
  | ok a =>
    cases second with
    | error other => exact nomatch (together.mp ⟨a, rfl⟩)
    | ok b => exact .ok (related a b rfl rfl)

/-- What does not warn is the same in every mode. -/
theorem same (outcome : Except Error α) :
    Vets looks Eq mode (Reported.quiet outcome) (Reported.quiet outcome) :=
  .quiet .rfl fun _ _ first second => Except.ok.inj (first.symm.trans second)

/-- What does not warn may be made into different things. -/
theorem map {f : γ → α} {g : γ → β} (outcome : Except Error γ) (related : ∀ c, R (f c) (g c)) :
    Vets looks R mode (Reported.quiet (outcome.map f)) (Reported.quiet (outcome.map g)) := by
  cases outcome with
  | error failure => exact .error failure failure
  | ok c => exact .ok (related c)

/-- Only what becomes of the warnings depends on the mode. -/
theorem under (checked : Reported α) :
    Vets looks Eq mode (Reported.under checked .strict)
      (Reported.under checked mode) := by
  cases checked with
  | error failure => exact .error failure failure
  | ok reported =>
    obtain ⟨a, warnings⟩ := reported
    have strictly : Reported.under (.ok (a, warnings)) .strict = .ok (a, warnings) := rfl
    rw [strictly]
    refine ⟨fun _ _ done => ?_, fun _ _ fails => nomatch fails⟩
    obtain ⟨rfl, rfl⟩ := Prod.mk.inj (Except.ok.inj done)
    simp only [Reported.under, Except.bind]
    cases mode.accept warnings with
    | error error => exact .inr ⟨error, rfl, rfl⟩
    | ok left => exact .inl ⟨left, a, rfl, rfl, rfl⟩

/-- A check of warnings. -/
theorem check (warnings : List Warning) :
    Vets looks Eq mode (ofCheck (ValidationMode.strict.accept warnings))
      (ofCheck (mode.accept warnings)) :=
  .under (.ok ((), warnings))

/-- Two runs that stay together step by step stay together. -/
theorem andThen {strict : Reported α} {outcome : Reported β} {f : α → Reported γ}
    {g : β → Reported δ} (first : Vets looks R mode strict outcome)
    (next : ∀ a own b left, strict = .ok (a, own) → outcome = .ok (b, left) → R a b →
      Vets looks S mode (f a) (g b)) :
    Vets looks S mode (strict.andThen f) (outcome.andThen g) where
  accepted c warnings done := by
    obtain ⟨a, own, more, here, later, rfl⟩ := andThen_eq_ok_iff.mp done
    rcases first.accepted a own here with ⟨left, b, accepts, same, related⟩ | ⟨error, refuses, same⟩
    · rcases (next a own b left here same related).accepted c more later with
        ⟨rest, d, also, reached, joint⟩ | ⟨error, refuses, stopped⟩
      · refine .inl ⟨left ++ rest, d, ?_, andThen_eq_ok_iff.mpr ⟨b, left, rest, same, reached, rfl⟩,
          joint⟩
        rw [ValidationMode.accept_append, accepts, also]
        rfl
      · refine .inr ⟨error, ?_, andThen_eq_error_iff.mpr (.inr ⟨b, left, same, stopped⟩)⟩
        rw [ValidationMode.accept_append, accepts, refuses]
        rfl
    · refine .inr ⟨error, ?_, andThen_eq_error_iff.mpr (.inl same)⟩
      rw [ValidationMode.accept_append, refuses]
      rfl
  refused structural failure fails := by
    rcases andThen_eq_error_iff.mp fails with here | ⟨a, own, here, later⟩
    · obtain ⟨other, same⟩ := first.refused structural failure here
      exact ⟨other, andThen_eq_error_iff.mpr (.inl same)⟩
    · rcases first.accepted a own here with ⟨left, b, -, same, related⟩ | ⟨error, -, same⟩
      · obtain ⟨other, stopped⟩ :=
          (next a own b left here same related).refused structural failure later
        exact ⟨other, andThen_eq_error_iff.mpr (.inr ⟨b, left, same, stopped⟩)⟩
      · exact ⟨error, andThen_eq_error_iff.mpr (.inl same)⟩

/-- One after the other, several computations stay together if each does. -/
theorem gather {f : γ → Except Error (α × List Warning)} {g : γ → Except Error (β × List Warning)}
    (each : ∀ c, Vets looks R mode (f c) (g c)) (cs : List γ) :
    Vets looks (List.Forall₂ R) mode (gather (cs.mapM f)) (gather (cs.mapM g)) := by
  induction cs with
  | nil => exact .ok .nil
  | cons c cs ih =>
    rw [gather_cons, gather_cons]
    exact (each c).andThen fun a _ b _ _ _ related => ih.andThen fun as _ bs _ _ _ others =>
      .ok (List.Forall₂.cons related others)

end Vets

/-- What a pedantic run makes of a strict one: it succeeds where there is nothing to warn of, and
otherwise fails with the first warning. -/
structure Promotes {α β : Type} (strict : Reported α) (pedantic : Reported β) : Prop where
  succeeds : (∃ b warnings, pedantic = .ok (b, warnings)) ↔ ∃ a, strict = .ok (a, [])
  silent : ∀ b warnings, pedantic = .ok (b, warnings) → warnings = []
  promoted : ∀ a warning rest, strict = .ok (a, warning :: rest) →
    pedantic = .error (.promoted warning)

namespace Vets

variable {α β : Type} {looks : Prop} {R : α → β → Prop} {mode : ValidationMode}
  {strict : Reported α} {outcome : Reported β}

/-- What succeeds in a mode that looks at structure succeeds in strict mode. -/
theorem exists_strict (vets : Vets looks R mode strict outcome) (structural : looks) {b : β}
    {left : List Warning} (done : outcome = .ok (b, left)) :
    ∃ a warnings, strict = .ok (a, warnings) ∧ mode.accept warnings = .ok left ∧ R a b := by
  cases first : strict with
  | error error =>
    obtain ⟨other, fails⟩ := vets.refused structural error first
    exact nomatch done.symm.trans fails
  | ok reported =>
    obtain ⟨a, warnings⟩ := reported
    rcases vets.accepted a warnings first with ⟨_, _, accepts, same, related⟩ | ⟨error, -, fails⟩
    · obtain ⟨rfl, rfl⟩ := Prod.mk.inj (Except.ok.inj (done.symm.trans same))
      exact ⟨a, warnings, rfl, accepts, related⟩
    · exact nomatch done.symm.trans fails

theorem promotes (vets : Vets looks R .pedantic strict outcome) (structural : looks) :
    Promotes strict outcome where
  succeeds := by
    constructor
    · rintro ⟨b, left, done⟩
      obtain ⟨a, warnings, first, accepts, -⟩ := vets.exists_strict structural done
      obtain ⟨rfl, -⟩ := ValidationMode.accept_pedantic_eq_ok_iff.mp accepts
      exact ⟨a, first⟩
    · rintro ⟨a, first⟩
      rcases vets.accepted a [] first with ⟨left, b, -, same, -⟩ | ⟨error, refuses, -⟩
      · exact ⟨b, left, same⟩
      · exact nomatch refuses
  silent b left done := by
    obtain ⟨a, warnings, -, accepts, -⟩ := vets.exists_strict structural done
    exact (ValidationMode.accept_pedantic_eq_ok_iff.mp accepts).2
  promoted a warning rest first := by
    rcases vets.accepted a (warning :: rest) first with ⟨left, b, accepts, -⟩ | ⟨error, refuses, same⟩
    · exact nomatch accepts
    · obtain ⟨-, _, _, told, rfl⟩ := ValidationMode.accept_eq_error_iff.mp refuses
      obtain ⟨rfl, -⟩ := List.cons.inj told
      exact same

end Vets
end FactoryBlueprint
