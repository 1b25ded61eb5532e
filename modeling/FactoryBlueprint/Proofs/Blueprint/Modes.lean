import FactoryBlueprint.Proofs.Blueprint.AssignmentModes
import FactoryBlueprint.Proofs.Blueprint.Inspection
import FactoryBlueprint.Proofs.Blueprint.ReadingModes
import FactoryBlueprint.Proofs.RoundTrip.Independence

/-! # The modes agree

A mode decides what becomes of warnings and of nothing else: a pedantic run succeeds where a strict
one has nothing to warn of, and whatever two modes let through is the same blueprint but for the mode
(`modes_agree`).
-/

namespace FactoryBlueprint.Blueprint

open Reported

variable {table : PrototypeTable} {list other : ListId} {document : Document}

/-- Blueprints that are written as the same document and have the same extent. -/
structure Alike (a b : Blueprint) : Prop where
  document : a.toDocument = b.toDocument
  extent : a.extent = b.extent

/-! ### Reading -/

theorem alike_of_ofDocument {mode mode' : ValidationMode} {a b : Blueprint}
    {warnings warnings' : List Warning}
    (first : ofDocument table mode list document = .ok (a, warnings))
    (second : ofDocument table mode' other document = .ok (b, warnings')) : a.Alike b := by
  obtain ⟨root, entities, tiles, schedules, records, built⟩ := built_of_ofDocument first
  obtain ⟨_, _, _, _, records', built'⟩ := built_of_ofDocument second
  obtain ⟨rfl, rfl, rfl, rfl⟩ := records.unique records'
  obtain ⟨written, one, two⟩ := built.toDocument_common records built'
  exact ⟨one.trans two.symm, Except.ok.inj (built.covered.symm.trans built'.covered)⟩

/-- A document is read alike in all modes. -/
structure ReadsAlike (table : PrototypeTable) (document : Document) : Prop where
  pedantic : ∀ list other, Promotes (ofDocument table .strict list document)
    (ofDocument table .pedantic other document)
  minimum : ∀ list other, (∃ blueprint warnings,
    ofDocument table .strict list document = .ok (blueprint, warnings)) ↔
      ∃ blueprint warnings, ofDocument table .minimum other document = .ok (blueprint, warnings)
  none : ∀ list other blueprint warnings,
    ofDocument table .strict list document = .ok (blueprint, warnings) →
      ∃ again, ofDocument table .none other document = .ok (again, [])
  alike : ∀ mode mode' list other a b warnings warnings',
    ofDocument table mode list document = .ok (a, warnings) →
      ofDocument table mode' other document = .ok (b, warnings') → a.Alike b

theorem readsAlike (table : PrototypeTable) (document : Document) : ReadsAlike table document where
  pedantic list other := (vets_ofDocument table .pedantic list other document).promotes nofun
  minimum list other := exists_ofDocument_strict_iff table list other document
  none list other blueprint warnings first := by
    rcases (vets_ofDocument table .none list other document).accepted blueprint warnings first with
      ⟨left, again, accepts, same, -⟩ | ⟨error, refuses, -⟩
    · obtain rfl := Except.ok.inj accepts
      exact ⟨again, same⟩
    · exact nomatch refuses
  alike _ _ _ _ _ _ _ _ first second := alike_of_ofDocument first second

/-! ### Assigning -/

theorem alike_inMode (blueprint : Blueprint) (mode mode' : ValidationMode) :
    (blueprint.inMode mode).Alike (blueprint.inMode mode') := ⟨rfl, rfl⟩

/-- A call does the same to a blueprint in all modes. -/
structure AssignsAlike (blueprint : Blueprint) (call : Assignment) : Prop where
  pedantic : Promotes (call.run (blueprint.inMode .strict)) (call.run (blueprint.inMode .pedantic))
  alike : ∀ mode mode' a b warnings warnings',
    call.run (blueprint.inMode mode) = .ok (a, warnings) →
      call.run (blueprint.inMode mode') = .ok (b, warnings') → a.Alike b

theorem assignsAlike (blueprint : Blueprint) (call : Assignment) :
    blueprint.AssignsAlike call where
  pedantic := (blueprint.vets_run .pedantic call).promotes trivial
  alike mode mode' a b _ _ first second := by
    obtain ⟨_, _, done, -, one, rfl, rfl⟩ :=
      (blueprint.vets_run mode call).exists_strict trivial first
    obtain ⟨_, _, again, -, two, rfl, rfl⟩ :=
      (blueprint.vets_run mode' call).exists_strict trivial second
    have same : one.inMode .strict = two.inMode .strict :=
      congrArg Prod.fst (Except.ok.inj (done.symm.trans again))
    have between : (one.inMode .strict).Alike (two.inMode mode') := same ▸ two.alike_inMode _ _
    exact ⟨between.document, between.extent⟩

/-! ### Inspecting -/

/-- An outcome of a check in strict mode, and of the same check in another mode. -/
abbrev VetsCheck (mode : ValidationMode) (strict outcome : Except Error (List Warning)) : Prop :=
  Vets (mode ≠ .none) Eq mode (ofCheck strict) (ofCheck outcome)

theorem vetsCheck_silent {α : Type} (mode : ValidationMode) (outcome : Except Error α) :
    VetsCheck mode (silent outcome) (silent outcome) := by
  cases outcome with
  | error error => exact .error error error
  | ok a => exact .ok rfl

/-- Every check of an inspection is made alike in all modes. -/
theorem vets_checks (blueprint : Blueprint) (mode : ValidationMode) :
    List.Forall₂ (VetsCheck mode) (blueprint.checks .strict) (blueprint.checks mode) := by
  have each {α : Type} {f g : α → Except Error (List Warning)} {as : List α}
      (vets : ∀ a, VetsCheck mode (f a) (g a)) :
      List.Forall₂ (VetsCheck mode) (as.map f) (as.map g) :=
    List.forall₂_map_left_iff.mpr (List.forall₂_map_right_iff.mpr
      (List.forall₂_same.mpr fun a _ => vets a))
  refine List.rel_append (List.rel_append (List.rel_append (List.rel_append
    (List.rel_append ?_ ?_) ?_) ?_) ?_) ?_
  · exact each fun color => vetsCheck_silent mode _
  · exact .cons (Icon.vets_check _ mode _) (.cons (vetsCheck_silent mode _) (.cons (.check _) .nil))
  · exact each fun _ => .check _
  · exact each fun _ => .check _
  · exact each fun _ => .check _
  · exact .cons (.check _) (.cons (.check _) (.cons (vetsCheck_silent mode _)
      (.cons (vetsCheck_silent mode _) .nil)))

/-- A pedantic inspection finds a blueprint valid if a strict one has nothing to say of it. -/
theorem isValid_inspect_pedantic (blueprint : Blueprint) :
    (blueprint.inspect .pedantic).isValid ↔
      (blueprint.inspect .strict).isValid ∧ (blueprint.inspect .strict).warnings = [] := by
  have each : List.Forall₂ (fun strict pedantic =>
      strict = Except.ok [] ↔ ∃ warnings, pedantic = Except.ok warnings)
      (blueprint.checks .strict) (blueprint.checks .pedantic) := by
    refine (blueprint.vets_checks .pedantic).imp fun strict pedantic vets => ?_
    rw [← exists_ofCheck_iff, (vets.promotes nofun).succeeds]
    cases strict <;> simp [ofCheck, Except.map]
  have quiet (strict : Except Error (List Warning)) :
      strict = .ok [] ↔ (∃ warnings, strict = .ok warnings) ∧ Report.told strict = [] := by
    cases strict <;> simp [Report.told]
  simp only [inspect, Report.isValid, List.isEmpty_iff, reduceCtorEq, if_false,
    Report.errors_foldl_absorb_eq_nil_iff, Report.warnings_foldl_absorb, Report.empty,
    List.nil_append, List.flatMap_eq_nil_iff, true_and]
  rw [← forall₂_and, ← forall_mem_iff_of_forall₂ each]
  exact forall₂_congr fun strict _ => quiet strict

/-- What is read, assigned and inspected is so alike in all modes. -/
theorem modes_agree (table : PrototypeTable) (document : Document) (blueprint : Blueprint) :
    ReadsAlike table document ∧ (∀ call, blueprint.AssignsAlike call) ∧
      ((blueprint.inspect .pedantic).isValid ↔
        (blueprint.inspect .strict).isValid ∧ (blueprint.inspect .strict).warnings = []) :=
  ⟨readsAlike table document, blueprint.assignsAlike, blueprint.isValid_inspect_pedantic⟩

end FactoryBlueprint.Blueprint
