import FactoryBlueprint.EntityList.Placement
import FactoryBlueprint.Proofs.Vetting
import Mathlib.Data.List.Forall2
import Mathlib.Data.List.Perm.Basic

/-! # Outcomes that are alike

Where an object overlaps several others at once, nothing but the history of an index says which of
them is named first. What a call comes upon is listed object by object (`Raised`), and two such lists
are alike if they differ in the order of one object's overlaps only (`Raised.Alike`). Errors are alike
if they are the same, or if on each side it is the refusal of what was raised there (`Error.Alike`).
-/

namespace FactoryBlueprint

/-- Warnings, object by object: those of each object itself and those of what it overlaps. -/
abbrev Raised := List (List Warning)

/-- The same warnings, or the overlaps of one object in another order. -/
inductive Warning.Reordered : List Warning → List Warning → Prop
  | same (warnings : List Warning) : Reordered warnings warnings
  | overlaps {found others : List Warning} (name : String) (position : Point)
      (perm : found.Perm others)
      (all : ∀ warning ∈ found, ∃ other, warning = .overlap name other position) :
      Reordered found others

/-- Object by object, the same warnings but for the order of its overlaps. -/
def Raised.Alike (raised others : Raised) : Prop := List.Forall₂ Warning.Reordered raised others

/-- There is one order in which a single warning can be told. -/
theorem Warning.Reordered.eq_of_single {found others : List Warning}
    (reordered : Reordered found others) (single : found.length ≤ 1) : others = found := by
  cases reordered with
  | same => rfl
  | overlaps name position perm all =>
    cases found with
    | nil => exact perm.nil_eq.symm
    | cons warning rest =>
      obtain rfl : rest = [] := List.length_eq_zero_iff.mp (Nat.le_zero.mp (Nat.le_of_succ_le_succ single))
      exact List.perm_singleton.mp perm.symm

namespace Raised.Alike

variable {raised others more rest : Raised}

theorem refl (raised : Raised) : raised.Alike raised :=
  List.forall₂_same.mpr fun warnings _ => .same warnings

theorem append (first : raised.Alike others) (second : more.Alike rest) :
    Raised.Alike (raised ++ more) (others ++ rest) :=
  List.rel_append first second

/-- Where no object overlaps several others, the same is raised. -/
theorem eq_of_single (alike : raised.Alike others) (single : ∀ found ∈ raised, found.length ≤ 1) :
    others = raised := by
  induction alike with
  | nil => rfl
  | cons here _ ih =>
    obtain ⟨first, later⟩ := List.forall_mem_cons.mp single
    rw [here.eq_of_single first, ih later]

end Raised.Alike

/-- What was raised on each side is told there, as far as the mode tells, and is alike. -/
structure Raised.Told (mode : ValidationMode) (raised others : Raised)
    (warnings later : List Warning) : Prop where
  alike : raised.Alike others
  here : mode.accept raised.flatten = .ok warnings
  there : mode.accept others.flatten = .ok later

/-- The same error, or on each side the refusal of what was raised there. -/
inductive Error.Alike (mode : ValidationMode) (raised others : Raised) : Error → Error → Prop
  | same (error : Error) : Alike mode raised others error error
  | refused {first second : Error} (alike : raised.Alike others)
      (here : mode.accept raised.flatten = .error first)
      (there : mode.accept others.flatten = .error second) : Alike mode raised others first second

/-- Both objects are placed under the same key, merged or not, and told of what was raised. -/
structure Placement.Alike (mode : ValidationMode) (raised others : Raised)
    (placement other : Placement) : Prop where
  key : other.key = placement.key
  merged : other.merged = placement.merged
  told : raised.Told mode others placement.warnings other.warnings

/-- Both succeed, with results that are related, or fail, with errors that are. -/
inductive OutcomesAlike {α β : Type} (E : Error → Error → Prop) (R : α → β → Prop) :
    Except Error α → Except Error β → Prop
  | ok {a : α} {b : β} (related : R a b) : OutcomesAlike E R (.ok a) (.ok b)
  | error {first second : Error} (alike : E first second) :
      OutcomesAlike E R (.error first) (.error second)

namespace OutcomesAlike

variable {α β γ δ : Type} {E F : Error → Error → Prop} {R : α → β → Prop} {S : γ → δ → Prop}
  {first : Except Error α} {second : Except Error β}

theorem refl {R : α → α → Prop} (errors : ∀ error, E error error) (same : ∀ a, R a a)
    (outcome : Except Error α) : OutcomesAlike E R outcome outcome := by
  cases outcome with
  | error error => exact .error (errors error)
  | ok a => exact .ok (same a)

theorem bind {f : α → Except Error γ} {g : β → Except Error δ}
    (alike : OutcomesAlike E R first second)
    (next : ∀ a b, R a b → OutcomesAlike E S (f a) (g b)) :
    OutcomesAlike E S (first >>= f) (second >>= g) := by
  cases alike with
  | ok related => exact next _ _ related
  | error alike => exact .error alike

theorem map {f : α → γ} {g : β → δ} (alike : OutcomesAlike E R first second)
    (next : ∀ a b, R a b → S (f a) (g b)) : OutcomesAlike E S (first.map f) (second.map g) := by
  cases alike with
  | ok related => exact .ok (next _ _ related)
  | error alike => exact .error alike

theorem imp {R' : α → β → Prop} (alike : OutcomesAlike E R first second)
    (errors : ∀ e e', E e e' → F e e') (results : ∀ a b, R a b → R' a b) :
    OutcomesAlike F R' first second := by
  cases alike with
  | ok related => exact .ok (results _ _ related)
  | error alike => exact .error (errors _ _ alike)

end OutcomesAlike

/-! ### Warnings that are accepted or refused -/

/-- What is accepted of warnings in some order. -/
theorem ValidationMode.isOk_accept_perm (mode : ValidationMode) {warnings others : List Warning}
    (perm : warnings.Perm others) :
    (mode.accept warnings).isOk = (mode.accept others).isOk := by
  cases mode with
  | none | minimum | strict => rfl
  | pedantic =>
    cases warnings with
    | nil =>
      rw [perm.nil_eq]
    | cons warning rest =>
      cases others with
      | nil => exact absurd perm.eq_nil (List.cons_ne_nil warning rest)
      | cons => rfl

theorem Warning.Reordered.perm {found others : List Warning} (reordered : Reordered found others) :
    found.Perm others := by
  cases reordered with
  | same => exact .refl _
  | overlaps _ _ perm _ => exact perm

theorem Raised.Alike.perm {raised others : Raised} (alike : raised.Alike others) :
    raised.flatten.Perm others.flatten := by
  induction alike with
  | nil => exact .refl _
  | cons here _ ih => exact here.perm.append ih

/-- What was raised on both sides is accepted on both or refused on both. -/
theorem Raised.Alike.accept {raised others : Raised} (alike : raised.Alike others)
    (mode : ValidationMode) :
    OutcomesAlike (Error.Alike mode raised others) (Raised.Told mode raised others)
      (mode.accept raised.flatten) (mode.accept others.flatten) := by
  have both := mode.isOk_accept_perm alike.perm
  cases here : mode.accept raised.flatten with
  | ok kept =>
    cases there : mode.accept others.flatten with
    | ok left => exact .ok ⟨alike, here, there⟩
    | error second =>
      rw [here, there] at both
      contradiction
  | error first =>
    cases there : mode.accept others.flatten with
    | ok left =>
      rw [here, there] at both
      contradiction
    | error second => exact .error (.refused alike here there)

variable {mode : ValidationMode} {before earlier raised others : Raised}
  {kept left warnings later : List Warning}

/-- Nothing raised is told of as nothing. -/
theorem Raised.Told.nil (mode : ValidationMode) : Raised.Told mode [] [] [] [] :=
  ⟨.refl [], mode.accept_nil, mode.accept_nil⟩

/-- What there is to warn of in an object itself is the same on both sides. -/
theorem Raised.Told.own (accepted : mode.accept warnings = .ok kept) :
    Raised.Told mode [warnings] [warnings] kept kept := by
  have told : mode.accept (List.flatten [warnings]) = .ok kept := by
    rw [List.flatten_singleton, accepted]
  exact ⟨.refl _, told, told⟩

theorem Raised.Told.append (first : before.Told mode earlier kept left)
    (second : raised.Told mode others warnings later) :
    Raised.Told mode (before ++ raised) (earlier ++ others) (kept ++ warnings) (left ++ later) where
  alike := first.alike.append second.alike
  here := by
    rw [List.flatten_append, mode.accept_append, first.here, second.here]
    rfl
  there := by
    rw [List.flatten_append, mode.accept_append, first.there, second.there]
    rfl

/-- Nothing that was told before stands in the way of a refusal. -/
theorem Error.Alike.after {first second : Error} (alike : Error.Alike mode raised others first second)
    (told : before.Told mode earlier kept left) :
    Error.Alike mode (before ++ raised) (earlier ++ others) first second := by
  cases alike with
  | same => exact .same _
  | refused alike here there =>
    refine .refused (told.alike.append alike) ?_ ?_
    · rw [List.flatten_append, mode.accept_append, told.here, here]
      rfl
    · rw [List.flatten_append, mode.accept_append, told.there, there]
      rfl

/-- Both placements are alike and leave the same extent. -/
def PlacedWithin (mode : ValidationMode) (raised others : Raised)
    (first second : Placement × Extent) : Prop :=
  first.1.Alike mode raised others second.1 ∧ second.2 = first.2

/-! ### Where no object overlaps several others -/

/-- The same is told. -/
theorem Raised.Told.eq_of_single (told : raised.Told mode others warnings later)
    (single : ∀ found ∈ raised, found.length ≤ 1) : later = warnings := by
  have there := told.there
  rw [told.alike.eq_of_single single, told.here] at there
  exact (Except.ok.inj there).symm

/-- The same error is given. -/
theorem Error.Alike.eq_of_single {first second : Error}
    (alike : Error.Alike mode raised others first second)
    (single : ∀ found ∈ raised, found.length ≤ 1) : second = first := by
  cases alike with
  | same => rfl
  | refused alike here there =>
    rw [alike.eq_of_single single, here] at there
    exact (Except.error.inj there).symm

end FactoryBlueprint
