import Mathlib.Data.List.Forall2
import Mathlib.Data.List.Induction
import Mathlib.Data.List.Nodup

/-! # Outcomes

When a computation that may fail succeeds, with what, and which of many is the one that fails.
-/

namespace FactoryBlueprint

section Except

variable {ε α β : Type}

theorem bind_eq_ok_iff {first : Except ε α} {next : α → Except ε β} {b : β} :
    first >>= next = .ok b ↔ ∃ a, first = .ok a ∧ next a = .ok b := by
  cases first with
  | error error => simp [bind, Except.bind]
  | ok a => simp [bind, Except.bind]

theorem bind_eq_error_iff {first : Except ε α} {next : α → Except ε β} {error : ε} :
    first >>= next = .error error ↔
      first = .error error ∨ ∃ a, first = .ok a ∧ next a = .error error := by
  cases first with
  | error error => simp [bind, Except.bind]
  | ok a => simp [bind, Except.bind]

theorem exists_ok_iff {outcome : Except ε α} :
    (∃ a, outcome = .ok a) ↔ ∀ error, outcome ≠ .error error := by
  cases outcome <;> simp

theorem exists_ok_of_isOk {outcome : Except ε α} (succeeds : outcome.isOk = true) :
    ∃ a, outcome = .ok a := by
  cases outcome with
  | error error => contradiction
  | ok a => exact ⟨a, rfl⟩

/-- All succeed if each does. -/
theorem mapM_eq_ok_iff {f : α → Except ε β} {as : List α} {bs : List β} :
    as.mapM f = .ok bs ↔ List.Forall₂ (fun a b => f a = .ok b) as bs := by
  induction as generalizing bs with
  | nil => simp [pure, Except.pure, eq_comm]
  | cons a as ih =>
    simp only [List.mapM_cons, bind_eq_ok_iff, ih, List.forall₂_cons_left_iff, pure, Except.pure,
      Except.ok.injEq]
    constructor
    · rintro ⟨b, here, bs, rest, rfl⟩
      exact ⟨b, bs, here, rest, rfl⟩
    · rintro ⟨b, bs, here, rest, rfl⟩
      exact ⟨b, here, bs, rest, rfl⟩

theorem mapM_ok_iff {f : α → Except ε β} {as : List α} :
    (∃ bs, as.mapM f = .ok bs) ↔ ∀ a ∈ as, ∃ b, f a = .ok b := by
  simp only [mapM_eq_ok_iff]
  induction as with
  | nil => simp
  | cons a as ih =>
    rw [List.forall_mem_cons, ← ih]
    constructor
    · rintro ⟨bs, paired⟩
      obtain ⟨b, rest, here, later, -⟩ := List.forall₂_cons_left_iff.mp paired
      exact ⟨⟨b, here⟩, rest, later⟩
    · rintro ⟨⟨b, here⟩, rest, later⟩
      exact ⟨b :: rest, .cons here later⟩

/-- The first that fails is the one that is reported. -/
theorem mapM_eq_error_iff {f : α → Except ε β} {as : List α} {error : ε} :
    as.mapM f = .error error ↔ ∃ before a after, as = before ++ a :: after ∧
      (∀ a ∈ before, ∃ b, f a = .ok b) ∧ f a = .error error := by
  induction as with
  | nil => simp [pure, Except.pure]
  | cons a as ih =>
    simp only [List.mapM_cons, bind_eq_error_iff, ih, pure, Except.pure, reduceCtorEq, and_false,
      exists_false, or_false]
    constructor
    · rintro (here | ⟨b, here, before, next, after, rfl, succeed, fails⟩)
      · exact ⟨[], a, as, rfl, by simp, here⟩
      · exact ⟨a :: before, next, after, rfl, List.forall_mem_cons.mpr ⟨⟨b, here⟩, succeed⟩, fails⟩
    · rintro ⟨before, next, after, eq, succeed, fails⟩
      cases before with
      | nil =>
        obtain ⟨rfl, rfl⟩ := List.cons.inj eq
        exact .inl fails
      | cons first before =>
        obtain ⟨rfl, rfl⟩ := List.cons.inj eq
        obtain ⟨⟨b, here⟩, rest⟩ := List.forall_mem_cons.mp succeed
        exact .inr ⟨b, here, before, next, after, rfl, rest, fails⟩

end Except

theorem mapM_congr {m : Type → Type} [Monad m] [LawfulMonad m] {α β : Type} {f g : α → m β}
    {as : List α} (same : ∀ a ∈ as, f a = g a) : as.mapM f = as.mapM g := by
  induction as with
  | nil => rfl
  | cons a as ih =>
    obtain ⟨here, later⟩ := List.forall_mem_cons.mp same
    rw [List.mapM_cons, List.mapM_cons, here, ih later]

theorem option_mapM_eq_some_iff {α β : Type} {f : α → Option β} {as : List α} {bs : List β} :
    as.mapM f = some bs ↔ List.Forall₂ (fun a b => f a = some b) as bs := by
  induction as generalizing bs with
  | nil => simp [eq_comm]
  | cons a as ih =>
    simp only [List.mapM_cons, Option.bind_eq_bind, Option.bind_eq_some_iff, ih,
      List.forall₂_cons_left_iff, Option.pure_def, Option.some.injEq]
    constructor
    · rintro ⟨b, here, bs, rest, rfl⟩
      exact ⟨b, bs, here, rest, rfl⟩
    · rintro ⟨b, bs, here, rest, rfl⟩
      exact ⟨b, here, bs, rest, rfl⟩

theorem option_mapM_isSome_iff {α β : Type} {f : α → Option β} {as : List α} :
    (as.mapM f).isSome ↔ ∀ a ∈ as, (f a).isSome := by
  induction as with
  | nil => simp
  | cons a as ih =>
    rw [List.forall_mem_cons, ← ih, List.mapM_cons]
    cases f a with
    | none => simp
    | some b => cases as.mapM f <;> simp

/-- Where nothing is left out, the places stay. -/
theorem getElem?_filterMap {α β : Type} {f : α → Option β} {as : List α}
    (all : ∀ a ∈ as, (f a).isSome) (i : Nat) : (as.filterMap f)[i]? = as[i]?.bind f := by
  induction as generalizing i with
  | nil => simp
  | cons a as ih =>
    obtain ⟨here, later⟩ := List.forall_mem_cons.mp all
    obtain ⟨b, made⟩ := Option.isSome_iff_exists.mp here
    rw [List.filterMap_cons_some made]
    cases i with
    | zero => simp [made]
    | succ i => simpa using ih later i

theorem length_filterMap {α β : Type} {f : α → Option β} {as : List α}
    (all : ∀ a ∈ as, (f a).isSome) : (as.filterMap f).length = as.length := by
  induction as with
  | nil => rfl
  | cons a as ih =>
    obtain ⟨here, later⟩ := List.forall_mem_cons.mp all
    obtain ⟨b, made⟩ := Option.isSome_iff_exists.mp here
    rw [List.filterMap_cons_some made, List.length_cons, List.length_cons, ih later]

/-- Lists are paired if they are equally long and paired place by place. -/
theorem forall₂_iff_getElem? {α β : Type} {R : α → β → Prop} {as : List α} {bs : List β} :
    List.Forall₂ R as bs ↔
      as.length = bs.length ∧ ∀ (i : Nat) (a : α) (b : β), as[i]? = some a → bs[i]? = some b → R a b := by
  rw [List.forall₂_iff_get]
  refine and_congr_right fun _ => ⟨fun paired i a b inAs inBs => ?_, fun paired i inAs inBs => ?_⟩
  · obtain ⟨boundA, rfl⟩ := List.getElem?_eq_some_iff.mp inAs
    obtain ⟨boundB, rfl⟩ := List.getElem?_eq_some_iff.mp inBs
    exact paired i boundA boundB
  · exact paired i _ _ (List.getElem?_eq_getElem inAs) (List.getElem?_eq_getElem inBs)

section Numbered

variable {ε α β : Type} {f : α × Nat → Except ε β} {as : List α}

/-- Numbered in order, all succeed if each does with its number. -/
theorem zipIdx_mapM_eq_ok_iff {bs : List β} :
    as.zipIdx.mapM f = .ok bs ↔ as.length = bs.length ∧
      ∀ (i : Nat) (a : α) (b : β), as[i]? = some a → bs[i]? = some b → f (a, i) = .ok b := by
  rw [mapM_eq_ok_iff, forall₂_iff_getElem?, List.length_zipIdx]
  refine and_congr_right fun _ => ⟨fun each i a b inAs inBs => ?_, fun each i a b inAs inBs => ?_⟩
  · exact each i (a, i) b (by simp [List.getElem?_zipIdx, inAs]) inBs
  · rw [List.getElem?_zipIdx, Nat.zero_add] at inAs
    obtain ⟨a, there, rfl⟩ := Option.map_eq_some_iff.mp inAs
    exact each i a b there inBs

/-- What succeeds with numbers pairs each with its outcome. -/
theorem forall₂_of_zipIdx_mapM {bs : List β} (done : as.zipIdx.mapM f = .ok bs) :
    List.Forall₂ (fun a b => ∃ i, f (a, i) = .ok b) as bs := by
  obtain ⟨length, each⟩ := zipIdx_mapM_eq_ok_iff.mp done
  exact forall₂_iff_getElem?.mpr ⟨length, fun i a b inAs inBs => ⟨i, each i a b inAs inBs⟩⟩

theorem zipIdx_mapM_ok_iff :
    (∃ bs, as.zipIdx.mapM f = .ok bs) ↔ ∀ (i : Nat) (a : α), as[i]? = some a →
      ∃ b, f (a, i) = .ok b := by
  rw [mapM_ok_iff]
  refine ⟨fun each i a inAs => ?_, fun each => ?_⟩
  · exact each (a, i) (List.mem_iff_getElem?.mpr ⟨i, by simp [List.getElem?_zipIdx, inAs]⟩)
  · rintro ⟨a, i⟩ mem
    exact each i a (List.mk_mem_zipIdx_iff_getElem?.mp mem)

/-- Numbered in order, the first that fails is the one that is reported. -/
theorem zipIdx_mapM_eq_error_iff {error : ε} :
    as.zipIdx.mapM f = .error error ↔ ∃ (i : Nat) (a : α), as[i]? = some a ∧
      f (a, i) = .error error ∧ ∀ j < i, ∀ a : α, as[j]? = some a → ∃ b, f (a, j) = .ok b := by
  rw [mapM_eq_error_iff]
  constructor
  · rintro ⟨before, ⟨a, n⟩, after, eq, succeed, fails⟩
    have here : as.zipIdx[before.length]? = some (a, n) := by simp [eq]
    rw [List.getElem?_zipIdx, Nat.zero_add] at here
    obtain ⟨_, inAs, same⟩ := Option.map_eq_some_iff.mp here
    obtain ⟨rfl, rfl⟩ := Prod.mk.inj same
    refine ⟨before.length, _, inAs, fails, fun j less a inAs => succeed (a, j) ?_⟩
    have there : as.zipIdx[j]? = some (a, j) := by simp [List.getElem?_zipIdx, inAs]
    rw [eq, List.getElem?_append_left less] at there
    exact List.mem_of_getElem? there
  · rintro ⟨i, a, inAs, fails, succeed⟩
    have here : as.zipIdx[i]? = some (a, i) := by simp [List.getElem?_zipIdx, inAs]
    obtain ⟨bound, at_i⟩ := List.getElem?_eq_some_iff.mp here
    refine ⟨as.zipIdx.take i, (a, i), as.zipIdx.drop (i + 1), ?_, ?_, fails⟩
    · rw [← at_i, List.getElem_cons_drop, List.take_append_drop]
    · rintro ⟨b, j⟩ mem
      obtain ⟨k, inTake⟩ := List.mem_iff_getElem?.mp mem
      rw [List.getElem?_take] at inTake
      split at inTake
      · rename_i less
        rw [List.getElem?_zipIdx, Nat.zero_add] at inTake
        obtain ⟨_, inAs, same⟩ := Option.map_eq_some_iff.mp inTake
        obtain ⟨rfl, rfl⟩ := Prod.mk.inj same
        exact succeed k less _ inAs
      · contradiction

end Numbered

/-- What pairs two lists through a third is found in its order. -/
theorem exists_middle {α β γ : Type} {R : α → γ → Prop} {S : β → γ → Prop} {as : List α}
    {bs : List β} (paired : List.Forall₂ (fun a b => ∃ c, R a c ∧ S b c) as bs) :
    ∃ cs, List.Forall₂ R as cs ∧ List.Forall₂ S bs cs := by
  induction paired with
  | nil => exact ⟨[], .nil, .nil⟩
  | cons here _ ih =>
    obtain ⟨c, first, second⟩ := here
    obtain ⟨cs, firsts, seconds⟩ := ih
    exact ⟨c :: cs, .cons first firsts, .cons second seconds⟩

/-- What is on the left of a pairing is paired. -/
theorem exists_of_mem_left {α β : Type} {R : α → β → Prop} {as : List α} {bs : List β}
    (paired : List.Forall₂ R as bs) {a : α} (mem : a ∈ as) : ∃ b ∈ bs, R a b := by
  induction paired with
  | nil => exact absurd mem List.not_mem_nil
  | cons here _ ih =>
    rcases List.mem_cons.mp mem with rfl | later
    · exact ⟨_, List.mem_cons_self, here⟩
    · obtain ⟨b, inRest, related⟩ := ih later
      exact ⟨b, List.mem_cons_of_mem _ inRest, related⟩

/-- What is on the right of a pairing is paired. -/
theorem exists_of_mem_right {α β : Type} {R : α → β → Prop} {as : List α} {bs : List β}
    (paired : List.Forall₂ R as bs) {b : β} (mem : b ∈ bs) : ∃ a ∈ as, R a b := by
  induction paired with
  | nil => exact absurd mem List.not_mem_nil
  | cons here _ ih =>
    rcases List.mem_cons.mp mem with rfl | later
    · exact ⟨_, List.mem_cons_self, here⟩
    · obtain ⟨a, inRest, related⟩ := ih later
      exact ⟨a, List.mem_cons_of_mem _ inRest, related⟩

/-- What holds of each on the left as of its partner holds of all as of all partners. -/
theorem forall_mem_iff_of_forall₂ {α β : Type} {P : α → Prop} {Q : β → Prop} {as : List α}
    {bs : List β} (paired : List.Forall₂ (fun a b => P a ↔ Q b) as bs) :
    (∀ a ∈ as, P a) ↔ ∀ b ∈ bs, Q b := by
  induction paired with
  | nil => simp
  | cons here _ ih => rw [List.forall_mem_cons, List.forall_mem_cons, here, ih]

/-- Lists that are paired with the same list are paired with each other. -/
theorem forall₂_through {α β γ : Type} {R : α → γ → Prop} {S : β → γ → Prop} {as : List α}
    {bs : List β} {cs : List γ} (first : List.Forall₂ R as cs) (second : List.Forall₂ S bs cs) :
    List.Forall₂ (fun a b => ∃ c, R a c ∧ S b c) as bs := by
  induction first generalizing bs with
  | nil =>
    cases second
    exact .nil
  | cons here _ ih =>
    cases second with
    | cons there later => exact .cons ⟨_, here, there⟩ (ih later)

/-- What is found for each place makes a list. -/
theorem exists_list {γ : Type} {P : Nat → γ → Prop} (n : Nat) (each : ∀ i < n, ∃ c, P i c) :
    ∃ cs : List γ, cs.length = n ∧ ∀ (i : Nat) (c : γ), cs[i]? = some c → P i c := by
  choose c found using each
  refine ⟨List.ofFn fun i : Fin n => c i i.isLt, List.length_ofFn, fun i d here => ?_⟩
  obtain ⟨bound, rfl⟩ := List.getElem?_eq_some_iff.mp here
  rw [List.length_ofFn] at bound
  rw [List.getElem_ofFn]
  exact found i bound

/-! ### Passes over entries

A pass takes entries one after another and stops at the first that offends, by itself or against
those before it. What a pass that succeeds leaves is an old table with the entries on top of it.
-/

section Each

variable {α β : Type} {P Q : List α → α → Prop} {entries : List α} {entry : α}

/-- Something holds of each entry together with those before it. -/
def EachAfter (P : List α → α → Prop) (entries : List α) : Prop :=
  ∀ before entry after, entries = before ++ entry :: after → P before entry

/-- A place in a list that was added to is the last one or one that it had. -/
theorem concat_eq_append_cons_iff {before after : List α} {other : α} :
    entries ++ [entry] = before ++ other :: after ↔
      (entries = before ∧ entry = other ∧ after = []) ∨
        ∃ rest, entries = before ++ other :: rest ∧ after = rest ++ [entry] := by
  constructor
  · intro eq
    rcases List.eq_nil_or_concat after with rfl | ⟨rest, final, rfl⟩
    · obtain ⟨same, last⟩ := List.append_inj' eq rfl
      exact .inl ⟨same, (List.cons.inj last).1, rfl⟩
    · have shifted : entries ++ [entry] = (before ++ other :: rest) ++ [final] := by simpa using eq
      obtain ⟨same, last⟩ := List.append_inj' shifted rfl
      exact .inr ⟨rest, same, by rw [(List.cons.inj last).1, List.concat_eq_append]⟩
  · rintro (⟨rfl, rfl, rfl⟩ | ⟨rest, rfl, rfl⟩)
    · rfl
    · simp

theorem eachAfter_nil : EachAfter P [] := fun before entry after eq => by
  cases before <;> contradiction

theorem eachAfter_concat_iff :
    EachAfter P (entries ++ [entry]) ↔ EachAfter P entries ∧ P entries entry := by
  constructor
  · intro each
    refine ⟨fun before other after eq => ?_, each entries entry [] rfl⟩
    exact each before other (after ++ [entry]) (concat_eq_append_cons_iff.mpr (.inr ⟨after, eq, rfl⟩))
  · rintro ⟨each, last⟩ before other after eq
    obtain ⟨rfl, rfl, -⟩ | ⟨rest, eq, -⟩ := concat_eq_append_cons_iff.mp eq
    · exact last
    · exact each before other rest eq

theorem eachAfter_congr (same : ∀ before, ∀ entry ∈ entries, P before entry ↔ Q before entry) :
    EachAfter P entries ↔ EachAfter Q entries := by
  refine forall_congr' fun before => forall_congr' fun entry => forall_congr' fun after => ?_
  refine imp_congr_right fun split => same before entry ?_
  rw [split]
  exact List.mem_append_right before List.mem_cons_self

theorem eachAfter_and_iff :
    EachAfter (fun before entry => P before entry ∧ Q before entry) entries ↔
      EachAfter P entries ∧ EachAfter Q entries :=
  ⟨fun both => ⟨fun before entry after split => (both before entry after split).1,
      fun before entry after split => (both before entry after split).2⟩,
    fun ⟨left, right⟩ before entry after split =>
      ⟨left before entry after split, right before entry after split⟩⟩

theorem eachAfter_forall_mem_iff {R : α → Prop} :
    EachAfter (fun _ entry => R entry) entries ↔ ∀ entry ∈ entries, R entry := by
  constructor
  · intro each entry mem
    obtain ⟨before, after, split⟩ := List.append_of_mem mem
    exact each before entry after split
  · rintro each before entry after rfl
    exact each entry (List.mem_append_right before List.mem_cons_self)

/-- Each is new among those before it exactly if all differ. -/
theorem eachAfter_notMem_map_iff {f : α → β} :
    EachAfter (fun before entry => f entry ∉ before.map f) entries ↔ (entries.map f).Nodup := by
  induction entries using List.reverseRecOn with
  | nil => exact iff_of_true eachAfter_nil List.nodup_nil
  | append_singleton entries entry ih =>
    rw [eachAfter_concat_iff, ih, List.map_append, List.map_singleton, ← List.concat_eq_append,
      List.nodup_concat, and_comm]

end Each

section Offences

variable {σ α ε : Type} {step : σ → α → Except ε σ} {offends : List α → α → ε → Prop}
  {start : σ} {entries : List α} {entry : α} {error : ε}

/-- No entry offends. -/
def Clean (offends : List α → α → ε → Prop) (entries : List α) : Prop :=
  EachAfter (fun before entry => ∀ error, ¬ offends before entry error) entries

/-- The error is that of the first entry that offends. -/
def FirstOffence (offends : List α → α → ε → Prop) (entries : List α) (error : ε) : Prop :=
  ∃ before entry after, entries = before ++ entry :: after ∧ Clean offends before ∧
    offends before entry error

theorem not_firstOffence_nil : ¬ FirstOffence offends [] error := by
  rintro ⟨before, entry, after, eq, -⟩
  cases before <;> contradiction

theorem firstOffence_concat_iff :
    FirstOffence offends (entries ++ [entry]) error ↔
      FirstOffence offends entries error ∨ Clean offends entries ∧ offends entries entry error := by
  constructor
  · rintro ⟨before, other, after, eq, clean, offence⟩
    obtain ⟨rfl, rfl, -⟩ | ⟨rest, eq, -⟩ := concat_eq_append_cons_iff.mp eq
    · exact .inr ⟨clean, offence⟩
    · exact .inl ⟨before, other, rest, eq, clean, offence⟩
  · rintro (⟨before, other, rest, eq, clean, offence⟩ | ⟨clean, offence⟩)
    · exact ⟨before, other, rest ++ [entry], concat_eq_append_cons_iff.mpr (.inr ⟨rest, eq, rfl⟩),
        clean, offence⟩
    · exact ⟨entries, entry, [], rfl, clean, offence⟩

/-- After every part of the entries, a step fails exactly if its entry offends. -/
def StopsAt (step : σ → α → Except ε σ) (offends : List α → α → ε → Prop) (start : σ)
    (entries : List α) : Prop :=
  EachAfter (fun before entry => ∀ state, before.foldlM step start = .ok state →
    ∀ error, step state entry = .error error ↔ offends before entry error) entries

theorem foldlM_concat (entries : List α) (entry : α) :
    (entries ++ [entry]).foldlM step start =
      entries.foldlM step start >>= fun state => step state entry := by
  simp [List.foldlM_append]

theorem StopsAt.foldlM_ok_iff (stops : StopsAt step offends start entries) :
    (∃ final, entries.foldlM step start = .ok final) ↔ Clean offends entries := by
  induction entries using List.reverseRecOn with
  | nil => exact iff_of_true ⟨start, rfl⟩ eachAfter_nil
  | append_singleton entries entry ih =>
    obtain ⟨earlier, here⟩ := eachAfter_concat_iff.mp stops
    rw [Clean, eachAfter_concat_iff, ← Clean, ← ih earlier, foldlM_concat]
    constructor
    · rintro ⟨final, done⟩
      obtain ⟨state, reached, last⟩ := bind_eq_ok_iff.mp done
      refine ⟨⟨state, reached⟩, fun error offence => ?_⟩
      rw [(here state reached error).mpr offence] at last
      contradiction
    · rintro ⟨⟨state, reached⟩, inoffensive⟩
      obtain ⟨final, last⟩ := exists_ok_iff.mpr fun error failed =>
        inoffensive error ((here state reached error).mp failed)
      exact ⟨final, bind_eq_ok_iff.mpr ⟨state, reached, last⟩⟩

theorem StopsAt.foldlM_eq_error_iff (stops : StopsAt step offends start entries) :
    entries.foldlM step start = .error error ↔ FirstOffence offends entries error := by
  induction entries using List.reverseRecOn with
  | nil => exact iff_of_false nofun not_firstOffence_nil
  | append_singleton entries entry ih =>
    obtain ⟨earlier, here⟩ := eachAfter_concat_iff.mp stops
    rw [firstOffence_concat_iff, ← ih earlier, ← StopsAt.foldlM_ok_iff earlier, foldlM_concat,
      bind_eq_error_iff]
    refine or_congr_right ⟨?_, ?_⟩
    · rintro ⟨state, reached, failed⟩
      exact ⟨⟨state, reached⟩, (here state reached error).mp failed⟩
    · rintro ⟨⟨state, reached⟩, offence⟩
      exact ⟨state, reached, (here state reached error).mpr offence⟩

end Offences

section Layers

variable {σ α β ε : Type} {step : σ → α → Except ε σ} {start final : σ} {entries : List α}

/-- What no step changes is as it was at the start. -/
theorem foldlM_keeps (look : σ → β)
    (keeps : ∀ {state entry next}, step state entry = .ok next → look next = look state)
    (done : entries.foldlM step start = .ok final) : look final = look start := by
  induction entries generalizing start with
  | nil => rw [Except.ok.inj done]
  | cons entry entries ih =>
    rw [List.foldlM_cons] at done
    obtain ⟨next, first, rest⟩ := bind_eq_ok_iff.mp done
    rw [ih rest, keeps first]

/-- Where each step takes the name of its entry, all of their names are taken at the end. -/
theorem foldlM_takes (name : α → String) (taken : σ → String → Prop)
    (takes : ∀ {state entry next}, step state entry = .ok next →
      ∀ text, taken next text ↔ text = name entry ∨ taken state text)
    (done : entries.foldlM step start = .ok final) (text : String) :
    taken final text ↔ text ∈ entries.map name ∨ taken start text := by
  induction entries generalizing start with
  | nil => simp [← Except.ok.inj done]
  | cons entry entries ih =>
    rw [List.foldlM_cons] at done
    obtain ⟨next, first, rest⟩ := bind_eq_ok_iff.mp done
    rw [ih rest, takes first, List.map_cons, List.mem_cons, or_left_comm, ← or_assoc]

/-- What each entry describes is found under its name, and under any other name what was found
before. -/
structure Overlays (name : α → String) (describes : α → β → Prop) (entries : List α)
    (old new : String → Option β) : Prop where
  listed : ∀ entry ∈ entries, ∃ made, describes entry made ∧ new (name entry) = some made
  other : ∀ text ∉ entries.map name, new text = old text

theorem foldlM_overlays {name : α → String} {describes : α → β → Prop} (look : σ → String → Option β)
    (puts : ∀ {state entry next}, entry ∈ entries → step state entry = .ok next →
      ∃ made, describes entry made ∧
        ∀ text, look next text = if text = name entry then some made else look state text)
    (distinct : (entries.map name).Nodup) (done : entries.foldlM step start = .ok final) :
    Overlays name describes entries (look start) (look final) := by
  induction entries generalizing start with
  | nil =>
    cases done
    exact ⟨nofun, fun _ _ => rfl⟩
  | cons entry entries ih =>
    rw [List.foldlM_cons] at done
    obtain ⟨next, first, rest⟩ := bind_eq_ok_iff.mp done
    obtain ⟨made, described, put⟩ := puts List.mem_cons_self first
    obtain ⟨fresh, distinct⟩ := List.nodup_cons.mp distinct
    obtain ⟨listed, other⟩ := ih (fun mem => puts (List.mem_cons_of_mem entry mem)) distinct rest
    refine ⟨List.forall_mem_cons.mpr ⟨⟨made, described, ?_⟩, listed⟩, fun text absent => ?_⟩
    · rw [other _ fresh, put, if_pos rfl]
    · obtain ⟨differs, later⟩ := List.ne_and_not_mem_of_not_mem_cons absent
      rw [other text later, put, if_neg differs]

end Layers
end FactoryBlueprint
