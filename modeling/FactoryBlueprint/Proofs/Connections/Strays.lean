import FactoryBlueprint.Proofs.RoundTrip.Wires

/-! # Which number is reported

A record of wires tells numbers at places: terminal by terminal, colour by colour and in the order of
each list (`ConnectionsRecord.numbers`). They are looked up in this order, so that the first one that
is no entity's is reported, with its place (`Numbering.reports_resolveConnections`).
-/

namespace FactoryBlueprint

instance (count number : Nat) : Decidable (IsNumber count number) :=
  decidable_of_iff (0 < number ∧ number ≤ count)
    ⟨fun both => ⟨both.1, both.2⟩, fun is => ⟨is.positive, is.bound⟩⟩

/-- Places, each with a number, below another place. -/
def under (place : String) (numbers : List (String × Nat)) : List (String × Nat) :=
  numbers.map fun entry => (place ++ entry.1, entry.2)

/-- Numbers at their places in a list. -/
def atPlaces (numbers : List Nat) : List (String × Nat) :=
  numbers.zipIdx.map fun entry => (s!"[{entry.2}]", entry.1)

/-- The numbers of the far ends in a record with their places, in the order of reading. -/
def ConnectionsRecord.numbers (record : ConnectionsRecord) : List (String × Nat) :=
  (CircuitSide.all.flatMap fun side => under ("." ++ side.key) <|
    WireColor.all.flatMap fun color => under ("." ++ color.name) <|
      atPlaces ((record.circuitEnds side color).map (·.target))) ++
  CopperSide.all.flatMap fun side => under ("." ++ side.key) <|
    atPlaces ((record.copperEnds side).map (·.target))

namespace Numbering

variable {numbering : Numbering} {path place : String} {numbers more : List (String × Nat)}
  {α β : Type}

/-- No entity has the number. -/
def isStray (numbering : Numbering) (number : Nat) : Bool :=
  number == 0 || numbering.keys.length < number

/-- The first number that is no entity's, with its place. -/
def stray? (numbering : Numbering) (numbers : List (String × Nat)) : Option (String × Nat) :=
  numbers.find? fun entry => numbering.isStray entry.2

/-- What comes of looking up numbers at places below `path`: it succeeds if all are those of entities,
and otherwise the first that is none is reported. -/
inductive Reports (numbering : Numbering) (path : String) (numbers : List (String × Nat)) :
    Except Error α → Prop
  | all (a : α) (found : numbering.stray? numbers = none) : Reports numbering path numbers (.ok a)
  | first {place : String} {number : Nat} (found : numbering.stray? numbers = some (place, number)) :
    Reports numbering path numbers
      (.error (.located (path ++ place) (.noSuchEntity number numbering.keys.length)))

theorem isStray_eq_false_iff {number : Nat} :
    numbering.isStray number = false ↔ IsNumber numbering.keys.length number := by
  rw [isStray, Bool.or_eq_false_iff, beq_eq_false_iff_ne, decide_eq_false_iff_not, Nat.not_lt]
  exact ⟨fun both => ⟨Nat.pos_of_ne_zero both.1, both.2⟩,
    fun is => ⟨Nat.ne_of_gt is.positive, is.bound⟩⟩

theorem stray?_eq_none_iff : numbering.stray? numbers = none ↔
    ∀ entry ∈ numbers, IsNumber numbering.keys.length entry.2 := by
  simp only [stray?, List.find?_eq_none, Bool.not_eq_true, isStray_eq_false_iff]

theorem stray?_append : numbering.stray? (numbers ++ more) =
    (numbering.stray? numbers).or (numbering.stray? more) :=
  List.find?_append

theorem stray?_under : numbering.stray? (under place numbers) =
    (numbering.stray? numbers).map fun entry => (place ++ entry.1, entry.2) :=
  List.find?_map ..

theorem stray?_of_first {number : Nat}
    (known : ∀ entry ∈ numbers, IsNumber numbering.keys.length entry.2)
    (stray : ¬ IsNumber numbering.keys.length number) :
    numbering.stray? (numbers ++ (place, number) :: more) = some (place, number) := by
  have reported : numbering.isStray number = true := by
    rwa [← Bool.not_eq_false, isStray_eq_false_iff]
  rw [stray?_append, stray?_eq_none_iff.mpr known, Option.none_or]
  exact List.find?_cons_of_pos reported

namespace Reports

/-- The outcome of what comes next counts if there is nothing to report before. -/
theorem prepend {outcome : Except Error α} (found : numbering.stray? numbers = none)
    (reports : numbering.Reports path more outcome) :
    numbering.Reports path (numbers ++ more) outcome := by
  have same : numbering.stray? (numbers ++ more) = numbering.stray? more := by
    rw [stray?_append, found, Option.none_or]
  cases reports with
  | all a later => exact .all a (same.trans later)
  | first later => exact .first (same.trans later)

theorem bind {outcome : Except Error α} {next : α → Except Error β}
    (here : numbering.Reports path numbers outcome)
    (later : ∀ a, numbering.Reports path more (next a)) :
    numbering.Reports path (numbers ++ more) (outcome >>= next) := by
  cases here with
  | all a found => exact (later a).prepend found
  | first found => exact .first (by rw [stray?_append, found, Option.some_or])

theorem pure (a : α) : numbering.Reports path [] (.ok a) := .all a rfl

theorem map {outcome : Except Error α} (here : numbering.Reports path numbers outcome) (f : α → β) :
    numbering.Reports path numbers (outcome >>= fun a => .ok (f a)) := by
  have both := here.bind fun a => .pure (f a)
  rwa [List.append_nil] at both

theorem below {outcome : Except Error α}
    (reports : numbering.Reports (path ++ place) numbers outcome) :
    numbering.Reports path (under place numbers) outcome := by
  cases reports with
  | all a found => exact .all a (by rw [stray?_under, found]; rfl)
  | @first inner number found =>
    rw [String.append_assoc]
    exact .first (by rw [stray?_under, found]; rfl)

theorem mapM {f : α → Except Error β} {told : α → List (String × Nat)} (as : List α)
    (each : ∀ a, numbering.Reports path (told a) (f a)) :
    numbering.Reports path (as.flatMap told) (as.mapM f) := by
  induction as with
  | nil => exact .pure []
  | cons a as ih =>
    rw [List.mapM_cons, List.flatMap_cons]
    exact (each a).bind fun b => ih.map (b :: ·)

/-- It succeeds if all numbers are those of entities. -/
theorem exists_ok_iff {outcome : Except Error α} (reports : numbering.Reports path numbers outcome) :
    (∃ a, outcome = .ok a) ↔ ∀ entry ∈ numbers, IsNumber numbering.keys.length entry.2 := by
  rw [← stray?_eq_none_iff]
  cases reports with
  | all a found => exact ⟨fun _ => found, fun _ => ⟨a, rfl⟩⟩
  | first found => simp [found]

theorem eq_error {outcome : Except Error α} {number : Nat}
    (reports : numbering.Reports path numbers outcome)
    (found : numbering.stray? numbers = some (place, number)) :
    outcome = .error (.located (path ++ place) (.noSuchEntity number numbering.keys.length)) := by
  cases reports with
  | all a none =>
    rw [none] at found
    contradiction
  | first same =>
    obtain ⟨rfl, rfl⟩ := Prod.mk.inj (Option.some.inj (same.symm.trans found))
    rfl

end Reports

theorem reports_resolve (numbering : Numbering) (path place : String) (number : Nat) :
    numbering.Reports path [(place, number)] (numbering.resolve (path ++ place) number) := by
  cases stray : numbering.isStray number with
  | false =>
    obtain ⟨association, names⟩ := exists_names (isStray_eq_false_iff.mp stray)
    rw [resolve_eq_ok_iff.mpr names]
    exact .all association (List.find?_cons_of_neg (by simp [stray]))
  | true =>
    have unnamed : numbering.association? number = none := by
      refine Option.eq_none_iff_forall_ne_some.mpr fun association found => ?_
      have is := (association?_eq_some_iff.mp found).isNumber
      rw [isStray_eq_false_iff.mpr is] at stray
      contradiction
    rw [resolve, unnamed]
    exact .first (List.find?_cons_of_pos stray)

theorem reports_resolveAll (numbering : Numbering) (path : String) (numbers : List Nat) :
    numbering.Reports path (atPlaces numbers) (numbering.resolveAll path numbers) := by
  rw [atPlaces, List.map_eq_flatMap, resolveAll]
  refine Reports.mapM numbers.zipIdx fun entry => ?_
  have step := numbering.reports_resolve path s!"[{entry.2}]" entry.1
  simpa [toString, String.append_assoc] using step

theorem reports_resolveEntry (numbering : Numbering) (path : String)
    (ends : Option (List (WireEnd Nat))) :
    numbering.Reports path (atPlaces ((ends.getD []).map (·.target)))
      (numbering.resolveEntry path ends) :=
  (numbering.reports_resolveAll path _).map _

theorem reports_resolveCircuit (numbering : Numbering) (path : String)
    (record : Option CircuitRecord) :
    numbering.Reports path
      (WireColor.all.flatMap fun color => under ("." ++ color.name) <|
        atPlaces (((record.getD .empty).ends color).map (·.target)))
      (numbering.resolveCircuit path record) := by
  have red := (numbering.reports_resolveEntry (path ++ ".red")
    (record.getD .empty).red).below
  have green := (numbering.reports_resolveEntry (path ++ ".green")
    (record.getD .empty).green).below
  exact red.bind fun red => green.bind fun green => .pure (⟨red, green⟩ : CircuitEntries)

/-- The wires of an entity are read, or the first number that is no entity's is reported. -/
theorem reports_resolveConnections (numbering : Numbering) (path : String)
    (record : ConnectionsRecord) :
    numbering.Reports path record.numbers (numbering.resolveConnections path record) := by
  have input := (numbering.reports_resolveCircuit (path ++ ".1") record.input).below
  have output := (numbering.reports_resolveCircuit (path ++ ".2") record.output).below
  have left := (numbering.reports_resolveEntry (path ++ ".Cu0")
    record.copperLeft).below
  have right := (numbering.reports_resolveEntry (path ++ ".Cu1")
    record.copperRight).below
  have all := input.bind fun input => output.bind fun output => left.bind fun left =>
    right.bind fun right => .pure (⟨input, output, left, right⟩ : Connections)
  simp only [ConnectionsRecord.numbers, CircuitSide.all, CopperSide.all, List.flatMap_cons,
    List.flatMap_nil, List.append_nil, List.append_assoc] at all ⊢
  exact all

end Numbering
end FactoryBlueprint
