import FactoryBlueprint.Entity.Record
import FactoryBlueprint.Proofs.Connections.Numbering

/-! # From numbers to associations and back

What references are read into, and that they are written as the numbers they were read from. Only a
far end that is listed again is dropped.
-/

namespace FactoryBlueprint

namespace Distinct

variable {α β : Type} [DecidableEq α] [DecidableEq β]

/-- Pairings that lead from one to one drop the same repetitions on both sides. -/
theorem forall₂_addAll {R : α → β → Prop}
    (oneToOne : ∀ a b a' b', R a b → R a' b' → (a = a' ↔ b = b')) {as others : List α}
    {bs more : List β} (first : List.Forall₂ R as bs) (second : List.Forall₂ R others more) :
    List.Forall₂ R (addAll as others) (addAll bs more) := by
  induction second generalizing as bs with
  | nil => exact first
  | @cons a b others more here _ ih =>
    have same : a ∈ as ↔ b ∈ bs := by
      constructor
      · intro mem
        obtain ⟨b', inBs, related⟩ := exists_of_mem_left first mem
        exact (oneToOne a b a b' here related).mp rfl ▸ inBs
      · intro mem
        obtain ⟨a', inAs, related⟩ := exists_of_mem_right first mem
        exact (oneToOne a b a' b here related).mpr rfl ▸ inAs
    refine ih ?_
    by_cases mem : a ∈ as
    · rw [add, add, if_pos mem, if_pos (same.mp mem)]
      exact first
    · rw [add, add, if_neg mem, if_neg (mem ∘ same.mpr)]
      exact List.rel_append first (.cons here .nil)

/-- Nothing is dropped from a list without repetition. -/
theorem addAll_nil_of_nodup {as : List α} (nodup : as.Nodup) : addAll [] as = as := by
  have general : ∀ before : List α, (before ++ as).Nodup → addAll before as = before ++ as := by
    clear nodup
    induction as with
    | nil => simp [addAll]
    | cons a rest ih =>
      intro before nodup
      have fresh : a ∉ before := fun mem =>
        (List.nodup_append'.mp nodup).2.2 mem List.mem_cons_self
      have step : addAll before (a :: rest) = addAll (add before a) rest := rfl
      rw [List.append_cons] at nodup ⊢
      rw [step, add, if_neg fresh]
      exact ih _ nodup
  exact general [] nodup

end Distinct

namespace Numbering

variable {numbering : Numbering}

/-- One number stands for one association. -/
theorem names_unique (nodup : numbering.keys.Nodup) {n m : Nat} {a b : Association}
    (first : numbering.Names n a) (second : numbering.Names m b) : a = b ↔ n = m := by
  constructor
  · rintro rfl
    have found := (number?_eq_some_iff nodup).mpr first
    rw [(number?_eq_some_iff nodup).mpr second] at found
    exact (Option.some.inj found).symm
  · rintro rfl
    have found := association?_eq_some_iff.mpr first
    rw [association?_eq_some_iff.mpr second] at found
    exact (Option.some.inj found).symm

theorem namesEnd_unique (nodup : numbering.keys.Nodup) (a : WireEnd Association) (n : WireEnd Nat)
    (b : WireEnd Association) (m : WireEnd Nat) (first : numbering.NamesEnd a n)
    (second : numbering.NamesEnd b m) : a = b ↔ n = m := by
  obtain ⟨a, t⟩ := a
  obtain ⟨b, u⟩ := b
  obtain ⟨n, v⟩ := n
  obtain ⟨m, w⟩ := m
  obtain ⟨names, rfl⟩ := first
  obtain ⟨also, rfl⟩ := second
  simp only [WireEnd.mk.injEq, names_unique nodup names also]

theorem resolve_eq_ok_iff {path : String} {number : Nat} {association : Association} :
    numbering.resolve path number = .ok association ↔ numbering.Names number association := by
  rw [← association?_eq_some_iff, resolve]
  cases numbering.association? number <;> simp

theorem resolveAll_eq_ok_iff {path : String} {numbers : List Nat}
    {associations : List Association} :
    numbering.resolveAll path numbers = .ok associations ↔
      List.Forall₂ (fun number association => numbering.Names number association)
        numbers associations := by
  simp only [resolveAll, zipIdx_mapM_eq_ok_iff, resolve_eq_ok_iff, forall₂_iff_getElem?]

/-- Far ends are read target by target. -/
theorem namesEnd_zip_iff {points : List (WireEnd Nat)} {fars : List (WireEnd Association)} :
    List.Forall₂ numbering.NamesEnd fars points ↔ ∃ targets,
      List.Forall₂ (fun number association => numbering.Names number association)
        (points.map (·.target)) targets ∧
      ((targets.zip points).map fun (target, far) => ⟨target, far.terminal⟩) = fars := by
  induction points generalizing fars with
  | nil => simp [eq_comm]
  | cons point points ih =>
    rw [List.forall₂_cons_right_iff]
    constructor
    · rintro ⟨far, rest, ⟨target, terminal⟩, later, rfl⟩
      obtain ⟨targets, named, rfl⟩ := ih.mp later
      refine ⟨far.target :: targets, .cons target named, ?_⟩
      simp only [List.zip_cons_cons, List.map_cons, terminal]
    · rintro ⟨targets, named, rfl⟩
      obtain ⟨target, rest, here, later, rfl⟩ := List.forall₂_cons_left_iff.mp named
      exact ⟨⟨target, point.terminal⟩, _, ⟨here, rfl⟩, ih.mpr ⟨rest, later, rfl⟩, rfl⟩

/-- Far ends are read one by one, each once. -/
theorem resolveEntry_eq_ok_iff {path : String} {ends : Option (List (WireEnd Nat))}
    {entry : WireEntry} :
    numbering.resolveEntry path ends = .ok entry ↔ ∃ all,
      List.Forall₂ numbering.NamesEnd all (ends.getD []) ∧
        entry.ends = Distinct.addAll [] all := by
  simp only [resolveEntry, bind_eq_ok_iff, resolveAll_eq_ok_iff, pure, Except.pure,
    Except.ok.injEq, namesEnd_zip_iff]
  constructor
  · rintro ⟨targets, named, rfl⟩
    exact ⟨_, ⟨targets, named, rfl⟩, WireEntry.ends_addAll _⟩
  · rintro ⟨_, ⟨targets, named, rfl⟩, same⟩
    refine ⟨targets, named, WireEntry.eq_of_ends ?_⟩
    rw [same, WireEntry.ends_addAll, WireEntry.ends_absent]

end Numbering

/-! ### Wires of an entity -/

namespace CircuitRecord

/-- The far ends of a colour, none where they are left out. -/
def ends (record : CircuitRecord) (color : WireColor) : List (WireEnd Nat) :=
  (record.points color).getD []

end CircuitRecord

namespace ConnectionsRecord

/-- The far ends of a colour at a terminal, none where they are left out. -/
def circuitEnds (record : ConnectionsRecord) (side : CircuitSide) (color : WireColor) :
    List (WireEnd Nat) :=
  ((record.circuit side).getD .empty).ends color

/-- The far ends of copper wires at a terminal, none where they are left out. -/
def copperEnds (record : ConnectionsRecord) (side : CopperSide) : List (WireEnd Nat) :=
  (record.copper side).getD []

theorem circuitEnds_ofPoints (circuit : CircuitSide → WireColor → List (WireEnd Nat))
    (copper : CopperSide → List (WireEnd Nat)) (side : CircuitSide) (color : WireColor) :
    (ofPoints circuit copper).circuitEnds side color = circuit side color := by
  have held : ((CircuitRecord.ofPoints? (circuit side)).getD .empty).ends color =
      circuit side color := by
    rw [CircuitRecord.ofPoints?]
    split
    · rename_i none
      simp only [CircuitRecord.empty, CircuitRecord.mk.injEq, Numbering.unlessEmpty_eq_none_iff]
        at none
      cases color with
      | red => exact none.1.symm
      | green => exact none.2.symm
    · cases color <;> exact Numbering.unlessEmpty_getD _
  cases side <;> exact held

theorem copperEnds_ofPoints (circuit : CircuitSide → WireColor → List (WireEnd Nat))
    (copper : CopperSide → List (WireEnd Nat)) (side : CopperSide) :
    (ofPoints circuit copper).copperEnds side = copper side := by
  cases side <;> exact Numbering.unlessEmpty_getD _

/-- The record with each far end once, and nothing where there are none. -/
def distinct (record : ConnectionsRecord) : ConnectionsRecord :=
  .ofPoints (fun side color => Distinct.addAll [] (record.circuitEnds side color))
    fun side => Distinct.addAll [] (record.copperEnds side)

end ConnectionsRecord

namespace Numbering

variable {numbering : Numbering}

theorem resolveCircuit_eq_ok_iff {path : String} {record : Option CircuitRecord}
    {circuit : CircuitEntries} :
    numbering.resolveCircuit path record = .ok circuit ↔ ∀ color, ∃ all,
      List.Forall₂ numbering.NamesEnd all ((record.getD .empty).ends color) ∧
        (circuit.entry color).ends = Distinct.addAll [] all := by
  simp only [resolveCircuit, bind_eq_ok_iff, resolveEntry_eq_ok_iff, pure, Except.pure,
    Except.ok.injEq]
  constructor
  · rintro ⟨red, reds, green, greens, rfl⟩ color
    cases color with
    | red => exact reds
    | green => exact greens
  · intro each
    exact ⟨circuit.red, each .red, circuit.green, each .green, rfl⟩

/-- Wires are read terminal by terminal. -/
theorem resolveConnections_eq_ok_iff {path : String} {record : ConnectionsRecord}
    {connections : Connections} :
    numbering.resolveConnections path record = .ok connections ↔
      (∀ side color, ∃ all,
        List.Forall₂ numbering.NamesEnd all (record.circuitEnds side color) ∧
          connections.circuit side color = Distinct.addAll [] all) ∧
      ∀ side, ∃ all, List.Forall₂ numbering.NamesEnd all (record.copperEnds side) ∧
        connections.copper side = Distinct.addAll [] all := by
  simp only [resolveConnections, bind_eq_ok_iff, resolveCircuit_eq_ok_iff, resolveEntry_eq_ok_iff,
    pure, Except.pure, Except.ok.injEq]
  constructor
  · rintro ⟨input, inputs, output, outputs, left, lefts, right, rights, rfl⟩
    refine ⟨fun side => ?_, fun side => ?_⟩
    · cases side with
      | input => exact inputs
      | output => exact outputs
    · cases side with
      | left => exact lefts
      | right => exact rights
  · rintro ⟨circuits, coppers⟩
    exact ⟨connections.input, circuits .input, connections.output, circuits .output,
      connections.copperLeft, coppers .left, connections.copperRight, coppers .right, rfl⟩

/-- Wires that were read are written as they were read, each far end once. -/
theorem connectionsRecord?_of_resolve (nodup : numbering.keys.Nodup) {path : String}
    {record : ConnectionsRecord} {connections : Connections}
    (resolved : numbering.resolveConnections path record = .ok connections) :
    numbering.connectionsRecord? connections = some record.distinct := by
  obtain ⟨circuits, coppers⟩ := resolveConnections_eq_ok_iff.mp resolved
  refine connectionsRecord?_eq_some_iff.mpr ⟨_, _, fun side color => ?_, fun side => ?_, rfl⟩
  · obtain ⟨all, named, same⟩ := circuits side color
    rw [same, numberEnds?_eq_some_iff nodup]
    exact Distinct.forall₂_addAll (namesEnd_unique nodup) .nil named
  · obtain ⟨all, named, same⟩ := coppers side
    rw [same, numberEnds?_eq_some_iff nodup]
    exact Distinct.forall₂_addAll (namesEnd_unique nodup) .nil named

/-- Neighbours that were read are written as they were read. -/
theorem mapM_number?_of_resolveAll (nodup : numbering.keys.Nodup) {path : String}
    {numbers : List Nat} {associations : List Association}
    (resolved : numbering.resolveAll path numbers = .ok associations) :
    associations.mapM numbering.number? = some numbers := by
  rw [option_mapM_eq_some_iff]
  exact (resolveAll_eq_ok_iff.mp resolved).flip.imp
    fun _ _ names => (number?_eq_some_iff nodup).mpr names

end Numbering
end FactoryBlueprint
