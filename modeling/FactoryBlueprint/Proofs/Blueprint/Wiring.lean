import FactoryBlueprint.Proofs.Blueprint.Effects
import FactoryBlueprint.Proofs.Connections.Terminals

/-! # What wiring does to entities

Wires are added and removed by edits of two entities (`modifyBoth_cases`) that touch nothing but wires
and neighbours, and by which an entity comes to refer to stored entities of its own list only
(`Wiring`, `rewired_apply`). A wire is only added where both ends can take it (`CircuitChecked`,
`CopperChecked`).
-/

namespace FactoryBlueprint

namespace Entity

/-- The entity has the terminal: an input always, an output by its kind. -/
def HasSide (entity : Entity) (table : PrototypeTable) (side : CircuitSide) : Prop :=
  side = .output → (entity.kind table).hasOutputSide = true

/-- The number by which wires to the entity tell its terminal. -/
def told (entity : Entity) (table : PrototypeTable) (side : CircuitSide) : Option Nat :=
  Blueprint.told (entity.kind table).hasOutputSide side

end Entity

namespace EntityList

variable {list middle after : EntityList} {f g : Entity → Entity}

/-- The association was made in the list and leads to an entity there. -/
def Leads (list : EntityList) (association : Association) : Prop :=
  ∃ key, (list.entity? key).isSome ∧ association = list.associate key

/-- An edit of wires by which an entity comes to refer to no more than entities of the list. -/
structure Wiring (list : EntityList) (f : Entity → Entity) : Prop where
  fixed : ∀ entity, (f entity).fixed = entity.fixed
  targets : ∀ entity, ∀ association ∈ (f entity).associations,
    association ∈ entity.associations ∨ list.Leads association

namespace Wiring

theorem same (list : EntityList) : Wiring list fun entity => entity := ⟨fun _ => rfl, fun _ _ => .inl⟩

theorem comp (second : Wiring list g) (first : Wiring list f) :
    Wiring list fun entity => g (f entity) where
  fixed entity := (second.fixed (f entity)).trans (first.fixed entity)
  targets entity association mem := by
    rcases second.targets (f entity) association mem with old | leads
    · exact first.targets entity association old
    · exact .inr leads

theorem editAt (wiring : Wiring list f) (key other : Key) : Wiring list (editAt key f other) := by
  by_cases here : other = key
  · subst here
    exact (editAt_self other f).symm ▸ wiring
  · have stays : EntityList.editAt key f other = fun entity => entity :=
      funext (editAt_of_ne here f)
    exact stays ▸ .same list

/-- Entities at a terminal lead to entities of the list if all that is added does. -/
theorem modifyCircuit {change : WireEntry → WireEntry}
    (within : ∀ entry : WireEntry, ∀ far ∈ (change entry).ends,
      far ∈ entry.ends ∨ list.Leads far.target)
    (side : CircuitSide) (color : WireColor) : Wiring list fun entity =>
      { entity with connections := entity.connections.modifyCircuit side color change } where
  fixed _ := rfl
  targets entity association mem := by
    simp only [Entity.associations, List.mem_append, Connections.mem_targets_iff,
      Connections.circuit_modifyCircuit, Connections.copper_modifyCircuit] at mem ⊢
    rcases mem with (⟨other, wire, far, here, rfl⟩ | copper) | neighbour
    · split at here
      · rename_i same
        obtain ⟨rfl, rfl⟩ := same
        refine (within _ far here).imp_left fun old => ?_
        exact .inl (.inl ⟨other, wire, far, old, rfl⟩)
      · exact .inl (.inl (.inl ⟨other, wire, far, here, rfl⟩))
    · exact .inl (.inl (.inr copper))
    · exact .inl (.inr neighbour)

theorem modifyCopper {change : WireEntry → WireEntry}
    (within : ∀ entry : WireEntry, ∀ far ∈ (change entry).ends,
      far ∈ entry.ends ∨ list.Leads far.target) (side : CopperSide) :
    Wiring list fun entity =>
      { entity with connections := entity.connections.modifyCopper side change } where
  fixed _ := rfl
  targets entity association mem := by
    simp only [Entity.associations, List.mem_append, Connections.mem_targets_iff,
      Connections.copper_modifyCopper, Connections.circuit_modifyCopper] at mem ⊢
    rcases mem with (circuit | ⟨other, far, here, rfl⟩) | neighbour
    · exact .inl (.inl (.inl circuit))
    · split at here
      · rename_i same
        subst same
        exact (within _ far here).imp_left fun old => .inl (.inr ⟨other, far, old, rfl⟩)
      · exact .inl (.inl (.inr ⟨other, far, here, rfl⟩))
    · exact .inl (.inr neighbour)

theorem neighbours {change : List Association → List Association}
    (within : ∀ old, ∀ association ∈ change old, association ∈ old ∨ list.Leads association) :
    Wiring list fun entity => { entity with neighbours := change entity.neighbours } where
  fixed _ := rfl
  targets entity association mem := by
    rcases List.mem_append.mp mem with wire | neighbour
    · exact .inl (List.mem_append_left _ wire)
    · exact (within _ association neighbour).imp_left (List.mem_append_right _)

end Wiring

/-- Wires, and nothing else, have been changed in the list. -/
def Rewired (list after : EntityList) : Prop :=
  ∃ edit, (∀ key, Wiring list (edit key)) ∧ Revised edit list after

namespace Rewired

theorem refl (list : EntityList) : Rewired list list :=
  ⟨fun _ entity => entity, fun _ => .same list, .of_same list fun _ _ _ => rfl⟩

/-- Rewired, a list holds entities under the same keys. -/
theorem leads_iff (rewired : Rewired list after) {association : Association} :
    after.Leads association ↔ list.Leads association := by
  obtain ⟨edit, -, revised⟩ := rewired
  simp only [Leads, revised.entity?_eq, Option.isSome_map, associate, revised.id]

theorem trans (first : Rewired list middle) (second : Rewired middle after) : Rewired list after := by
  have leads := @first.leads_iff
  obtain ⟨edit, wiring, revised⟩ := first
  obtain ⟨next, more, again⟩ := second
  refine ⟨_, fun key => ?_, revised.trans again⟩
  have last : Wiring list (next key) := ⟨(more key).fixed, fun entity association mem =>
    ((more key).targets entity association mem).imp_right leads.mp⟩
  exact last.comp (wiring key)

end Rewired

theorem Wiring.rewired {table : PrototypeTable} {key : Key} (wiring : Wiring list f)
    (modified : list.modify? table key f = some after) : Rewired list after :=
  ⟨EntityList.editAt key f, wiring.editAt key, revised_of_modify? modified⟩

end EntityList

namespace Blueprint

variable {blueprint : Blueprint}

/-- An edit of two entities: none if the first is not there, otherwise of both, or of those that are
there. -/
theorem modifyBoth_cases (a b : Key) (f g : Entity → Entity) :
    (blueprint.entities.entity? a = none ∧ (blueprint.modifyBoth a b f g).1 = blueprint) ∨
      EntityList.Revised
        (fun key entity => EntityList.editAt b g key (EntityList.editAt a f key entity))
        blueprint.entities (blueprint.modifyBoth a b f g).1.entities := by
  unfold modifyBoth
  cases first : blueprint.entities.modify? blueprint.table a f with
  | none => exact .inl ⟨EntityList.modify?_eq_none_iff.mp first, rfl⟩
  | some middle =>
    have revised := EntityList.revised_of_modify? first
    dsimp only
    cases second : middle.modify? blueprint.table b g with
    | none =>
      -- Nothing is under the second key, so its edit changes nothing.
      have missing := EntityList.modify?_eq_none_iff.mp second
      refine .inr (revised.trans (.of_same middle fun key entity found => ?_))
      refine EntityList.editAt_of_ne (fun same => ?_) g entity
      rw [same, missing] at found
      contradiction
    | some after => exact .inr (revised.trans (EntityList.revised_of_modify? second))

theorem rewired_modifyBoth (a b : Key) {f g : Entity → Entity}
    (first : blueprint.entities.Wiring f) (second : blueprint.entities.Wiring g) :
    blueprint.entities.Rewired (blueprint.modifyBoth a b f g).1.entities := by
  rcases blueprint.modifyBoth_cases a b f g with ⟨-, same⟩ | revised
  · exact same.symm ▸ .refl _
  · exact ⟨_, fun key => (second.editAt b key).comp (first.editAt a key), revised⟩

/-! ### Ends of wires -/

theorem endpoint_eq_ok_iff {key : Key} {endpoint : Endpoint} :
    blueprint.endpoint key = .ok endpoint ↔ endpoint.key = key ∧
      blueprint.entities.entity? key = some endpoint.entity ∧
      blueprint.entities.worldPosition? key = some endpoint.position := by
  unfold Blueprint.endpoint
  constructor
  · intro found
    split at found
    · rename_i stored world
      obtain rfl := Except.ok.inj found
      exact ⟨rfl, stored, world⟩
    · contradiction
  · rintro ⟨rfl, stored, world⟩
    rw [stored, world]

theorem entity?_of_endpoint {key : Key} {endpoint : Endpoint}
    (found : blueprint.endpoint key = .ok endpoint) :
    blueprint.entities.entity? key = some endpoint.entity :=
  (endpoint_eq_ok_iff.mp found).2.1

theorem leads_associate {key : Key} {entity : Entity}
    (stored : blueprint.entities.entity? key = some entity) :
    blueprint.entities.Leads (blueprint.entities.associate key) :=
  ⟨key, Option.isSome_of_eq_some stored, rfl⟩

theorem circuitReach_eq_ok {entity : Entity} {side : CircuitSide} {reach : Binary64} {both : Bool}
    (found : blueprint.circuitReach entity side = .ok (reach, both)) :
    both = (entity.kind blueprint.table).hasOutputSide ∧ entity.HasSide blueprint.table side := by
  unfold circuitReach at found
  cases known : blueprint.table.entity? entity.name with
  | none =>
    rw [known] at found
    contradiction
  | some prototype =>
    have kind : entity.kind blueprint.table = prototype.kind := by rw [Entity.kind, known]; rfl
    rw [known] at found
    dsimp only at found
    split at found
    · contradiction
    · split at found
      · contradiction
      · rename_i allowed
        obtain ⟨-, rfl⟩ := Prod.mk.inj (Except.ok.inj found)
        refine ⟨by rw [kind], fun output => ?_⟩
        rw [kind]
        simpa [output] using allowed

/-- A circuit wire passes the check if both ends are there, its terminals differ and take such wires,
and its length is accepted. -/
theorem checkCircuit_eq_ok_iff {a b : Key} {sideA sideB : CircuitSide}
    {toB toA : WireEnd Association} {warnings : List Warning} :
    blueprint.checkCircuit a b sideA sideB = .ok (toB, toA, warnings) ↔
      ∃ first second, blueprint.endpoint a = .ok first ∧ blueprint.endpoint b = .ok second ∧
        ¬(a = b ∧ sideA = sideB) ∧ ∃ reachA bothA reachB bothB,
          blueprint.circuitReach first.entity sideA = .ok (reachA, bothA) ∧
          blueprint.circuitReach second.entity sideB = .ok (reachB, bothB) ∧
          blueprint.lengthWarnings first.position second.position (min reachA reachB) =
            .ok warnings ∧
          toB = ⟨blueprint.entities.associate b, told bothB sideB⟩ ∧
          toA = ⟨blueprint.entities.associate a, told bothA sideA⟩ := by
  simp only [checkCircuit]
  constructor
  · intro checked
    obtain ⟨first, atA, checked⟩ := bind_eq_ok_iff.mp checked
    obtain ⟨second, atB, checked⟩ := bind_eq_ok_iff.mp checked
    split at checked
    · obtain ⟨_, refused, -⟩ := bind_eq_ok_iff.mp checked
      contradiction
    · rename_i apart
      simp only [bind_eq_ok_iff, pure, Except.pure, Except.ok.injEq, Prod.mk.injEq] at checked
      obtain ⟨⟨reachA, bothA⟩, knownA, ⟨reachB, bothB⟩, knownB, _, length, rfl, rfl, rfl⟩ := checked
      exact ⟨first, second, atA, atB, apart, reachA, bothA, reachB, bothB, knownA, knownB, length,
        rfl, rfl⟩
  · rintro ⟨first, second, atA, atB, apart, reachA, bothA, reachB, bothB, knownA, knownB, length,
      rfl, rfl⟩
    rw [bind_eq_ok_iff]
    refine ⟨first, atA, bind_eq_ok_iff.mpr ⟨second, atB, ?_⟩⟩
    rw [if_neg apart]
    exact bind_eq_ok_iff.mpr ⟨⟨reachA, bothA⟩, knownA, bind_eq_ok_iff.mpr
      ⟨⟨reachB, bothB⟩, knownB, bind_eq_ok_iff.mpr ⟨warnings, length, rfl⟩⟩⟩

/-- A circuit wire that passed the check: both ends are there and have the terminals. -/
structure CircuitChecked (blueprint : Blueprint) (a b : Key) (sideA sideB : CircuitSide)
    (toB toA : WireEnd Association) (first second : Entity) : Prop where
  storedA : blueprint.entities.entity? a = some first
  storedB : blueprint.entities.entity? b = some second
  apart : ¬(a = b ∧ sideA = sideB)
  hasA : first.HasSide blueprint.table sideA
  hasB : second.HasSide blueprint.table sideB
  toB : toB = ⟨blueprint.entities.associate b, second.told blueprint.table sideB⟩
  toA : toA = ⟨blueprint.entities.associate a, first.told blueprint.table sideA⟩

theorem circuitChecked_of_checkCircuit {a b : Key} {sideA sideB : CircuitSide}
    {toB toA : WireEnd Association} {warnings : List Warning}
    (checked : blueprint.checkCircuit a b sideA sideB = .ok (toB, toA, warnings)) :
    ∃ first second, blueprint.CircuitChecked a b sideA sideB toB toA first second := by
  obtain ⟨first, second, atA, atB, apart, _, bothA, _, bothB, reachA, reachB, -, rfl, rfl⟩ :=
    checkCircuit_eq_ok_iff.mp checked
  obtain ⟨rfl, sideA⟩ := circuitReach_eq_ok reachA
  obtain ⟨rfl, sideB⟩ := circuitReach_eq_ok reachB
  exact ⟨first.entity, second.entity, entity?_of_endpoint atA, entity?_of_endpoint atB, apart,
    sideA, sideB, rfl, rfl⟩

/-- A copper wire that passed the check: it leads from a power switch to a pole. -/
structure CopperChecked (blueprint : Blueprint) (switch pole : Key) (first second : Entity) :
    Prop where
  storedSwitch : blueprint.entities.entity? switch = some first
  storedPole : blueprint.entities.entity? pole = some second
  terminals : (first.kind blueprint.table).hasCopperTerminals = true
  isPole : second.kind blueprint.table = .electricPole

theorem copperChecked_of_checkCopper {switch pole : Key}
    (checked : blueprint.checkCopper switch pole = .ok ()) :
    ∃ first second, blueprint.CopperChecked switch pole first second := by
  simp only [checkCopper] at checked
  obtain ⟨first, atSwitch, checked⟩ := bind_eq_ok_iff.mp checked
  obtain ⟨second, atPole, checked⟩ := bind_eq_ok_iff.mp checked
  refine ⟨first.entity, second.entity, entity?_of_endpoint atSwitch, entity?_of_endpoint atPole,
    ?_, ?_⟩
  · by_contra none
    rw [if_pos (by simpa using none)] at checked
    obtain ⟨_, refused, -⟩ := bind_eq_ok_iff.mp checked
    contradiction
  · by_contra other
    split at checked
    · obtain ⟨_, refused, -⟩ := bind_eq_ok_iff.mp checked
      contradiction
    · contradiction

/-! ### Operations -/

/-- A far end that is added at a terminal leads to an entity if it does. -/
theorem within_add {far : WireEnd Association} (leads : blueprint.entities.Leads far.target)
    (entry : WireEntry) : ∀ other ∈ (entry.add far).ends,
      other ∈ entry.ends ∨ blueprint.entities.Leads other.target := by
  intro other mem
  rcases Distinct.mem_add.mp mem with old | rfl
  · exact .inl old
  · exact .inr leads

theorem within_remove {leads : Association → Prop} (leaves : WireEnd Association → Bool)
    (entry : WireEntry) :
    ∀ other ∈ (entry.remove leaves).ends, other ∈ entry.ends ∨ leads other.target := by
  intro other mem
  rw [WireEntry.ends_remove] at mem
  exact .inl (List.mem_of_mem_filter mem)

theorem within_filter {α : Type} {leads : α → Prop} (keep : α → Bool) (ends : List α) :
    ∀ other ∈ ends.filter keep, other ∈ ends ∨ leads other :=
  fun _ mem => .inl (List.mem_of_mem_filter mem)

theorem rewired_addCircuit (color : WireColor) (a b : Key) (sideA sideB : CircuitSide) :
    blueprint.entities.Rewired (blueprint.addCircuit color a b sideA sideB).1.entities := by
  unfold addCircuit
  split
  · exact .refl _
  · rename_i checked
    obtain ⟨first, second, checked⟩ := circuitChecked_of_checkCircuit checked
    refine rewired_modifyBoth a b (.modifyCircuit (within_add ?_) sideA color)
      (.modifyCircuit (within_add ?_) sideB color)
    · exact checked.toB ▸ leads_associate checked.storedB
    · exact checked.toA ▸ leads_associate checked.storedA

theorem rewired_removeCircuit (color : WireColor) (a b : Key) (sideA sideB : CircuitSide) :
    blueprint.entities.Rewired (blueprint.removeCircuit color a b sideA sideB).1.entities := by
  unfold removeCircuit
  extract_lets found terminal
  clear_value found
  split
  · exact .refl _
  · exact rewired_modifyBoth a b (.modifyCircuit (within_remove _) sideA color)
      (.modifyCircuit (within_remove _) sideB color)

theorem rewired_addPower (a b : Key) :
    blueprint.entities.Rewired (blueprint.addPower a b).1.entities := by
  unfold addPower
  split
  · exact .refl _
  · rename_i warnings checked
    simp only [checkPower, bind_eq_ok_iff] at checked
    obtain ⟨first, atA, second, atB, -⟩ := checked
    extract_lets link
    have wiring (key : Key) (leads : blueprint.entities.Leads (blueprint.entities.associate key)) :
        blueprint.entities.Wiring (link key) := by
      have within (old : List Association) : ∀ association ∈
          Distinct.add old (blueprint.entities.associate key),
          association ∈ old ∨ blueprint.entities.Leads association := by
        intro association mem
        rcases Distinct.mem_add.mp mem with here | rfl
        · exact .inl here
        · exact .inr leads
      exact .neighbours within
    exact rewired_modifyBoth a b (wiring b (leads_associate (entity?_of_endpoint atB)))
      (wiring a (leads_associate (entity?_of_endpoint atA)))

theorem wiring_unlink (list : EntityList) (key : Key) : list.Wiring (unlink key) :=
  .neighbours fun _ => within_filter _ _

theorem rewired_unlinkAll (key : Key) (associations : List Association) :
    blueprint.entities.Rewired (blueprint.unlinkAll key associations).1.entities := by
  induction associations generalizing blueprint with
  | nil => exact .refl _
  | cons association rest ih =>
    rw [unlinkAll]
    split
    · split
      · rename_i entities modified
        have later := @ih { blueprint with entities := entities }
        exact ((wiring_unlink _ key).rewired modified).trans later
      · exact .refl _
    · exact ih

theorem rewired_removeAllPower (key : Key) :
    blueprint.entities.Rewired (blueprint.removeAllPower key).1.entities := by
  unfold removeAllPower
  split
  · exact .refl _
  · rename_i entity found
    have first := @rewired_unlinkAll blueprint key entity.neighbours
    split
    · rename_i eq
      rw [eq] at first
      exact first
    · rename_i middle eq
      rw [eq] at first
      split
      · rename_i entities modified
        have last : middle.entities.Wiring fun entity => { entity with neighbours := [] } :=
          .neighbours fun _ association mem => absurd mem List.not_mem_nil
        exact first.trans (last.rewired modified)
      · exact first

theorem rewired_addCopper (switch : Key) (side : CopperSide) (pole : Key) :
    blueprint.entities.Rewired (blueprint.addCopper switch side pole).1.entities := by
  unfold addCopper
  split
  · exact .refl _
  · rename_i checked
    obtain ⟨first, second, checked⟩ := copperChecked_of_checkCopper checked
    exact rewired_modifyBoth switch pole
      (.modifyCopper (within_add (leads_associate checked.storedPole)) side)
      (.modifyCopper (within_add (leads_associate checked.storedSwitch)) .left)

/-- Wiring changes nothing but wires. -/
theorem rewired_apply (operation : Operation) (wires : operation.Wires) :
    blueprint.entities.Rewired (operation.apply blueprint).entities := by
  cases operation with
  | addCircuit color a b sideA sideB => exact rewired_addCircuit color a b sideA sideB
  | removeCircuit color a b sideA sideB => exact rewired_removeCircuit color a b sideA sideB
  | addPower a b => exact rewired_addPower a b
  | removePower a b => exact rewired_modifyBoth a b (wiring_unlink _ b) (wiring_unlink _ a)
  | removeAllPower key => exact rewired_removeAllPower key
  | addCopper switch side pole => exact rewired_addCopper switch side pole
  | removeCopper switch side pole =>
    exact rewired_modifyBoth switch pole (.modifyCopper (within_remove _) side)
      (.modifyCopper (within_remove _) .left)
  | _ => exact wires.elim

end Blueprint
end FactoryBlueprint
