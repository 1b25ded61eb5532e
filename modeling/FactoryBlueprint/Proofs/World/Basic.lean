import FactoryBlueprint.Proofs.Blueprint.Lasting
import FactoryBlueprint.Proofs.Blueprint.Rewriting

/-! # Many blueprints

A `World` is the blueprints that are in use, each under a handle. An `Action` makes an empty blueprint
or a copy, reads one, calls an operation on one, or gives one up. Every list that is made gets an id
that was not used before, so no two blueprints ever hold lists of one id (`sound_run`).
-/

namespace FactoryBlueprint

structure World where
  blueprints : Nat → Option Blueprint
  /-- How many handles and ids were used. -/
  used : Nat

/-- Something that is done with the blueprint under a handle, or to make one. -/
inductive Action where
  | create (table : PrototypeTable)
  | read (table : PrototypeTable) (mode : ValidationMode) (document : Document)
  | call (handle : Nat) (operation : Operation)
  | clone (handle : Nat)
  | drop (handle : Nat)

namespace World

/-- A world without blueprints. -/
def empty : World := ⟨fun _ => none, 0⟩

/-- The id of a list that is made now. -/
def fresh (world : World) : ListId := ⟨world.used⟩

/-- The handle of the blueprint that comes of an action. -/
def handle (world : World) : Action → Nat
  | .create _ | .read .. | .clone _ => world.used
  | .call handle _ | .drop handle => handle

/-- The blueprint that comes of an action, if any does. -/
def outcome (world : World) : Action → Option Blueprint
  | .create table => some (.empty table world.fresh)
  | .read table mode document =>
    (Blueprint.ofDocument table mode world.fresh document).toOption.map (·.1)
  | .call handle operation =>
    (world.blueprints handle).map fun blueprint => (operation.under world.fresh).apply blueprint
  | .clone handle => (world.blueprints handle).map (·.duplicate world.fresh)
  | .drop _ => none

/-- The world after an action. Handles and ids that were used stay used. -/
def act (world : World) (action : Action) : World where
  blueprints := fun handle =>
    if handle = world.handle action then world.outcome action else world.blueprints handle
  used := world.used + 1

def run (world : World) (actions : List Action) : World := actions.foldl act world

variable {world : World} {action : Action}

theorem blueprints_act_handle (world : World) (action : Action) :
    (world.act action).blueprints (world.handle action) = world.outcome action := if_pos rfl

theorem blueprints_act_of_ne {handle : Nat} (other : handle ≠ world.handle action) :
    (world.act action).blueprints handle = world.blueprints handle := if_neg other

/-- A blueprint comes of the action, or was there and is as it was. -/
theorem blueprints_act {handle : Nat} {blueprint : Blueprint}
    (found : (world.act action).blueprints handle = some blueprint) :
    (handle = world.handle action ∧ world.outcome action = some blueprint) ∨
      (handle ≠ world.handle action ∧ world.blueprints handle = some blueprint) := by
  by_cases here : handle = world.handle action
  · rw [here, blueprints_act_handle] at found
    exact .inl ⟨here, found⟩
  · rw [blueprints_act_of_ne here] at found
    exact .inr ⟨here, found⟩

/-- Handles and ids in use were used, each by one blueprint, and blueprints are reachable. -/
structure Sound (world : World) : Prop where
  reachable : ∀ handle blueprint, world.blueprints handle = some blueprint →
    Blueprint.Reachable (fun _ _ => True) blueprint
  handles : ∀ handle blueprint, world.blueprints handle = some blueprint → handle < world.used
  lists : ∀ handle blueprint, world.blueprints handle = some blueprint →
    blueprint.entities.id.number < world.used
  distinct : ∀ handle other blueprint another, world.blueprints handle = some blueprint →
    world.blueprints other = some another → blueprint.entities.id = another.entities.id →
    handle = other

theorem sound_empty : empty.Sound where
  reachable _ _ found := absurd found.symm (Option.some_ne_none _)
  handles _ _ found := absurd found.symm (Option.some_ne_none _)
  lists _ _ found := absurd found.symm (Option.some_ne_none _)
  distinct _ _ _ _ found := absurd found.symm (Option.some_ne_none _)

/-- The list that comes of an action is of an id of its own, or goes on from the one before. -/
inductive Outcome (world : World) (action : Action) (after : Blueprint) : Prop
  | made (id : after.entities.id = world.fresh)
  | continued {handle : Nat} {operation : Operation} {before : Blueprint}
      (calls : action = .call handle operation) (here : world.blueprints handle = some before)
      (continues : EntityList.Continues ((operation.under world.fresh).Edits ·)
        ((operation.under world.fresh).takes before) before.entities after.entities)

theorem Sound.outcome (sound : world.Sound) {after : Blueprint}
    (made : world.outcome action = some after) :
    Blueprint.Reachable (fun _ _ => True) after ∧ world.Outcome action after := by
  cases action with
  | create table =>
    obtain rfl := Option.some.inj made
    exact ⟨⟨_, .empty table world.fresh, .start⟩, .made rfl⟩
  | read table mode document =>
    rw [World.outcome] at made
    cases read : Blueprint.ofDocument table mode world.fresh document with
    | error error =>
      rw [read] at made
      contradiction
    | ok result =>
      obtain ⟨blueprint, warnings⟩ := result
      rw [read] at made
      obtain rfl := Option.some.inj made
      exact ⟨⟨_, .read read, .start⟩, .made (Blueprint.id_of_ofDocument read)⟩
  | call handle operation =>
    obtain ⟨before, here, rfl⟩ := Option.map_eq_some_iff.mp made
    have reachable := sound.reachable handle before here
    obtain ⟨start, initial, run⟩ := id reachable
    refine ⟨⟨start, initial, run.step _ trivial⟩, ?_⟩
    rcases Blueprint.continues_apply reachable.coherent (operation.under world.fresh) with
      continues | listed
    · exact .continued rfl here continues
    · exact .made (Operation.list?_under listed)
  | clone handle =>
    obtain ⟨before, here, rfl⟩ := Option.map_eq_some_iff.mp made
    obtain ⟨start, initial, run⟩ := sound.reachable handle before here
    exact ⟨⟨start, initial, run.step (.duplicate world.fresh) trivial⟩, .made rfl⟩
  | drop handle => contradiction

/-- The id of the list that comes of an action was not used by another blueprint. -/
theorem Sound.id_ne (sound : world.Sound) {after blueprint : Blueprint} {handle : Nat}
    (made : world.outcome action = some after) (here : world.blueprints handle = some blueprint)
    (other : handle ≠ world.handle action) : after.entities.id ≠ blueprint.entities.id := by
  intro same
  cases (sound.outcome made).2 with
  | made id =>
    have used := sound.lists handle blueprint here
    rw [← same, id] at used
    exact Nat.lt_irrefl _ used
  | continued calls before continues =>
    subst calls
    exact other (sound.distinct _ _ _ _ here before (same.symm.trans continues.id))

theorem Sound.act (sound : world.Sound) (action : Action) : (world.act action).Sound := by
  refine ⟨fun handle blueprint found => ?_, fun handle blueprint found => ?_,
    fun handle blueprint found => ?_, fun handle other blueprint another found there same => ?_⟩
  · rcases blueprints_act found with ⟨-, made⟩ | ⟨-, old⟩
    · exact (sound.outcome made).1
    · exact sound.reachable handle blueprint old
  · refine Nat.lt_succ_of_le ?_
    rcases blueprints_act found with ⟨rfl, made⟩ | ⟨-, old⟩
    · cases action with
      | create | read | clone => exact Nat.le_refl _
      | drop => contradiction
      | call handle operation =>
        obtain ⟨before, here, -⟩ := Option.map_eq_some_iff.mp made
        exact Nat.le_of_lt (sound.handles handle before here)
    · exact Nat.le_of_lt (sound.handles handle blueprint old)
  · refine Nat.lt_succ_of_le ?_
    rcases blueprints_act found with ⟨-, made⟩ | ⟨-, old⟩
    · cases (sound.outcome made).2 with
      | made id => exact id ▸ Nat.le_refl _
      | continued calls here continues =>
        exact continues.id ▸ Nat.le_of_lt (sound.lists _ _ here)
    · exact Nat.le_of_lt (sound.lists handle blueprint old)
  · rcases blueprints_act found with ⟨rfl, made⟩ | ⟨apart, old⟩
    · rcases blueprints_act there with ⟨rfl, -⟩ | ⟨apart, old⟩
      · rfl
      · exact absurd same (sound.id_ne made old apart)
    · rcases blueprints_act there with ⟨rfl, made⟩ | ⟨-, older⟩
      · exact absurd same.symm (sound.id_ne made old apart)
      · exact sound.distinct handle other blueprint another old older same

theorem Sound.run (sound : world.Sound) (actions : List Action) : (world.run actions).Sound := by
  induction actions generalizing world with
  | nil => exact sound
  | cons action rest ih => exact ih (sound.act action)

/-- Whatever was done, no two blueprints hold lists of one id. -/
theorem sound_run (actions : List Action) : (empty.run actions).Sound := sound_empty.run actions

end World
end FactoryBlueprint
