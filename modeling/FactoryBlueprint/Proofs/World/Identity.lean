import FactoryBlueprint.Proofs.Blueprint.Appending
import FactoryBlueprint.Proofs.Blueprint.References
import FactoryBlueprint.Proofs.World.Basic

/-! # What an association comes to mean

An association is made while an entity stands under its key. In a run over any number of blueprints it
is handed on as it is, or renamed where a list is copied (`Stems`). The entity is followed through the
same run, from the list that it stands in to copies of it (`Follows`), until it is taken out. Keys that
led to an entity that was taken out are spent, and ids of lists are used once, so an association leads
to the entity that was followed or to none (`followed_or_lost`). It is never written as the number of
another (`names_followed`).
-/

namespace FactoryBlueprint

/-- The blueprint holds the association: an entity or a schedule refers by it. -/
def Blueprint.Holds (blueprint : Blueprint) (association : Association) : Prop :=
  (∃ key entity, blueprint.entities.entity? key = some entity ∧
      association ∈ entity.associations) ∨
    ∃ schedule ∈ blueprint.schedules, association ∈ schedule.locomotives

/-- The handle of the blueprint that an action copies. -/
def Action.copied? : Action → Option Nat
  | clone handle | call handle (.duplicate _) => some handle
  | _ => none

namespace World

variable {world : World} {action : Action} {association : Association} {entity : Entity}

/-- The entity stands under the key of the association in its list. -/
def Stores (world : World) (association : Association) (entity : Entity) : Prop :=
  ∃ handle blueprint, world.blueprints handle = some blueprint ∧
    blueprint.entities.id = association.list ∧
    blueprint.entities.entity? association.target = some entity

/-- What an action makes of an association. In a copy, it leads to the copy of its target. -/
inductive Renames (world : World) (action : Action) (association : Association) :
    Association → Prop
  | same : Renames world action association association
  | copied {handle : Nat} {blueprint : Blueprint} (copies : action.copied? = some handle)
      (here : world.blueprints handle = some blueprint) :
      Renames world action association (association.rescope blueprint.entities.id world.fresh)

/-- The associations that a run makes of one. -/
inductive Stems : World → List Action → Association → Association → Prop
  | nil (world : World) (association : Association) : Stems world [] association association
  | cons {world : World} {action : Action} {rest : List Action} {first second last : Association}
      (renames : world.Renames action first second)
      (later : Stems (world.act action) rest second last) : Stems world (action :: rest) first last

/-- True if the action takes the target of the association out, alone or with its list. -/
def TakesOut (world : World) (association : Association) : Action → Prop
  | .call handle operation => ∃ blueprint, world.blueprints handle = some blueprint ∧
      blueprint.entities.id = association.list ∧
      association.target ∈ (operation.under world.fresh).takes blueprint
  | .drop handle => ∃ blueprint, world.blueprints handle = some blueprint ∧
      blueprint.entities.id = association.list
  | _ => False

/-- True if the action edits the target of the association. -/
def Edits (world : World) (association : Association) : Action → Prop
  | .call handle operation => ∃ blueprint, world.blueprints handle = some blueprint ∧
      blueprint.entities.id = association.list ∧
      (operation.under world.fresh).Edits association.target
  | _ => False

/-- The entity under an association after an action is the one before it, which was not taken out, or
its copy. -/
inductive Keeps (world : World) (action : Action) (association : Association) (entity : Entity) :
    Association → Entity → Prop
  | stays {later : Entity} (kept : ¬ world.TakesOut association action)
      (same : later.fixed = entity.fixed ∨ world.Edits association action) :
      Keeps world action association entity association later
  | copied {handle : Nat} {blueprint : Blueprint} (copies : action.copied? = some handle)
      (here : world.blueprints handle = some blueprint)
      (own : blueprint.entities.id = association.list) :
      Keeps world action association entity
        (association.rescope blueprint.entities.id world.fresh)
        (entity.mapAssociations (·.rescope blueprint.entities.id world.fresh))

/-- The entity that an association led to, followed through a run. -/
inductive Follows : World → List Action → Association → Entity → Association → Entity → Prop
  | nil (world : World) (association : Association) (entity : Entity) :
      Follows world [] association entity association entity
  | cons {world : World} {action : Action} {rest : List Action} {first second last : Association}
      {before middle after : Entity} (keeps : world.Keeps action first before second middle)
      (stored : (world.act action).Stores second middle)
      (later : Follows (world.act action) rest second middle last after) :
      Follows world (action :: rest) first before last after

/-- The association leads nowhere for good: its list is not in use, or its key is spent there. -/
structure Lost (world : World) (association : Association) : Prop where
  used : association.list.number < world.used
  spent : ∀ handle blueprint, world.blueprints handle = some blueprint →
    blueprint.entities.id = association.list →
    blueprint.entities.arena.Spent association.target

/-! ### One action -/

theorem outcome_of_copied {handle : Nat} {blueprint : Blueprint}
    (copies : action.copied? = some handle) (here : world.blueprints handle = some blueprint) :
    world.outcome action = some (blueprint.duplicate world.fresh) := by
  cases action with
  | clone original =>
    obtain rfl := Option.some.inj copies
    rw [outcome, here]
    rfl
  | call original operation =>
    cases operation with
    | duplicate list =>
      obtain rfl := Option.some.inj copies
      rw [outcome, here]
      rfl
    | _ => contradiction
  | _ => contradiction

theorem rescope_of_eq {old new : ListId} (own : old = association.list) :
    association.rescope old new = ⟨new, association.target⟩ := if_pos own.symm

theorem rescope_of_ne {old new : ListId} (foreign : old ≠ association.list) :
    association.rescope old new = association := if_neg (Ne.symm foreign)

theorem Lost.act (sound : world.Sound) (lost : world.Lost association) (action : Action) :
    (world.act action).Lost association where
  used := Nat.lt_succ_of_lt lost.used
  spent handle blueprint found own := by
    rcases blueprints_act found with ⟨-, made⟩ | ⟨-, old⟩
    · cases (sound.outcome made).2 with
      | made id =>
        have used := lost.used
        rw [← own, id] at used
        exact absurd used (Nat.lt_irrefl _)
      | continued calls here continues =>
        exact continues.ages.spent _ (lost.spent _ _ here (continues.id.symm.trans own))
    · exact lost.spent handle blueprint old own

theorem Lost.copied (sound : world.Sound) (lost : world.Lost association) {handle : Nat}
    {blueprint : Blueprint} (copies : action.copied? = some handle)
    (here : world.blueprints handle = some blueprint) :
    (world.act action).Lost (association.rescope blueprint.entities.id world.fresh) := by
  by_cases own : blueprint.entities.id = association.list
  · rw [rescope_of_eq own]
    refine ⟨Nat.lt_succ_self world.used, fun other another found same => ?_⟩
    rcases blueprints_act found with ⟨-, made⟩ | ⟨-, old⟩
    · obtain rfl := Option.some.inj ((outcome_of_copied copies here).symm.trans made)
      exact (Arena.ages_map _ _).spent _ (lost.spent handle blueprint here own)
    · have used := sound.lists other another old
      rw [same] at used
      exact absurd used (Nat.lt_irrefl _)
  · rw [rescope_of_ne own]
    exact lost.act sound action

theorem Lost.renames (sound : world.Sound) (lost : world.Lost association) {later : Association}
    (renames : world.Renames action association later) : (world.act action).Lost later := by
  cases renames with
  | same => exact lost.act sound action
  | copied copies here => exact lost.copied sound copies here

/-- An association is lost if its blueprint is left without its list or its entity. -/
theorem Sound.lost (sound : world.Sound) {blueprint : Blueprint}
    (here : world.blueprints (world.handle action) = some blueprint)
    (own : blueprint.entities.id = association.list)
    (left : ∀ after, world.outcome action = some after → after.entities.id = association.list →
      after.entities.arena.Spent association.target) : (world.act action).Lost association where
  used := own ▸ Nat.lt_succ_of_lt (sound.lists _ _ here)
  spent handle other found same := by
    rcases blueprints_act found with ⟨-, made⟩ | ⟨apart, old⟩
    · exact left other made same
    · exact absurd (sound.distinct _ _ _ _ old here (same.trans own.symm)) apart

theorem takesOut_call_iff {blueprint : Blueprint} {handle : Nat} {operation : Operation}
    (here : world.blueprints handle = some blueprint)
    (own : blueprint.entities.id = association.list) :
    world.TakesOut association (.call handle operation) ↔
      association.target ∈ (operation.under world.fresh).takes blueprint := by
  constructor
  · rintro ⟨other, there, -, taken⟩
    obtain rfl := Option.some.inj (here.symm.trans there)
    exact taken
  · exact fun taken => ⟨blueprint, here, own, taken⟩

/-- An action on another blueprint takes nothing out. -/
theorem Sound.not_takesOut (sound : world.Sound) {blueprint : Blueprint} {handle : Nat}
    (here : world.blueprints handle = some blueprint)
    (own : blueprint.entities.id = association.list) (other : handle ≠ world.handle action) :
    ¬ world.TakesOut association action := by
  cases action with
  | call target operation =>
    rintro ⟨another, there, same, -⟩
    exact other (sound.distinct _ _ _ _ here there (own.trans same.symm))
  | drop target =>
    rintro ⟨another, there, same⟩
    exact other (sound.distinct _ _ _ _ here there (own.trans same.symm))
  | _ => exact id

/-- The entity stays under its association, or the association is lost. -/
theorem Stores.same (sound : world.Sound) (stored : world.Stores association entity)
    (action : Action) :
    (∃ later, world.Keeps action association entity association later ∧
        (world.act action).Stores association later) ∨ (world.act action).Lost association := by
  obtain ⟨handle, blueprint, here, own, found⟩ := stored
  by_cases other : handle = world.handle action
  · subst other
    cases left : world.outcome action with
    | none => exact .inr (sound.lost here own fun _ made => nomatch left.symm.trans made)
    | some after =>
      have only {another : Blueprint} (made : world.outcome action = some another) :
          after = another := Option.some.inj (left.symm.trans made)
      cases (sound.outcome left).2 with
      | made id =>
        refine .inr (sound.lost here own fun another made same => ?_)
        have used := sound.lists _ _ here
        rw [own, ← same, ← only made, id] at used
        exact absurd used (Nat.lt_irrefl _)
      | @continued handle operation before calls there continues =>
        subst calls
        obtain rfl := Option.some.inj (here.symm.trans there)
        by_cases taken : association.target ∈ (operation.under world.fresh).takes blueprint
        · refine .inr (sound.lost here own fun another made _ => only made ▸ ?_)
          have stood : (blueprint.entities.get? association.target).isSome := by
            obtain ⟨placed, at_, -⟩ := Option.bind_eq_some_iff.mp found
            exact Option.isSome_of_eq_some at_
          exact continues.ages.spent_of_get?_eq_none stood (continues.gone _ taken)
        · obtain ⟨later, there, same⟩ := continues.kept _ taken entity found
          refine .inl ⟨later, .stays (mt (takesOut_call_iff here own).mp taken) ?_,
            handle, after, ?_, continues.id.trans own, there⟩
          · exact same.imp_right fun edits => ⟨blueprint, here, own, edits⟩
          · exact (blueprints_act_handle world _).trans left
  · refine .inl ⟨entity, .stays (sound.not_takesOut here own other) (.inl rfl),
      handle, blueprint, ?_, own, found⟩
    rw [blueprints_act_of_ne other, here]

/-- Where a list is copied, the association in the copy leads to the copy of the entity. -/
theorem Stores.copied (sound : world.Sound) (stored : world.Stores association entity)
    {handle : Nat} {blueprint : Blueprint} (copies : action.copied? = some handle)
    (here : world.blueprints handle = some blueprint) :
    (∃ later, world.Keeps action association entity
        (association.rescope blueprint.entities.id world.fresh) later ∧
        (world.act action).Stores (association.rescope blueprint.entities.id world.fresh) later) ∨
      (world.act action).Lost (association.rescope blueprint.entities.id world.fresh) := by
  by_cases own : blueprint.entities.id = association.list
  · obtain ⟨other, another, there, same, found⟩ := stored
    obtain rfl := sound.distinct _ _ _ _ here there (own.trans same.symm)
    obtain rfl := Option.some.inj (here.symm.trans there)
    refine .inl ⟨_, .copied copies here own, world.handle action, _,
      (blueprints_act_handle world action).trans (outcome_of_copied copies here), ?_, ?_⟩
    · rw [rescope_of_eq own]
      rfl
    · rw [rescope_of_eq own]
      exact (EntityList.entity?_duplicate _ _ _ _).trans (congrArg _ found)
  · rw [rescope_of_ne own]
    exact stored.same sound action

theorem Stores.renames (sound : world.Sound) (stored : world.Stores association entity)
    {later : Association} (renames : world.Renames action association later) :
    (∃ after, world.Keeps action association entity later after ∧
        (world.act action).Stores later after) ∨ (world.act action).Lost later := by
  cases renames with
  | same => exact stored.same sound action
  | copied copies here => exact stored.copied sound copies here

/-! ### Runs -/

theorem Lost.stems (sound : world.Sound) (lost : world.Lost association) {actions : List Action}
    {later : Association} (stems : Stems world actions association later) :
    (world.run actions).Lost later := by
  induction stems with
  | nil => exact lost
  | @cons world action rest _ _ _ renames _ ih => exact ih (sound.act action) (lost.renames sound renames)

/-- Whatever is done, an association leads to the entity that was followed, or it is lost. -/
theorem followed_or_lost (sound : world.Sound) (stored : world.Stores association entity)
    {actions : List Action} {later : Association}
    (stems : Stems world actions association later) :
    (∃ after, Follows world actions association entity later after ∧
        (world.run actions).Stores later after) ∨ (world.run actions).Lost later := by
  induction stems generalizing entity with
  | nil world association => exact .inl ⟨entity, .nil world association entity, stored⟩
  | @cons world action rest _ second _ renames stems ih =>
    rcases stored.renames sound renames with ⟨middle, keeps, stays⟩ | lost
    · rcases ih (sound.act action) stays with ⟨after, follows, last⟩ | lost
      · exact .inl ⟨after, .cons keeps stays follows, last⟩
      · exact .inr lost
    · exact .inr (lost.stems (sound.act action) stems)

/-! ### Writing -/

/-- An association that is lost has no number. -/
theorem Lost.not_names (sound : world.Sound) (lost : world.Lost association) {handle number : Nat}
    {blueprint : Blueprint} (here : world.blueprints handle = some blueprint) :
    ¬ blueprint.numbering.Names number association := by
  intro names
  have coherent := (sound.reachable handle blueprint here).coherent
  have spent := lost.spent handle blueprint here names.list.symm
  have stored := (coherent.entities.mem_leaves_iff _).mp (List.mem_of_getElem? names.target)
  rw [EntityList.entity?, EntityList.get?, spent.get?_eq_none] at stored
  contradiction

/-- How a blueprint writes an association that stems from one that led to an entity: a number stands
for it only if the entity that was followed is the one of that number. If the blueprint holds the
association, it is written as such a number, or nothing is written for a reference that leads
nowhere. -/
structure Faithful (world : World) (actions : List Action) (made : Association) (entity : Entity)
    (later : Association) (blueprint : Blueprint) : Prop where
  names : ∀ number, blueprint.numbering.Names number later → ∃ after,
    blueprint.entities.entity? later.target = some after ∧
      Follows world actions made entity later after
  written : ∀ document, blueprint.toDocument = .ok document → blueprint.Numbered document ∧
    (blueprint.Holds later → ∃ number, blueprint.numbering.Names number later)
  dangling : blueprint.Holds later → (∀ after, ¬ Follows world actions made entity later after) →
    ∃ error, blueprint.toDocument = .error error ∧ blueprint.FirstOffence error

theorem faithful (sound : world.Sound) (stored : world.Stores association entity)
    {actions : List Action} {later : Association} (stems : Stems world actions association later)
    {handle : Nat} {blueprint : Blueprint}
    (here : (world.run actions).blueprints handle = some blueprint) :
    Faithful world actions association entity later blueprint := by
  have final := sound.run actions
  have reachable := final.reachable handle blueprint here
  have names (number : Nat) (names : blueprint.numbering.Names number later) : ∃ after,
      blueprint.entities.entity? later.target = some after ∧
        Follows world actions association entity later after := by
    rcases followed_or_lost sound stored stems with ⟨after, follows, other, another, there, own, found⟩
      | lost
    · obtain rfl := final.distinct _ _ _ _ there here (own.trans names.list)
      obtain rfl := Option.some.inj (there.symm.trans here)
      exact ⟨after, found, follows⟩
    · exact absurd names (lost.not_names final here)
  have numbered (document : Document) (written : blueprint.toDocument = .ok document)
      (holds : blueprint.Holds later) : ∃ number, blueprint.numbering.Names number later := by
    obtain ⟨entities, schedules⟩ :=
      (Blueprint.toDocument_ok_iff reachable.coherent).mp ⟨document, written⟩
    have resolves : blueprint.Resolves later := by
      rcases holds with ⟨key, holder, there, mem⟩ | ⟨schedule, listed, mem⟩
      · exact entities key holder there later mem
      · exact schedules schedule listed later mem
    obtain ⟨number, found⟩ :=
      Option.isSome_iff_exists.mp ((Blueprint.resolves_iff reachable.coherent).mp resolves)
    exact ⟨number, Blueprint.names_of_number? reachable.coherent found⟩
  refine ⟨names, fun document written => ⟨?_, numbered document written⟩, fun holds gone => ?_⟩
  · exact Blueprint.numbered_of_toDocument reachable.coherent reachable.keysApart written
  cases outcome : blueprint.toDocument with
  | error error =>
    exact ⟨error, rfl,
      (Blueprint.toDocument_eq_error_iff_firstOffence reachable.coherent).mp outcome⟩
  | ok document =>
    obtain ⟨number, named⟩ := numbered document outcome holds
    obtain ⟨after, -, follows⟩ := names number named
    exact absurd follows (gone after)

/-- An association never comes to mean another entity: whatever was done before it was made in the
list of a blueprint, and whatever was done since, every blueprint that there is writes what stems from
it as the number of the entity that it was made for, or of its copy, or writes nothing. -/
theorem names_followed (before actions : List Action) {handle : Nat} {maker : Blueprint}
    (present : (empty.run before).blueprints handle = some maker) {key : Key} {entity : Entity}
    (stored : maker.entities.entity? key = some entity) {later : Association}
    (stems : Stems (empty.run before) actions (maker.entities.associate key) later) {holder : Nat}
    {blueprint : Blueprint}
    (here : (empty.run (before ++ actions)).blueprints holder = some blueprint) :
    Faithful (empty.run before) actions (maker.entities.associate key) entity later blueprint := by
  rw [run, List.foldl_append] at here
  exact faithful (sound_run before) ⟨handle, maker, present, rfl, stored⟩ stems here

def pole : Entity := .plain "pole" ⟨0.5, 0.5⟩

/-- A blueprint with one pole. -/
def onePole : List Action := [.create .empty, .call 0 (.addEntity (.entity pole) false)]

/-- A copy is made, and then another pole is put in the place of the first. -/
def copyAndReplace : List Action :=
  [.clone 0, .call 0 (.removeEntityKey ⟨0, 0⟩), .call 0 (.addEntity (.entity pole) false)]

theorem names_followed_copy : ∃ maker blueprint,
    (empty.run onePole).blueprints 0 = some maker ∧ maker.entities.entity? ⟨0, 0⟩ = some pole ∧
      (empty.run (onePole ++ copyAndReplace)).blueprints 2 = some blueprint ∧
      Faithful (empty.run onePole) copyAndReplace ⟨⟨0⟩, ⟨0, 0⟩⟩ pole ⟨⟨2⟩, ⟨0, 0⟩⟩ blueprint := by
  have added : (empty.run onePole).blueprints 0 =
      some ((Blueprint.empty .empty ⟨0⟩).append pole) := by
    have start : Blueprint.Reachable (fun _ _ => True) (.empty .empty ⟨0⟩) :=
      ⟨_, .empty .empty ⟨0⟩, .start⟩
    exact congrArg some (Blueprint.addEntity_eq_append start.coherent.entities.vacant (by decide)
      (by decide +kernel))
  have stems : Stems (empty.run onePole) copyAndReplace ⟨⟨0⟩, ⟨0, 0⟩⟩ ⟨⟨2⟩, ⟨0, 0⟩⟩ :=
    .cons (.copied rfl added) (.cons .same (.cons .same (.nil _ _)))
  have stored : ((Blueprint.empty .empty ⟨0⟩).append pole).entities.entity? ⟨0, 0⟩ = some pole := rfl
  have copied : (empty.run (onePole ++ copyAndReplace)).blueprints 2 =
      ((empty.run onePole).blueprints 0).map (·.duplicate ⟨2⟩) := rfl
  rw [added] at copied
  exact ⟨_, _, added, stored, copied, names_followed onePole copyAndReplace added stored stems copied⟩

end World
end FactoryBlueprint
