import FactoryBlueprint.Proofs.Blueprint.Copying

/-! # Lists that are referred to

Wires, neighbours and locomotives are associations. Some come in with the values that are given to a
call, and all others are made by a blueprint itself, in its own list. So a blueprint refers only to
what is known as long as calls bring in nothing else (`Blueprint.RefersOnly.apply`), and one that was
read refers only to its own list (`Blueprint.refersOnly_of_ofDocument`).

Nobody but a list makes associations to it. In a run of actions that make none up (`World.Honest`), no
blueprint refers to a list that is yet to be made (`World.refersToIssued_run`), so every copy is
faithful to its original and separate from it (`World.faithful_copy`).
-/

namespace FactoryBlueprint

variable {known : Association → Prop}

def Entity.RefersOnly (known : Association → Prop) (entity : Entity) : Prop :=
  ∀ association ∈ entity.associations, known association

def Schedule.RefersOnly (known : Association → Prop) (schedule : Schedule Association) : Prop :=
  ∀ association ∈ schedule.locomotives, known association

/-- All associations that come in with the call are known. An edit makes none up: what it leaves refers
only to what is known if what it is given does. -/
def Operation.BringsOnly (known : Association → Prop) : Operation → Prop
  | .modifyEntity _ f => ∀ entity, Entity.RefersOnly known entity → (f entity).RefersOnly known
  | .addSchedule schedule | .insertSchedule _ schedule | .setSchedule _ schedule =>
    schedule.RefersOnly known
  | .editSchedules f => ∀ schedules, (∀ schedule ∈ schedules, Schedule.RefersOnly known schedule) →
      ∀ schedule ∈ f schedules, schedule.RefersOnly known
  | operation => ∀ entity ∈ operation.entities, entity.RefersOnly known

/-- All associations of the blueprint are known. -/
structure Blueprint.RefersOnly (known : Association → Prop) (blueprint : Blueprint) : Prop where
  entities : blueprint.entities.Every (Entity.RefersOnly known)
  schedules : ∀ schedule ∈ blueprint.schedules, schedule.RefersOnly known

/-! ### Entities -/

namespace Entity

theorem mem_associations_merge {entity other : Entity} {association : Association}
    (mem : association ∈ (entity.merge other).associations) :
    association ∈ entity.associations ∨ association ∈ other.associations := by
  simp only [associations, merge, List.mem_append, Connections.mem_targets_iff,
    Connections.circuit_merge, Connections.copper_merge, Distinct.mem_addAll] at mem ⊢
  rcases mem with (⟨side, color, far, old | new, rfl⟩ | ⟨side, far, old | new, rfl⟩) | old | new
  · exact .inl (.inl (.inl ⟨side, color, far, old, rfl⟩))
  · exact .inr (.inl (.inl ⟨side, color, far, new, rfl⟩))
  · exact .inl (.inl (.inr ⟨side, far, old, rfl⟩))
  · exact .inr (.inl (.inr ⟨side, far, new, rfl⟩))
  · exact .inl (.inr old)
  · exact .inr (.inr new)

theorem RefersOnly.absorb {entity : Entity} (refers : entity.RefersOnly known)
    {others : List Entity} (all : ∀ other ∈ others, other.RefersOnly known) :
    (entity.absorb others).RefersOnly known := by
  induction others generalizing entity with
  | nil => exact refers
  | cons other others ih =>
    obtain ⟨here, later⟩ := List.forall_mem_cons.mp all
    have merged : (entity.merge other).RefersOnly known := fun association mem =>
      (mem_associations_merge mem).elim (refers association) (here association)
    exact ih merged later

end Entity

namespace EntityList

variable {list after : EntityList}

theorem Altered.refersOnly {merge : Bool} {given : Entity → Prop} {taken : List Key}
    (altered : Altered merge given taken list after)
    (every : list.Every (Entity.RefersOnly known))
    (brings : ∀ entity, given entity → entity.RefersOnly known) :
    after.Every (Entity.RefersOnly known) := by
  intro key entity stored
  cases found : list.get? key with
  | none =>
    obtain ⟨first, others, isGiven, areGiven, rfl⟩ := altered.made key entity found stored
    exact (brings first isGiven).absorb fun other mem => brings other (areGiven other mem)
  | some placed =>
    have kept : key ∉ taken := fun out => by
      rw [entity?, altered.gone key out] at stored
      contradiction
    obtain ⟨others, areGiven, here⟩ := altered.kept key kept placed found
    rw [entity?, here, Option.bind_some, Placed.entity?_mapEntity] at stored
    obtain ⟨old, isEntity, rfl⟩ := Option.map_eq_some_iff.mp stored
    have before : list.entity? key = some old := by rw [entity?, found]; exact isEntity
    exact (every key old before).absorb fun other mem => brings other (areGiven other mem).2

/-- Wires that are added lead to entities of the list. -/
theorem Rewired.refersOnly (rewired : list.Rewired after)
    (every : list.Every (Entity.RefersOnly known)) (own : ∀ key, known (list.associate key)) :
    after.Every (Entity.RefersOnly known) := by
  obtain ⟨edit, wiring, revised⟩ := rewired
  intro key entity stored association mem
  rw [revised.entity?_eq] at stored
  obtain ⟨old, before, rfl⟩ := Option.map_eq_some_iff.mp stored
  rcases (wiring key).targets old association mem with here | ⟨target, -, rfl⟩
  · exact every key old before association here
  · exact own target

end EntityList

/-! ### Schedules -/

namespace Schedule

variable {schedule : Schedule Association}

theorem RefersOnly.addLocomotive (refers : schedule.RefersOnly known) {locomotive : Association}
    (here : known locomotive) : (schedule.addLocomotive locomotive).RefersOnly known := by
  intro association mem
  rcases Distinct.mem_add.mp mem with old | rfl
  · exact refers association old
  · exact here

theorem RefersOnly.removeLocomotive (refers : schedule.RefersOnly known) (key : Key) :
    (schedule.removeLocomotive key).RefersOnly known :=
  fun association mem => refers association (List.mem_filter.mp mem).1

theorem RefersOnly.removeStop? (refers : schedule.RefersOnly known) {station : String} {stop : Stop}
    {after : Schedule Association} (removed : schedule.removeStop? station = some (stop, after)) :
    after.RefersOnly known := by
  rw [removeStop?_eq_some removed]
  exact refers

end Schedule

namespace Blueprint

variable {blueprint : Blueprint}

/-! ### Calls -/

theorem RefersOnly.mono {wider : Association → Prop} (refers : blueprint.RefersOnly known)
    (imp : ∀ association, known association → wider association) : blueprint.RefersOnly wider where
  entities key entity stored association mem :=
    imp association (refers.entities key entity stored association mem)
  schedules schedule listed association mem :=
    imp association (refers.schedules schedule listed association mem)

theorem RefersOnly.of_holds (refers : blueprint.RefersOnly known) {association : Association}
    (held : blueprint.Holds association) : known association := by
  rcases held with ⟨key, entity, stored, mem⟩ | ⟨schedule, listed, mem⟩
  · exact refers.entities key entity stored association mem
  · exact refers.schedules schedule listed association mem

theorem refersOnly_empty (known : Association → Prop) (table : PrototypeTable) (list : ListId) :
    (empty table list).RefersOnly known where
  entities := EntityList.every_empty _ list
  schedules := List.forall_mem_nil _

/-- Every number of a document was resolved to an entity that was read with it. -/
theorem refersOnly_of_ofDocument {table : PrototypeTable} {mode : ValidationMode} {list : ListId}
    {document : Document} {warnings : List Warning}
    (read : ofDocument table mode list document = .ok (blueprint, warnings)) :
    blueprint.RefersOnly (·.list = list) := by
  obtain ⟨root, entities, tiles, schedules, -, built⟩ := built_of_ofDocument read
  obtain ⟨resolved, scheduled⟩ := (toDocument_ok_iff built.coherent).mp ⟨_, built.toDocument_eq⟩
  have id := id_of_ofDocument read
  constructor
  · exact fun key entity stored association mem =>
      (resolved key entity stored association mem).list.trans id
  · exact fun schedule listed association mem =>
      (scheduled schedule listed association mem).list.trans id

theorem RefersOnly.of_edited {α : Type} (refers : blueprint.RefersOnly known)
    {outcome : Except Error (Blueprint × α)} (kept : ∀ after a, outcome = .ok (after, a) →
      ∀ schedule ∈ after.schedules, schedule.RefersOnly known) :
    ∀ schedule ∈ (blueprint.edited outcome).1.schedules, schedule.RefersOnly known :=
  edited_keeps (fun after => ∀ schedule ∈ after.schedules, schedule.RefersOnly known)
    refers.schedules kept

/-- Schedule `i` replaced by one that refers only to what is known. -/
theorem RefersOnly.set_schedule (refers : blueprint.RefersOnly known) (i : Nat)
    {schedule : Schedule Association} (here : schedule.RefersOnly known) :
    ∀ other ∈ blueprint.schedules.set i schedule, other.RefersOnly known := by
  intro other mem
  rcases List.mem_or_eq_of_mem_set mem with old | rfl
  · exact refers.schedules other old
  · exact here

theorem RefersOnly.edit_schedule {α : Type} (refers : blueprint.RefersOnly known) (i : Nat)
    {f : Schedule Association → Schedule Association} {a : α}
    (kept : ∀ schedule : Schedule Association, schedule.RefersOnly known →
      (f schedule).RefersOnly known) :
    ∀ schedule ∈ (blueprint.edited do
      let schedule ← blueprint.schedule i
      pure ({ blueprint with schedules := blueprint.schedules.set i (f schedule) }, a)).1.schedules,
      schedule.RefersOnly known := by
  refine refers.of_edited fun after _ done => ?_
  obtain ⟨schedule, present, done⟩ := bind_eq_ok_iff.mp done
  obtain rfl := (Prod.mk.inj (Except.ok.inj done)).1
  exact refers.set_schedule i (kept schedule (refers.schedules _ (schedule_mem present)))

theorem RefersOnly.removeStop (refers : blueprint.RefersOnly known) (i : Nat) (station : String) :
    ∀ schedule ∈ (blueprint.removeStop i station).1.schedules, schedule.RefersOnly known := by
  refine refers.of_edited fun after _ done => ?_
  obtain ⟨schedule, present, done⟩ := bind_eq_ok_iff.mp done
  have before := refers.schedules _ (schedule_mem present)
  split at done
  · rename_i removed
    obtain rfl := (Prod.mk.inj (Except.ok.inj done)).1
    exact refers.set_schedule i (before.removeStop? removed)
  · obtain rfl := (Prod.mk.inj (Except.ok.inj done)).1
    exact refers.schedules

theorem RefersOnly.addLocomotive (refers : blueprint.RefersOnly known) (i : Nat) {key : Key}
    (own : known (blueprint.entities.associate key)) :
    ∀ schedule ∈ (blueprint.addLocomotive i key).1.schedules, schedule.RefersOnly known := by
  unfold Blueprint.addLocomotive
  split
  · exact refers.schedules
  · split
    · exact refers.schedules
    · exact refers.edit_schedule i fun _ old => old.addLocomotive own

/-- The schedules after a call other than copying. -/
theorem RefersOnly.schedules_apply (refers : blueprint.RefersOnly known)
    (own : ∀ key, known (blueprint.entities.associate key)) {operation : Operation}
    (brings : operation.BringsOnly known) (goesOn : ∀ list, operation ≠ .duplicate list) :
    ∀ schedule ∈ (operation.apply blueprint).schedules, schedule.RefersOnly known := by
  by_cases other : operation.Reschedules
  · cases operation with
    | addSchedule schedule =>
      exact List.forall_mem_append.mpr ⟨refers.schedules, List.forall_mem_singleton.mpr brings⟩
    | insertSchedule i schedule =>
      simp only [Operation.apply, insertSchedule]
      split
      · exact refers.schedules
      · rename_i bound
        intro other mem
        rcases (List.mem_insertIdx (Nat.le_of_not_lt bound)).mp mem with rfl | old
        · exact brings
        · exact refers.schedules other old
    | setSchedule i schedule =>
      refine refers.of_edited fun after _ done => ?_
      obtain ⟨_, -, done⟩ := bind_eq_ok_iff.mp done
      obtain rfl := (Prod.mk.inj (Except.ok.inj done)).1
      exact refers.set_schedule i brings
    | removeSchedule i =>
      refine refers.of_edited fun after _ done => ?_
      obtain ⟨_, -, done⟩ := bind_eq_ok_iff.mp done
      obtain rfl := (Prod.mk.inj (Except.ok.inj done)).1
      exact fun schedule mem => refers.schedules schedule (List.mem_of_mem_eraseIdx mem)
    | clearSchedules => exact List.forall_mem_nil _
    | editSchedules f => exact brings _ refers.schedules
    | forgetLocomotive key =>
      exact List.forall_mem_map.mpr fun schedule mem =>
        (refers.schedules schedule mem).removeLocomotive key
    | removeStop i station => exact refers.removeStop i station
    | addLocomotive i key => exact refers.addLocomotive i (own key)
    | removeLocomotive i key => exact refers.edit_schedule i fun _ old => old.removeLocomotive key
    | duplicate list => exact (goesOn list rfl).elim
    | _ => exact other.elim
  · rw [Blueprint.schedules_apply operation other]
    exact refers.schedules

theorem RefersOnly.modifyEntity (refers : blueprint.RefersOnly known) (key : Key)
    {f : Entity → Entity}
    (kept : ∀ entity : Entity, entity.RefersOnly known → (f entity).RefersOnly known) :
    (blueprint.modifyEntity key f).1.entities.Every (Entity.RefersOnly known) := by
  rcases blueprint.modifyEntity_cases key f with
    same | ⟨before, entities, stored, modified, ⟨extent, -, after⟩ | restored⟩
  · rw [same]
    exact refers.entities
  · rw [after]
    exact refers.entities.modify? kept modified
  · rw [restored]
    have edited := refers.entities.modify? kept modified
    cases again : entities.modify? blueprint.table key fun _ => before with
    | none => exact edited
    | some last => exact edited.modify? (fun _ _ => refers.entities key before stored) again

/-- The entities after a call other than copying. -/
theorem RefersOnly.entities_apply (refers : blueprint.RefersOnly known)
    (coherent : blueprint.Coherent) (own : ∀ key, known (blueprint.entities.associate key))
    {operation : Operation} (brings : operation.BringsOnly known)
    (goesOn : ∀ list, operation ≠ .duplicate list) :
    (operation.apply blueprint).entities.Every (Entity.RefersOnly known) := by
  cases operation.sorted with
  | plain plain =>
    rw [entities_apply_of_plain operation plain]
    exact refers.entities
  | wires wires => exact (rewired_apply operation wires).refersOnly refers.entities own
  | alters alters =>
    refine (altered_apply coherent operation alters).refersOnly refers.entities ?_
    cases operation with
    | insertEntity | addEntity | setEntity | removeEntity | removeEntityKey | clearEntities =>
      exact brings
    | _ => exact alters.elim
  | modifies key f => exact refers.modifyEntity key brings
  | replaces list items =>
    rcases setEntities_cases coherent list items with ⟨-, same⟩ | ⟨-, altered⟩
    · rw [Operation.apply, same]
      exact refers.entities
    · exact altered.refersOnly (EntityList.every_empty _ list) brings
  | copies list => exact (goesOn list rfl).elim

/-- A copy refers to what its original referred to, or to its own list. -/
theorem RefersOnly.duplicate (refers : blueprint.RefersOnly known) (list : ListId) :
    (blueprint.duplicate list).RefersOnly fun association =>
      known association ∨ association.list = list := by
  have carried {association : Association} (old : known association) :
      known (association.rescope blueprint.entities.id list) ∨
        (association.rescope blueprint.entities.id list).list = list := by
    rw [Association.rescope]
    split
    · exact .inr rfl
    · exact .inl old
  constructor
  · intro key entity stored association mem
    rw [show (blueprint.duplicate list).entities.entity? key = _ from
      EntityList.entity?_duplicate blueprint.entities blueprint.table list key] at stored
    obtain ⟨old, before, rfl⟩ := Option.map_eq_some_iff.mp stored
    obtain ⟨first, here, rfl⟩ := Entity.mem_associations_mapAssociations.mp mem
    exact carried (refers.entities key old before first here)
  · refine List.forall_mem_map.mpr fun schedule listed => List.forall_mem_map.mpr fun first here => ?_
    exact carried (refers.schedules schedule listed first here)

/-- What a call leaves refers to what was known, or to the list that the call has made. -/
theorem RefersOnly.apply (refers : blueprint.RefersOnly known) (coherent : blueprint.Coherent)
    (own : ∀ key, known (blueprint.entities.associate key)) {operation : Operation}
    (brings : operation.BringsOnly known) :
    (operation.apply blueprint).RefersOnly fun association =>
      known association ∨ operation.list? = some association.list := by
  by_cases copies : ∃ list, operation = .duplicate list
  · obtain ⟨list, rfl⟩ := copies
    exact (refers.duplicate list).mono fun association => .imp_right fun same => same ▸ rfl
  · have goesOn : ∀ list, operation ≠ .duplicate list := fun list same => copies ⟨list, same⟩
    have after : (operation.apply blueprint).RefersOnly known :=
      ⟨refers.entities_apply coherent own brings goesOn, refers.schedules_apply own brings goesOn⟩
    exact after.mono fun association => .inl

end Blueprint

/-! ### Runs -/

/-- All associations that come in with the action are known. -/
def Action.BringsOnly (known : Association → Prop) : Action → Prop
  | .call _ operation => operation.BringsOnly known
  | _ => True

theorem Operation.BringsOnly.under {operation : Operation} (brings : operation.BringsOnly known)
    (list : ListId) : (operation.under list).BringsOnly known := by
  cases operation <;> exact brings

namespace World

variable {world : World} {action : Action}

/-- The id of the list that the association leads into was used. -/
def Issued (world : World) (association : Association) : Prop :=
  association.list.number < world.used

/-- Every action brings in only what refers to lists that were made before it. -/
def Honest : World → List Action → Prop
  | _, [] => True
  | world, action :: rest => action.BringsOnly world.Issued ∧ Honest (world.act action) rest

/-- All blueprints refer only to lists that were made. -/
def RefersToIssued (world : World) : Prop :=
  ∀ handle blueprint, world.blueprints handle = some blueprint → blueprint.RefersOnly world.Issued

theorem Issued.act {association : Association} (issued : world.Issued association)
    (action : Action) : (world.act action).Issued association := Nat.lt_succ_of_lt issued

theorem issued_fresh (action : Action) {association : Association}
    (made : association.list = world.fresh) : (world.act action).Issued association := by
  rw [Issued, made]
  exact Nat.lt_succ_self world.used

theorem RefersToIssued.act (refers : world.RefersToIssued) (sound : world.Sound)
    (brings : action.BringsOnly world.Issued) : (world.act action).RefersToIssued := by
  intro handle blueprint found
  rcases blueprints_act found with ⟨-, made⟩ | ⟨-, old⟩
  · cases action with
    | create table =>
      obtain rfl := Option.some.inj made
      exact Blueprint.refersOnly_empty _ table world.fresh
    | read table mode document =>
      rw [World.outcome] at made
      cases read : Blueprint.ofDocument table mode world.fresh document with
      | error error =>
        rw [read] at made
        contradiction
      | ok result =>
        obtain ⟨other, warnings⟩ := result
        rw [read] at made
        obtain rfl := Option.some.inj made
        exact (Blueprint.refersOnly_of_ofDocument read).mono fun _ => issued_fresh _
    | call handle operation =>
      obtain ⟨before, here, rfl⟩ := Option.map_eq_some_iff.mp made
      have coherent := (sound.reachable handle before here).coherent
      have own (key : Key) : world.Issued (before.entities.associate key) :=
        sound.lists handle before here
      -- An edit is honest about what it is given, so the call is taken in the world before it.
      refine ((refers handle before here).apply coherent own (brings.under world.fresh)).mono ?_
      rintro association (issued | listed)
      · exact issued.act _
      · exact issued_fresh _ (Operation.list?_under listed)
    | clone handle =>
      obtain ⟨before, here, rfl⟩ := Option.map_eq_some_iff.mp made
      refine ((refers handle before here).duplicate world.fresh).mono ?_
      exact fun association => Or.rec (·.act _) (issued_fresh _)
    | drop handle => contradiction
  · exact (refers handle blueprint old).mono fun association issued => issued.act action

/-- In an honest run, no blueprint refers to a list that is yet to be made. -/
theorem refersToIssued_run (sound : world.Sound) (refers : world.RefersToIssued)
    {actions : List Action} (honest : world.Honest actions) :
    (world.run actions).RefersToIssued := by
  induction actions generalizing world with
  | nil => exact refers
  | cons action rest ih => exact ih (sound.act action) (refers.act sound honest.1) honest.2

/-- What comes of an action that copies a blueprint, after any honest run, is faithful to it and
separate. -/
theorem faithful_copy (actions : List Action) (honest : empty.Honest actions) {handle : Nat}
    (copies : action.copied? = some handle) {blueprint : Blueprint}
    (here : (empty.run actions).blueprints handle = some blueprint) : ∃ copy,
      (empty.run actions).outcome action = some copy ∧ blueprint.FaithfulCopy copy := by
  have sound := sound_run actions
  have reachable := sound.reachable handle blueprint here
  have refers : (empty.run actions).RefersToIssued :=
    refersToIssued_run sound_empty (fun _ _ found => absurd found.symm (Option.some_ne_none _)) honest
  refine ⟨_, outcome_of_copied copies here, Blueprint.faithfulCopy_duplicate reachable.coherent
    reachable.filed reachable.tilesFiled (fun same => ?_) fun association held same => ?_⟩
  · have used := sound.lists handle blueprint here
    rw [← same] at used
    exact Nat.lt_irrefl _ used
  · have issued := (refers handle blueprint here).of_holds held
    rw [Issued, same] at issued
    exact Nat.lt_irrefl _ issued

/-- A pole comes in without wires, and the blueprint is copied. -/
example : empty.Honest [.create .empty,
    .call 0 (.addEntity (.entity (.plain "pole" ⟨0.5, 0.5⟩)) false), .clone 0] :=
  ⟨trivial, List.forall_mem_singleton.mpr (List.forall_mem_nil _), trivial, trivial⟩

end World
end FactoryBlueprint
