import FactoryBlueprint.Proofs.Blueprint.Wiring

/-! # What power wiring does to neighbours

Poles record the poles that they are joined to by copper wires as neighbours. A wire is added between
two poles and nothing else (`addPower_cases`), it is removed by filtering both lists
(`removePower_cases`), and all wires of a pole are removed by filtering the lists of the neighbours
that are there, up to the first that is no entity (`unlinkAll_cases`).
-/

namespace FactoryBlueprint

theorem EntityList.holds_iff {list : EntityList} {association : Association} :
    list.holds association = true ↔
      association.list = list.id ∧ (list.get? association.target).isSome := by
  simp only [holds, contains, Arena.contains, Bool.and_eq_true, decide_eq_true_eq, get?]

namespace Entity

variable {entity : Entity} {key other : Key} {a b : Key} {id : ListId}
  {neighbour association : Association}

/-- The entity with one more neighbour. -/
def link (association : Association) (entity : Entity) : Entity :=
  { entity with neighbours := Distinct.add entity.neighbours association }

/-- The edits by which a copper wire between two poles is added. -/
def linkBoth (id : ListId) (a b : Key) (key : Key) (entity : Entity) : Entity :=
  EntityList.editAt b (link ⟨id, a⟩) key (EntityList.editAt a (link ⟨id, b⟩) key entity)

/-- The edits by which a copper wire between two poles is removed. -/
def unlinkBoth (a b : Key) (key : Key) (entity : Entity) : Entity :=
  EntityList.editAt b (Blueprint.unlink a) key (EntityList.editAt a (Blueprint.unlink b) key entity)

/-- The edits by which a key is taken from the neighbours of those that are told of. -/
def unlinkAmong (id : ListId) (told : List Association) (key : Key) (other : Key)
    (entity : Entity) : Entity :=
  if ⟨id, other⟩ ∈ told then Blueprint.unlink key entity else entity

/-- The edits by which all wires of a pole are removed. -/
def isolate (id : ListId) (told : List Association) (key : Key) (other : Key) (entity : Entity) :
    Entity :=
  EntityList.editAt key (fun entity => { entity with neighbours := [] }) other
    (unlinkAmong id told key other entity)

theorem mem_neighbours_editAt_link : neighbour ∈
    (EntityList.editAt a (link association) key entity).neighbours ↔
      neighbour ∈ entity.neighbours ∨ key = a ∧ neighbour = association := by
  unfold EntityList.editAt
  split
  · rename_i here
    simp only [link, Distinct.mem_add, here, true_and]
  · rename_i elsewhere
    simp only [elsewhere, false_and, or_false]

theorem mem_neighbours_linkBoth : neighbour ∈ (linkBoth id a b key entity).neighbours ↔
    neighbour ∈ entity.neighbours ∨ (key = a ∧ neighbour = ⟨id, b⟩) ∨
      (key = b ∧ neighbour = ⟨id, a⟩) := by
  rw [linkBoth, mem_neighbours_editAt_link, mem_neighbours_editAt_link, or_assoc]

theorem fixed_linkBoth : (linkBoth id a b key entity).fixed = entity.fixed := by
  unfold linkBoth
  rw [EntityList.fixed_editAt, EntityList.fixed_editAt] <;> exact fun _ => rfl

theorem nodup_neighbours_editAt_link (nodup : entity.neighbours.Nodup) :
    (EntityList.editAt a (link association) key entity).neighbours.Nodup := by
  unfold EntityList.editAt
  split
  · exact Distinct.nodup_add nodup association
  · exact nodup

theorem nodup_neighbours_linkBoth (nodup : entity.neighbours.Nodup) :
    (linkBoth id a b key entity).neighbours.Nodup :=
  nodup_neighbours_editAt_link (nodup_neighbours_editAt_link nodup)

theorem mem_neighbours_unlink : neighbour ∈ (Blueprint.unlink key entity).neighbours ↔
    neighbour ∈ entity.neighbours ∧ neighbour.target ≠ key := by
  simp [Blueprint.unlink, Association.pointsTo]

theorem mem_neighbours_editAt_unlink : neighbour ∈
    (EntityList.editAt a (Blueprint.unlink b) key entity).neighbours ↔
      neighbour ∈ entity.neighbours ∧ ¬(key = a ∧ neighbour.target = b) := by
  unfold EntityList.editAt
  split
  · rename_i here
    simp only [mem_neighbours_unlink, here, true_and]
  · rename_i elsewhere
    simp only [elsewhere, false_and, not_false_eq_true, and_true]

theorem mem_neighbours_unlinkBoth : neighbour ∈ (unlinkBoth a b key entity).neighbours ↔
    neighbour ∈ entity.neighbours ∧ ¬(key = a ∧ neighbour.target = b) ∧
      ¬(key = b ∧ neighbour.target = a) := by
  rw [unlinkBoth, mem_neighbours_editAt_unlink, mem_neighbours_editAt_unlink, and_assoc]

theorem fixed_unlinkBoth : (unlinkBoth a b key entity).fixed = entity.fixed := by
  unfold unlinkBoth
  rw [EntityList.fixed_editAt, EntityList.fixed_editAt] <;> exact fun _ => rfl

theorem neighbours_unlink_sublist :
    (Blueprint.unlink key entity).neighbours.Sublist entity.neighbours :=
  List.filter_sublist

theorem neighbours_editAt_unlink_sublist :
    (EntityList.editAt a (Blueprint.unlink b) key entity).neighbours.Sublist entity.neighbours := by
  unfold EntityList.editAt
  split
  · exact neighbours_unlink_sublist
  · exact .refl _

theorem neighbours_unlinkBoth_sublist :
    (unlinkBoth a b key entity).neighbours.Sublist entity.neighbours :=
  neighbours_editAt_unlink_sublist.trans neighbours_editAt_unlink_sublist

theorem mem_neighbours_unlinkAmong {told : List Association} :
    neighbour ∈ (unlinkAmong id told key other entity).neighbours ↔
      neighbour ∈ entity.neighbours ∧ ¬(⟨id, other⟩ ∈ told ∧ neighbour.target = key) := by
  unfold unlinkAmong
  split
  · rename_i here
    simp only [mem_neighbours_unlink, here, true_and]
  · rename_i elsewhere
    simp only [elsewhere, false_and, not_false_eq_true, and_true]

theorem mem_neighbours_isolate {told : List Association} :
    neighbour ∈ (isolate id told key other entity).neighbours ↔
      neighbour ∈ entity.neighbours ∧ other ≠ key ∧
        ¬(⟨id, other⟩ ∈ told ∧ neighbour.target = key) := by
  unfold isolate EntityList.editAt
  split
  · rename_i here
    simp [here]
  · rename_i elsewhere
    simp only [mem_neighbours_unlinkAmong, elsewhere, ne_eq, not_false_eq_true, true_and]

theorem fixed_isolate {told : List Association} :
    (isolate id told key other entity).fixed = entity.fixed := by
  unfold isolate unlinkAmong
  rw [EntityList.fixed_editAt]
  · split <;> rfl
  · exact fun _ => rfl

theorem neighbours_isolate_sublist {told : List Association} :
    (isolate id told key other entity).neighbours.Sublist entity.neighbours := by
  unfold isolate EntityList.editAt unlinkAmong
  split
  · exact List.nil_sublist _
  · split
    · exact neighbours_unlink_sublist
    · exact .refl _

theorem unlink_unlink : Blueprint.unlink key (Blueprint.unlink key entity) =
    Blueprint.unlink key entity := by
  simp [Blueprint.unlink]

/-- The first of those that are told of comes first. -/
theorem unlinkAmong_cons (rest : List Association) :
    unlinkAmong id (⟨id, a⟩ :: rest) key other entity =
      unlinkAmong id rest key other (EntityList.editAt a (Blueprint.unlink key) other entity) := by
  by_cases here : other = a
  · simp [unlinkAmong, EntityList.editAt, here, unlink_unlink]
  · simp [unlinkAmong, EntityList.editAt, here]

end Entity

namespace Blueprint

variable {blueprint : Blueprint} {a b : Key}

/-- A copper wire between two poles that passed the check: both ends are poles, and not the same. -/
structure PowerChecked (blueprint : Blueprint) (a b : Key) (first second : Entity) : Prop where
  storedA : blueprint.entities.entity? a = some first
  storedB : blueprint.entities.entity? b = some second
  apart : a ≠ b
  isPoleA : first.kind blueprint.table = .electricPole
  isPoleB : second.kind blueprint.table = .electricPole

theorem poleReach_eq_ok {entity : Entity} {reach : Binary64}
    (found : blueprint.poleReach entity = .ok reach) :
    entity.kind blueprint.table = .electricPole := by
  unfold poleReach at found
  split at found
  · rename_i known
    obtain ⟨prototype, isPole, -⟩ := Option.bind_eq_some_iff.mp known
    obtain ⟨inTable, isPole⟩ := Option.filter_eq_some_iff.mp isPole
    rw [Entity.kind, inTable]
    exact of_decide_eq_true isPole
  · contradiction

theorem powerChecked_of_checkPower {warnings : List Warning}
    (checked : blueprint.checkPower a b = .ok warnings) :
    ∃ first second, blueprint.PowerChecked a b first second := by
  simp only [checkPower] at checked
  obtain ⟨first, atA, checked⟩ := bind_eq_ok_iff.mp checked
  obtain ⟨second, atB, checked⟩ := bind_eq_ok_iff.mp checked
  split at checked
  · obtain ⟨_, refused, -⟩ := bind_eq_ok_iff.mp checked
    contradiction
  · rename_i apart
    simp only [bind_eq_ok_iff] at checked
    obtain ⟨_, reachA, _, reachB, -⟩ := checked
    exact ⟨first.entity, second.entity, entity?_of_endpoint atA, entity?_of_endpoint atB, apart,
      poleReach_eq_ok reachA, poleReach_eq_ok reachB⟩

theorem addPower_cases (a b : Key) : (blueprint.addPower a b).1 = blueprint ∨
    ∃ first second, blueprint.PowerChecked a b first second ∧
      EntityList.Revised (Entity.linkBoth blueprint.entities.id a b) blueprint.entities
        (blueprint.addPower a b).1.entities := by
  unfold addPower
  split
  · exact .inl rfl
  · rename_i warnings found
    obtain ⟨first, second, checked⟩ := powerChecked_of_checkPower found
    rcases blueprint.modifyBoth_cases a b (Entity.link (blueprint.entities.associate b))
      (Entity.link (blueprint.entities.associate a)) with ⟨-, same⟩ | revised
    · exact .inl same
    · exact .inr ⟨first, second, checked, revised⟩

theorem removePower_cases (a b : Key) : (blueprint.removePower a b).1 = blueprint ∨
    EntityList.Revised (Entity.unlinkBoth a b) blueprint.entities
      (blueprint.removePower a b).1.entities :=
  (blueprint.modifyBoth_cases a b (unlink b) (unlink a)).imp_left And.right

/-- The key is taken from the neighbours of all that are told of, or of those before the first that
is there and is no entity. -/
theorem unlinkAll_cases (key : Key) (told : List Association) : ∃ done,
    EntityList.Revised (Entity.unlinkAmong blueprint.entities.id done key) blueprint.entities
      (blueprint.unlinkAll key told).1.entities ∧
    ((blueprint.unlinkAll key told).2 = .ok () ∧ done = told ∨
      (blueprint.unlinkAll key told).2 = .error .entityNotFound ∧
        ∃ group rest, told = done ++ blueprint.entities.associate group :: rest ∧
          (blueprint.entities.get? group).isSome ∧ blueprint.entities.entity? group = none) := by
  induction told generalizing blueprint with
  | nil => exact ⟨[], .of_same _ fun _ _ _ => if_neg List.not_mem_nil, .inl ⟨rfl, rfl⟩⟩
  | cons association rest ih =>
    rw [unlinkAll]
    split
    · rename_i holds
      obtain ⟨own, stored⟩ := EntityList.holds_iff.mp holds
      obtain ⟨list, target⟩ := association
      obtain rfl : list = blueprint.entities.id := own
      split
      · rename_i entities modified
        have first := EntityList.revised_of_modify? modified
        obtain ⟨done, later, outcome⟩ := @ih { blueprint with entities := entities }
        dsimp only at later outcome
        rw [first.id] at later
        refine ⟨⟨blueprint.entities.id, target⟩ :: done,
          (first.trans later).congr fun other entity _ => (Entity.unlinkAmong_cons done).symm, ?_⟩
        refine outcome.imp (.imp_right fun all => by rw [all]) ?_
        rintro ⟨refused, group, rest, rfl, here, none⟩
        refine ⟨refused, group, rest, ?_, ?_, ?_⟩
        · rw [EntityList.associate, first.id]
          rfl
        · rwa [first.objects, Option.isSome_map] at here
        · rwa [first.entity?_eq, Option.map_eq_none_iff] at none
      · rename_i missing
        refine ⟨[], .of_same _ fun _ _ _ => if_neg List.not_mem_nil, .inr ⟨rfl, target, rest, rfl,
          stored, EntityList.modify?_eq_none_iff.mp missing⟩⟩
    · rename_i unheld
      obtain ⟨done, later, outcome⟩ := @ih blueprint
      refine ⟨association :: done, later.congr fun other entity stored => ?_, ?_⟩
      · -- What is not held is no entity that is there.
        have differ : ⟨blueprint.entities.id, other⟩ ≠ association := by
          rintro rfl
          obtain ⟨placed, here, -⟩ := Option.bind_eq_some_iff.mp stored
          exact unheld (EntityList.holds_iff.mpr ⟨rfl, Option.isSome_of_eq_some here⟩)
        simp [Entity.unlinkAmong, differ]
      · refine outcome.imp (.imp_right fun all => by rw [all]) ?_
        rintro ⟨refused, group, rest, rfl, here⟩
        exact ⟨refused, group, rest, rfl, here⟩

/-- All wires of a pole are removed, or those to the neighbours before the first that is no entity are
removed at the other ends. -/
theorem removeAllPower_cases (key : Key) :
    blueprint.entities.entity? key = none ∧
      blueprint.removeAllPower key = (blueprint, .error .entityNotFound) ∨
    ∃ entity, blueprint.entities.entity? key = some entity ∧
      ((blueprint.removeAllPower key).2 = .ok () ∧
        EntityList.Revised (Entity.isolate blueprint.entities.id entity.neighbours key)
          blueprint.entities (blueprint.removeAllPower key).1.entities ∨
      (blueprint.removeAllPower key).2 = .error .entityNotFound ∧ ∃ done group rest,
        entity.neighbours = done ++ blueprint.entities.associate group :: rest ∧
        (blueprint.entities.get? group).isSome ∧ blueprint.entities.entity? group = none ∧
        EntityList.Revised (Entity.unlinkAmong blueprint.entities.id done key)
          blueprint.entities (blueprint.removeAllPower key).1.entities) := by
  unfold removeAllPower
  split
  · rename_i missing
    exact .inl ⟨missing, rfl⟩
  · rename_i entity stored
    refine .inr ⟨entity, stored, ?_⟩
    obtain ⟨done, unlinked, outcome⟩ := blueprint.unlinkAll_cases key entity.neighbours
    generalize blueprint.unlinkAll key entity.neighbours = one at unlinked outcome ⊢
    obtain ⟨middle, refused | _⟩ := one
    · obtain ⟨ok, -⟩ | ⟨refused, group, rest, list, here, none⟩ := outcome
      · contradiction
      · exact .inr ⟨refused, done, group, rest, list, here, none, unlinked⟩
    · obtain ⟨-, rfl⟩ | ⟨ok, -⟩ := outcome
      · dsimp only at unlinked ⊢
        cases modified : middle.entities.modify? middle.table key fun entity =>
            { entity with neighbours := [] } with
        | some entities =>
          exact .inl ⟨rfl, unlinked.trans (EntityList.revised_of_modify? modified)⟩
        | none =>
          rw [EntityList.modify?_eq_none_iff, unlinked.entity?_eq, stored] at modified
          contradiction
      · contradiction

end Blueprint
end FactoryBlueprint
