import FactoryBlueprint.Proofs.Blueprint.Wiring

/-! # What lasts

A call leaves the entity list under its id, with every entity that it does not take out
(`EntityList.Continues`), or leaves a list of another id (`continues_apply`).
-/

namespace FactoryBlueprint

namespace Operation

/-- True of an edit of the entity under the key, which may make anything of it. -/
def Edits (key : Key) : Operation → Prop
  | modifyEntity edited _ => edited = key
  | _ => False

/-- The id of the list that a call may make. -/
def list? : Operation → Option ListId
  | setEntities list _ | duplicate list => some list
  | _ => none

/-- The call with the given id for the list that it may make. -/
def under (list : ListId) : Operation → Operation
  | setEntities _ items => setEntities list items
  | duplicate _ => duplicate list
  | operation => operation

theorem list?_under {list other : ListId} {operation : Operation}
    (made : (operation.under list).list? = some other) : other = list := by
  cases operation with
  | setEntities | duplicate => exact (Option.some.inj made).symm
  | _ => contradiction

end Operation

namespace EntityList

/-- A list goes on: what is taken out is gone for good, and all other entities are there, as they were
but for what merging and wiring may change, unless they are edited. -/
structure Continues (edited : Key → Prop) (taken : List Key) (list after : EntityList) : Prop where
  id : after.id = list.id
  kept : ∀ key ∉ taken, ∀ entity, list.entity? key = some entity →
    ∃ later, after.entity? key = some later ∧ (later.fixed = entity.fixed ∨ edited key)
  gone : ∀ key ∈ taken, after.get? key = none
  ages : list.arena.Ages after.arena

variable {edited : Key → Prop} {list after : EntityList}

theorem Altered.continues {merge : Bool} {given : Entity → Prop} {taken : List Key}
    (altered : Altered merge given taken list after) : Continues edited taken list after where
  id := altered.id
  kept key old entity stored := by
    obtain ⟨placed, found, isEntity⟩ := Option.bind_eq_some_iff.mp stored
    obtain ⟨others, -, here⟩ := altered.kept key old placed found
    refine ⟨entity.absorb others, ?_, .inl (entity.fixed_absorb others)⟩
    rw [entity?, here, Option.bind_some, Placed.entity?_mapEntity, isEntity]
    rfl
  gone := altered.gone
  ages := altered.ages

theorem Revised.continues {edit : Key → Entity → Entity} (revised : Revised edit list after)
    (fixed : ∀ key entity, (edit key entity).fixed = entity.fixed ∨ edited key) :
    Continues edited [] list after where
  id := revised.id
  kept key _ entity stored :=
    ⟨edit key entity, by rw [revised.entity?_eq, stored]; rfl, fixed key entity⟩
  gone := by simp
  ages := revised.ages

end EntityList

namespace Blueprint

variable {blueprint : Blueprint}

/-- What a call leaves: the list, gone on, or one of another id. -/
theorem continues_apply (coherent : blueprint.Coherent) (operation : Operation) :
    EntityList.Continues (operation.Edits ·) (operation.takes blueprint) blueprint.entities
        (operation.apply blueprint).entities ∨
      operation.list? = some (operation.apply blueprint).entities.id := by
  cases operation.sorted with
  | plain plain =>
    rw [Operation.takes_of_plain plain, entities_apply_of_plain operation plain]
    exact .inl ((EntityList.Altered.refl false (fun _ => False) _).continues)
  | wires wires =>
    rw [Operation.takes_of_wires wires]
    obtain ⟨edit, wiring, revised⟩ := @rewired_apply blueprint operation wires
    exact .inl (revised.continues fun key entity => .inl ((wiring key).fixed entity))
  | alters alters => exact .inl (altered_apply coherent operation alters).continues
  | modifies key f =>
    obtain ⟨g, revised⟩ := @revised_modifyEntity blueprint key f
    refine .inl (revised.continues fun other entity => ?_)
    by_cases here : key = other
    · exact .inr here
    · exact .inl (by rw [EntityList.editAt_of_ne (Ne.symm here)])
  | replaces list items =>
    rcases setEntities_cases coherent list items with ⟨refused, same⟩ | ⟨-, altered⟩
    · have kept : (Operation.setEntities list items).takes blueprint = [] := by
        rw [Operation.takes, refused]
        rfl
      rw [kept, Operation.apply, same]
      exact .inl ((EntityList.Altered.refl false (fun _ => False) _).continues)
    · exact .inr (congrArg some altered.id.symm)
  | copies list => exact .inr rfl

end Blueprint
end FactoryBlueprint
