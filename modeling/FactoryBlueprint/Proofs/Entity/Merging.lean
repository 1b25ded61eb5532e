import FactoryBlueprint.Proofs.Number.Order
import FactoryBlueprint.Proofs.Geometry.Box
import FactoryBlueprint.Proofs.RoundTrip.Kept
import FactoryBlueprint.Tile

/-! # Merging the same thing again

What an entity has absorbed once it has for good: to merge the same entity again changes nothing
(`Entity.WellFormed.merge_merge`), and an entity has all that it could absorb of itself
(`merge_self`). A well-formed entity can merge with itself (`mergeableWith_self`).
-/

namespace FactoryBlueprint

open Binary64

/-! ### Alike to itself -/

theorem Binary64.sameValue_self {x : Binary64} (finite : x.isFinite = true) :
    x.sameValue x = true := by
  obtain ⟨quanta, counts⟩ := isFinite_iff.mp finite
  exact (sameValue_iff (rank?_of_quanta? counts) (rank?_of_quanta? counts)).mpr rfl

namespace Document

theorem sameItems_cons (a b : Document) (as bs : List Document) :
    sameItems (a :: as) (b :: bs) = (same a b && sameItems as bs) := rfl

theorem sameFields_cons (a b : String × Document) (as bs : List (String × Document)) :
    sameFields (a :: as) (b :: bs) = (a.1 == b.1 && same a.2 b.2 && sameFields as bs) := rfl

theorem sameItems_self {items : List Document} (each : ∀ item ∈ items, same item item = true) :
    sameItems items items = true := by
  induction items with
  | nil => rfl
  | cons first rest ih =>
    obtain ⟨here, later⟩ := List.forall_mem_cons.mp each
    rw [sameItems_cons, here, ih later]
    rfl

theorem sameFields_self {fields : List (String × Document)}
    (each : ∀ field ∈ fields, same field.2 field.2 = true) : sameFields fields fields = true := by
  induction fields with
  | nil => rfl
  | cons first rest ih =>
    obtain ⟨here, later⟩ := List.forall_mem_cons.mp each
    rw [sameFields_cons, here, ih later, beq_self_eq_true]
    rfl

/-- A well-formed document is the same as itself: none of its numbers is `nan`. -/
theorem WellFormed.same_self {document : Document} (formed : document.WellFormed) :
    same document document = true := by
  induction formed with
  | null => rfl
  | bool value => exact beq_self_eq_true value
  | @integer value _ _ => exact beq_self_eq_true value
  | number finite => exact sameValue_self finite
  | text value => exact beq_self_eq_true value
  | array _ ih => exact sameItems_self ih
  | object _ _ ih => exact sameFields_self ih

end Document

theorem Binary64.abs_sub_self_lt {x : Binary64} {quanta : Int} (counts : x.quanta? = some quanta) :
    (x - x).abs < positionTolerance := by
  have rank := rank?_sub counts counts
  rw [Int.sub_self, roundedRank_zero] at rank
  have positive : zero false < positionTolerance := by decide +kernel
  cases difference : x - x with
  | nan => exact nomatch difference ▸ rank
  | infinite s => cases s <;> exact absurd (difference ▸ rank) (by decide +kernel)
  | finite s count representable =>
    rw [difference] at rank
    obtain rfl := withSign_eq_zero_iff.mp (Option.some.inj rank)
    exact positive

theorem Point.near_self {p : Point} (finite : ∀ axis, ∃ n, (p.along axis).quanta? = some n) :
    p.near p = true := by
  obtain ⟨m, first⟩ := finite .x
  obtain ⟨n, second⟩ := finite .y
  rw [near, Bool.and_eq_true, decide_eq_true_eq, decide_eq_true_eq]
  exact ⟨abs_sub_self_lt first, abs_sub_self_lt second⟩

/-! ### Wires and entities -/

theorem Distinct.addAll_addAll {α : Type} [DecidableEq α] (as others : List α) :
    addAll (addAll as others) others = addAll as others :=
  addAll_eq_self fun _ mem => mem_addAll.mpr (.inr mem)

theorem Distinct.addAll_self {α : Type} [DecidableEq α] (as : List α) : addAll as as = as :=
  addAll_eq_self fun _ mem => mem

theorem Connections.merge_merge (connections others : Connections) :
    (connections.merge others).merge others = connections.merge others := by
  refine eq_of_ends (fun side color => ?_) fun side => ?_
  · rw [circuit_merge, circuit_merge, Distinct.addAll_addAll]
  · rw [copper_merge, copper_merge, Distinct.addAll_addAll]

theorem Connections.merge_self (connections : Connections) :
    connections.merge connections = connections := by
  refine eq_of_ends (fun side color => ?_) fun side => ?_
  · rw [circuit_merge, Distinct.addAll_self]
  · rw [copper_merge, Distinct.addAll_self]

namespace Entity

/-- What the entity has under keys is in key order, and its documents are such as can be read. -/
structure WellFormed (entity : Entity) : Prop where
  items : Fields.Sorted entity.items
  tags : Fields.Sorted entity.tags
  fields : (Document.object entity.fields).WellFormed
  extra : (Document.object entity.extra).WellFormed

/-- The entity stands at a finite position, what it has under keys is in key order, and its documents
are such as can be read. -/
structure Orderly (entity : Entity) : Prop where
  position : ∀ axis, ∃ n, (entity.position.along axis).quanta? = some n
  items : Fields.Sorted entity.items
  tags : Fields.Sorted entity.tags
  fields : (Document.object entity.fields).WellFormed
  extra : (Document.object entity.extra).WellFormed

variable {entity : Entity}

theorem Orderly.wellFormed (orderly : entity.Orderly) : entity.WellFormed :=
  ⟨orderly.items, orderly.tags, orderly.fields, orderly.extra⟩

namespace WellFormed

/-- The fields that are compared are as well-formed as all. -/
theorem fixedFields (formed : entity.WellFormed) :
    (Document.object entity.fixedFields).WellFormed := by
  cases formed.fields with
  | object sorted each =>
    exact .object (sorted.without _) fun field mem => each field (List.mem_of_mem_filter mem)

theorem mergeableWith_self (formed : entity.WellFormed) : entity.mergeableWith entity = true := by
  have extra : Document.sameFields entity.extra entity.extra = true := formed.extra.same_self
  have fixed : Document.sameFields entity.fixedFields entity.fixedFields = true :=
    formed.fixedFields.same_self
  simp only [mergeableWith, decide_true, Bool.true_and, Bool.and_eq_true]
  exact ⟨extra, fixed⟩

/-- What is absorbed twice is absorbed once. -/
theorem merge_merge (formed : entity.WellFormed) (there : Entity) :
    (there.merge entity).merge entity = there.merge entity := by
  simp only [merge, Connections.merge_merge, Distinct.addAll_addAll,
    Fields.overwrite_overwrite formed.items, Fields.overwrite_overwrite formed.tags]
  cases entity.fields.lookup controlBehavior with
  | none => rfl
  | some behavior => simp only [Fields.insert_insert]

/-- An entity has all that it could absorb of itself. -/
theorem merge_self (formed : entity.WellFormed) : entity.merge entity = entity := by
  simp only [merge, Connections.merge_self, Distinct.addAll_self, formed.items.overwrite_self,
    formed.tags.overwrite_self]
  cases found : entity.fields.lookup controlBehavior with
  | none => rfl
  | some behavior =>
    have held := formed.fields.sorted.insert_eq_self (Fields.mem_of_lookup found)
    simp only [held]

end WellFormed
end Entity

theorem Tile.mergeableWith_self (tile : Tile) : tile.mergeableWith tile = true := by
  simp [mergeableWith]

theorem Tile.merge_merge {tile : Tile} (sorted : Fields.Sorted tile.extra) (there : Tile) :
    (there.merge tile).merge tile = there.merge tile := by
  simp only [merge, Fields.overwrite_overwrite sorted]

theorem Tile.merge_self {tile : Tile} (sorted : Fields.Sorted tile.extra) :
    tile.merge tile = tile := by
  simp only [merge, sorted.overwrite_self]

end FactoryBlueprint
