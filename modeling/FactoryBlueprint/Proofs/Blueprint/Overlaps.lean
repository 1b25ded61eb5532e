import FactoryBlueprint.EntityList.Search
import FactoryBlueprint.Icons
import FactoryBlueprint.Proofs.EntityList.Append
import FactoryBlueprint.Proofs.Store.Clashes
import FactoryBlueprint.Proofs.TileList.Coherence
import FactoryBlueprint.Schedule.Basic

/-! # Overlaps that are found one by one and all at once

An object that is appended is checked against those that are there already, and an inspection checks
every two objects. Appended to a list, an object adds to the overlaps that an inspection finds those
that were found when it was appended (`overlapWarnings_append`).
-/

namespace FactoryBlueprint

theorem Mask.intersects_comm (a b : Mask) : a.intersects b = b.intersects a := by
  rw [Bool.eq_iff_iff]
  simp only [Mask.intersects, Mask.contains, List.any_eq_true, List.contains_iff_mem]
  exact exists_congr fun layer => and_comm

/-! ### Overlaps among warnings -/

/-- True of warnings of two objects that overlap. -/
def Warning.isOverlap : Warning → Bool
  | overlap .. => true
  | _ => false

/-- No overlap is among the warnings. -/
def NoOverlap (warnings : List Warning) : Prop := ∀ warning ∈ warnings, warning.isOverlap = false

theorem noOverlap_nil : NoOverlap [] := List.forall_mem_nil _

theorem noOverlap_singleton {warning : Warning} (other : warning.isOverlap = false) :
    NoOverlap [warning] := List.forall_mem_singleton.mpr other

theorem noOverlap_append {warnings more : List Warning} :
    NoOverlap (warnings ++ more) ↔ NoOverlap warnings ∧ NoOverlap more :=
  List.forall_mem_append

theorem noOverlap_flatMap {α : Type} {f : α → List Warning} {as : List α} :
    NoOverlap (as.flatMap f) ↔ ∀ a ∈ as, NoOverlap (f a) := by
  simp only [NoOverlap, List.mem_flatMap]
  exact ⟨fun all a mem warning told => all warning ⟨a, mem, told⟩,
    fun each warning ⟨a, mem, told⟩ => each a mem warning told⟩

theorem NoOverlap.filter_eq {warnings : List Warning} (none : NoOverlap warnings) :
    warnings.filter Warning.isOverlap = [] :=
  List.filter_eq_nil_iff.mpr fun warning mem => by simp [none warning mem]

theorem Signal.noOverlap (signal : Signal) (table : PrototypeTable) :
    NoOverlap (signal.warnings table) := by
  unfold Signal.warnings
  split
  · exact noOverlap_singleton rfl
  · split
    · exact noOverlap_nil
    · exact noOverlap_singleton rfl

theorem Icon.noOverlap {icons : List Icon} {table : PrototypeTable} {warnings : List Warning}
    (checked : check icons .strict table = .ok warnings) : NoOverlap warnings := by
  rw [check, if_neg nofun] at checked
  split at checked
  · exact nomatch checked
  · split at checked
    · exact nomatch checked
    · obtain rfl := Except.ok.inj checked
      exact noOverlap_flatMap.mpr fun icon _ => icon.signal.noOverlap table

theorem Entity.noOverlap (entity : Entity) (table : PrototypeTable) :
    NoOverlap (entity.warnings table) := by
  unfold Entity.warnings
  split
  · exact noOverlap_singleton rfl
  · rename_i prototype _
    refine noOverlap_append.mpr ⟨?_, List.forall_mem_map.mpr fun item _ => rfl⟩
    refine noOverlap_append.mpr ⟨noOverlap_append.mpr ⟨?_, ?_⟩, ?_⟩
    · split
      · exact noOverlap_nil
      · exact noOverlap_singleton rfl
    · split
      · exact noOverlap_nil
      · exact noOverlap_singleton rfl
    · split
      · split
        · exact noOverlap_singleton rfl
        · exact noOverlap_nil
      · exact noOverlap_nil

theorem Tile.noOverlap (tile : Tile) (table : PrototypeTable) :
    NoOverlap (tile.warnings table) := by
  refine noOverlap_append.mpr ⟨?_, ?_⟩ <;> split
  · exact noOverlap_nil
  · exact noOverlap_singleton rfl
  · exact noOverlap_nil
  · exact noOverlap_singleton rfl

theorem Schedule.noOverlap {ref : Type} (schedule : Schedule ref) (table : PrototypeTable) :
    NoOverlap (schedule.warnings table) := by
  refine noOverlap_append.mpr ⟨?_, ?_⟩
  · split
    · exact noOverlap_nil
    · exact noOverlap_singleton rfl
  · refine noOverlap_flatMap.mpr fun stop _ => noOverlap_flatMap.mpr fun wait _ =>
      noOverlap_append.mpr ⟨?_, ?_⟩
    · split
      · exact noOverlap_nil
      · exact noOverlap_singleton rfl
    · exact noOverlap_flatMap.mpr fun condition _ => noOverlap_flatMap.mpr fun signal _ =>
        signal.noOverlap table

/-! ### Entities -/

namespace EntityList

variable {table : PrototypeTable} {list after : EntityList}

theorem overlapsAmong_eq (list : EntityList) (table : PrototypeTable) (keys : List Key) :
    list.overlapsAmong table keys = list.index.clashes (list.overlapWarning? table) keys := by
  induction keys with
  | nil => rfl
  | cons key later ih => exact congrArg (_ ++ ·) ih

/-- The index holds the boxes of the entities in order, and no others. -/
theorem Coherent.box?_isSome_iff (coherent : list.Coherent table) (key : Key) :
    (list.index.box? key).isSome ↔ key ∈ list.leaves := by
  rw [coherent.mem_leaves_iff, coherent.indexed, entity?]
  cases list.get? key with
  | none => simp
  | some placed => simp [Placed.worldBox?]

theorem Coherent.ne_nextKey (coherent : list.Coherent table) {key : Key}
    (mem : key ∈ list.leaves) : key ≠ list.arena.nextKey := by
  rintro rfl
  rw [coherent.mem_leaves_iff, entity?, get?, list.arena.get?_nextKey] at mem
  exact nomatch mem

/-- The entity appended adds the collisions that it has with others. -/
theorem overlapWarnings_append (coherent : list.Coherent table) (filed : list.index.Filed)
    (entity : Entity) : ((list.append table entity).overlapWarnings table).Perm
      (list.overlapWarnings table ++
        (list.index.query (entity.worldBox table .zero)).filterMap
          (list.collision? table entity (.zero + entity.position))) := by
  have kept : ∀ key ∈ list.leaves, (list.append table entity).get? key = list.get? key :=
    fun key mem => by rw [get?_append, if_neg (coherent.ne_nextKey mem)]
  have here : (list.append table entity).get? list.arena.nextKey =
      some ⟨.top, .entity entity⟩ := by rw [get?_append, if_pos rfl]
  rw [overlapWarnings, overlapWarnings, overlapsAmong_eq, overlapsAmong_eq, leaves_append]
  refine SpatialIndex.clashes_add filed coherent.nodup_leaves coherent.box?_isSome_iff
    (fun mem => coherent.ne_nextKey mem rfl) coherent.room_nextKey (entity.worldBox table .zero)
    (fun a inList b alsoInList => ?_) fun a inList => ?_
  · simp only [overlapWarning?, entity?, worldPosition?, kept a inList, kept b alsoInList]
  · simp only [overlapWarning?, collision?, entity?, worldPosition?, kept a inList, here]
    cases (list.get? a).bind Placed.entity? with
    | none => rfl
    | some first =>
      simp only [bind, Option.bind, Placed.entity?, Option.map_some, Placed.worldPosition,
        Placed.position, Site.offset_top, Mask.intersects_comm (entity.mask table)]

/-- Every warning of an overlap is one. -/
theorem filter_overlapWarnings (list : EntityList) (table : PrototypeTable) :
    (list.overlapWarnings table).filter Warning.isOverlap = list.overlapWarnings table := by
  rw [overlapWarnings, overlapsAmong_eq, List.filter_eq_self]
  intro warning mem
  obtain ⟨a, b, told⟩ := SpatialIndex.exists_of_mem_clashes mem
  simp only [overlapWarning?, Option.bind_eq_bind, Option.bind_eq_some_iff] at told
  obtain ⟨_, -, _, -, _, -, told⟩ := told
  split at told
  · exact Option.some.inj told ▸ rfl
  · exact nomatch told

/-- Entities whose wires alone differ overlap in the same way. -/
theorem overlapWarnings_congr (filed : list.index.Filed) (afterFiled : after.index.Filed)
    (coherent : list.Coherent table) (leaves : after.leaves = list.leaves)
    (boxes : ∀ key, after.index.box? key = list.index.box? key)
    (same : ∀ a b, after.overlapWarning? table a b = list.overlapWarning? table a b) :
    (after.overlapWarnings table).Perm (list.overlapWarnings table) := by
  rw [overlapWarnings, overlapWarnings, overlapsAmong_eq, overlapsAmong_eq, leaves]
  exact SpatialIndex.clashes_congr filed afterFiled coherent.nodup_leaves boxes
    fun a _ b _ => same a b

end EntityList

/-! ### Tiles -/

namespace TileList

variable {list : TileList}

theorem overlapsAmong_eq (coherent : list.Coherent) (table : PrototypeTable) (keys : List Key) :
    list.overlapsAmong table keys = list.index.clashes
      (fun key other => (list.tile? key).bind fun tile => list.overlapWarning? table tile other)
      keys := by
  induction keys with
  | nil => rfl
  | cons key later ih =>
    rw [overlapsAmong, SpatialIndex.clashes, ih, coherent.indexed]
    cases list.tile? key <;> rfl

theorem Coherent.box?_isSome_iff (coherent : list.Coherent) (key : Key) :
    (list.index.box? key).isSome ↔ key ∈ list.order := by
  rw [coherent.stored, coherent.indexed, Option.isSome_map]

theorem tile?_append (list : TileList) (tile : Tile) (key : Key) :
    (list.append tile).tile? key =
      if key = list.arena.nextKey then some tile else list.tile? key :=
  list.arena.get?_insert tile key

/-- The tile appended adds the collisions that it has with others. -/
theorem overlapWarnings_append (coherent : list.Coherent) (filed : list.index.Filed)
    (table : PrototypeTable) (tile : Tile) : ((list.append tile).overlapWarnings table).Perm
      (list.overlapWarnings table ++ list.collisions table tile) := by
  have appended : (list.append tile).Coherent :=
    coherent.place tile (List.perm_append_singleton _ _)
  have kept : ∀ key ∈ list.order, (list.append tile).tile? key = list.tile? key := by
    intro key mem
    have old : key ≠ list.arena.nextKey := fun same => coherent.nextKey_notMem (same ▸ mem)
    rw [tile?_append, if_neg old]
  have here : (list.append tile).tile? list.arena.nextKey = some tile := by
    rw [tile?_append, if_pos rfl]
  rw [overlapWarnings, overlapWarnings, overlapsAmong_eq appended, overlapsAmong_eq coherent]
  refine SpatialIndex.clashes_add filed coherent.nodup coherent.box?_isSome_iff
    coherent.nextKey_notMem coherent.room_nextKey tile.box (fun a inList b alsoInList => ?_)
    fun a inList => ?_
  · simp only [overlapWarning?, kept a inList, kept b alsoInList]
  · simp only [overlapWarning?, collision?, kept a inList, here]
    cases list.tile? a with
    | none => rfl
    | some first => simp only [bind, Option.bind, Mask.intersects_comm (tile.mask table)]

/-- Every warning of an overlap is one. -/
theorem filter_overlapWarnings (coherent : list.Coherent) (table : PrototypeTable) :
    (list.overlapWarnings table).filter Warning.isOverlap = list.overlapWarnings table := by
  rw [overlapWarnings, overlapsAmong_eq coherent, List.filter_eq_self]
  intro warning mem
  obtain ⟨a, b, told⟩ := SpatialIndex.exists_of_mem_clashes mem
  simp only [overlapWarning?, Option.bind_eq_bind, Option.bind_eq_some_iff] at told
  obtain ⟨_, -, _, -, told⟩ := told
  split at told
  · exact Option.some.inj told ▸ rfl
  · exact nomatch told

end TileList
end FactoryBlueprint
