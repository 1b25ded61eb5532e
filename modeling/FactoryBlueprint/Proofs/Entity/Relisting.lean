import FactoryBlueprint.Entity.Item
import FactoryBlueprint.Proofs.Connections.Terminals
import FactoryBlueprint.Proofs.Store.Cells
import FactoryBlueprint.Schedule.Basic

/-! # Lists under other ids

Which ids lists have tells nothing about what refers into them. Under a renaming of lists
(`Association.relist`) an entity keeps all but the lists that its associations are of, and what is
done to the entity is done to the renamed one alike: wires are added and removed
(`relist_addCircuit` and the like), entities are merged (`relist_merge`).
-/

namespace FactoryBlueprint

variable {rename : Equiv.Perm ListId}

namespace Association

/-- The association under another id of its list. -/
def relist (rename : Equiv.Perm ListId) (association : Association) : Association :=
  ⟨rename association.list, association.target⟩

@[simp] theorem relist_symm_relist (rename : Equiv.Perm ListId) (association : Association) :
    (association.relist rename).relist rename.symm = association := by
  simp [relist]

theorem relist_injective (rename : Equiv.Perm ListId) : Function.Injective (relist rename) :=
  Function.LeftInverse.injective (relist_symm_relist rename)

/-- Where the lists referred to stay as they are but for the one that is copied, the association in
the copy is the renamed one. -/
theorem rescope_eq_relist {association : Association} {old : ListId}
    (third : association.list ≠ old → rename association.list = association.list) :
    association.rescope old (rename old) = association.relist rename := by
  rw [rescope, relist]
  split
  · rename_i own
    rw [own]
  · rename_i foreign
    rw [third foreign]

theorem relist_rescope (association : Association) (old new : ListId) :
    (association.rescope old new).relist rename =
      (association.relist rename).rescope (rename old) (rename new) := by
  simp only [rescope, relist, rename.apply_eq_iff_eq]
  split <;> rfl

end Association

/-- The far end in a list under another id. -/
def WireEnd.relist (rename : Equiv.Perm ListId) (far : WireEnd Association) : WireEnd Association :=
  ⟨far.target.relist rename, far.terminal⟩

@[simp] theorem WireEnd.relist_symm_relist (rename : Equiv.Perm ListId)
    (far : WireEnd Association) : (far.relist rename).relist rename.symm = far := by
  simp [relist]

theorem WireEnd.relist_injective (rename : Equiv.Perm ListId) :
    Function.Injective (WireEnd.relist rename) :=
  Function.LeftInverse.injective (WireEnd.relist_symm_relist rename)

/-- What is added comes last in both or is there already in both. -/
theorem Distinct.add_map {α β : Type} [DecidableEq α] [DecidableEq β] {f : α → β}
    (injective : Function.Injective f) (as : List α) (a : α) :
    (add as a).map f = add (as.map f) (f a) :=
  (addAll_map injective as [a]).symm

namespace WireEntry

/-- The far ends in lists under other ids. -/
def relist (rename : Equiv.Perm ListId) (entry : WireEntry) : WireEntry :=
  entry.mapTargets (Association.relist rename)

@[simp] theorem ends_relist (entry : WireEntry) :
    (entry.relist rename).ends = entry.ends.map (WireEnd.relist rename) :=
  entry.ends_mapTargets _

theorem relist_add (entry : WireEntry) (far : WireEnd Association) :
    (entry.add far).relist rename = (entry.relist rename).add (far.relist rename) := by
  refine eq_of_ends ?_
  rw [ends_relist, ends_add, ends_add, ends_relist,
    Distinct.add_map (WireEnd.relist_injective rename)]

theorem relist_remove (entry : WireEntry) {leaves : WireEnd Association → Bool}
    (same : ∀ far : WireEnd Association, leaves (far.relist rename) = leaves far) :
    (entry.remove leaves).relist rename = (entry.relist rename).remove leaves := by
  refine eq_of_ends ?_
  rw [ends_relist, ends_remove, ends_remove, ends_relist, List.filter_map]
  exact congrArg _ (List.filter_congr fun far _ => by simp [same])

end WireEntry

namespace Connections

/-- The wires to lists under other ids. -/
def relist (rename : Equiv.Perm ListId) (connections : Connections) : Connections :=
  connections.mapTargets (Association.relist rename)

theorem circuitEntry_relist (connections : Connections) (side : CircuitSide) (color : WireColor) :
    (connections.relist rename).circuitEntry side color =
      (connections.circuitEntry side color).relist rename := by
  cases side <;> cases color <;> rfl

theorem copperEntry_relist (connections : Connections) (side : CopperSide) :
    (connections.relist rename).copperEntry side =
      (connections.copperEntry side).relist rename := by
  cases side <;> rfl

theorem circuit_relist (connections : Connections) (side : CircuitSide) (color : WireColor) :
    (connections.relist rename).circuit side color =
      (connections.circuit side color).map (WireEnd.relist rename) :=
  connections.circuit_mapTargets _ side color

theorem copper_relist (connections : Connections) (side : CopperSide) :
    (connections.relist rename).copper side =
      (connections.copper side).map (WireEnd.relist rename) :=
  connections.copper_mapTargets _ side

theorem relist_modifyCircuit (connections : Connections) (side : CircuitSide) (color : WireColor)
    {f g : WireEntry → WireEntry}
    (same : ∀ entry : WireEntry, (f entry).relist rename = g (entry.relist rename)) :
    (connections.modifyCircuit side color f).relist rename =
      (connections.relist rename).modifyCircuit side color g := by
  refine eq_of_ends (fun other wire => ?_) fun other => ?_
  · rw [circuit_relist, circuit_modifyCircuit, circuit_modifyCircuit, circuit_relist]
    split
    · rw [circuitEntry_relist, ← same, WireEntry.ends_relist]
    · rfl
  · rw [copper_relist, copper_modifyCircuit, copper_modifyCircuit, copper_relist]

theorem relist_modifyCopper (connections : Connections) (side : CopperSide)
    {f g : WireEntry → WireEntry}
    (same : ∀ entry : WireEntry, (f entry).relist rename = g (entry.relist rename)) :
    (connections.modifyCopper side f).relist rename =
      (connections.relist rename).modifyCopper side g := by
  refine eq_of_ends (fun other wire => ?_) fun other => ?_
  · rw [circuit_relist, circuit_modifyCopper, circuit_modifyCopper, circuit_relist]
  · rw [copper_relist, copper_modifyCopper, copper_modifyCopper, copper_relist]
    split
    · rw [copperEntry_relist, ← same, WireEntry.ends_relist]
    · rfl

theorem relist_addCircuit (connections : Connections) (side : CircuitSide) (color : WireColor)
    (far : WireEnd Association) : (connections.addCircuit side color far).relist rename =
      (connections.relist rename).addCircuit side color (far.relist rename) :=
  relist_modifyCircuit _ _ _ fun entry => entry.relist_add far

theorem relist_removeCircuit (connections : Connections) (side : CircuitSide) (color : WireColor)
    (target : Key) (terminal : Option Nat) :
    (connections.removeCircuit side color target terminal).relist rename =
      (connections.relist rename).removeCircuit side color target terminal :=
  relist_modifyCircuit _ _ _ fun entry => entry.relist_remove fun _ => rfl

theorem relist_addCopper (connections : Connections) (side : CopperSide)
    (far : WireEnd Association) : (connections.addCopper side far).relist rename =
      (connections.relist rename).addCopper side (far.relist rename) :=
  relist_modifyCopper _ _ fun entry => entry.relist_add far

theorem relist_removeCopper (connections : Connections) (side : CopperSide) (target : Key) :
    (connections.removeCopper side target).relist rename =
      (connections.relist rename).removeCopper side target :=
  relist_modifyCopper _ _ fun entry => entry.relist_remove fun _ => rfl

theorem relist_merge (connections others : Connections) :
    (connections.merge others).relist rename =
      (connections.relist rename).merge (others.relist rename) := by
  refine eq_of_ends (fun side color => ?_) fun side => ?_
  · simp only [circuit_relist, circuit_merge, Distinct.addAll_map (WireEnd.relist_injective rename)]
  · simp only [copper_relist, copper_merge, Distinct.addAll_map (WireEnd.relist_injective rename)]

@[simp] theorem relist_symm_relist (rename : Equiv.Perm ListId) (connections : Connections) :
    (connections.relist rename).relist rename.symm = connections := by
  refine eq_of_ends (fun side color => ?_) fun side => ?_
  · simp [circuit_relist, Function.comp_def]
  · simp [copper_relist, Function.comp_def]

end Connections

namespace Entity

/-- The entity with its associations in lists under other ids. -/
def relist (rename : Equiv.Perm ListId) (entity : Entity) : Entity :=
  entity.mapAssociations (·.relist rename)

@[simp] theorem relist_symm_relist (rename : Equiv.Perm ListId) (entity : Entity) :
    (entity.relist rename).relist rename.symm = entity := by
  have connections := Connections.relist_symm_relist rename entity.connections
  have neighbours : (entity.neighbours.map (·.relist rename)).map (·.relist rename.symm) =
      entity.neighbours := by simp [Function.comp_def]
  obtain ⟨id, name, position, direction, wires, poles, items, tags, fields, extra⟩ := entity
  exact congrArg₂ (fun wires poles => Entity.mk id name position direction wires poles items tags
    fields extra) connections neighbours

/-- An edit of associations that renames with each renames with the entity. -/
theorem relist_mapAssociations {f g : Association → Association}
    (same : ∀ association, (f association).relist rename = g (association.relist rename))
    (entity : Entity) :
    (entity.mapAssociations f).relist rename = (entity.relist rename).mapAssociations g := by
  have connections : (entity.connections.mapTargets f).relist rename =
      (entity.connections.relist rename).mapTargets g := by
    refine Connections.eq_of_ends (fun side color => ?_) fun side => ?_
    · simp [Connections.circuit_relist, Connections.circuit_mapTargets, WireEnd.relist, same]
    · simp [Connections.copper_relist, Connections.copper_mapTargets, WireEnd.relist, same]
  have neighbours : (entity.neighbours.map f).map (·.relist rename) =
      (entity.neighbours.map (·.relist rename)).map g := by
    simp [same]
  exact congrArg₂ (fun wires poles => { entity with connections := wires, neighbours := poles })
    connections neighbours

@[simp] theorem name_relist (entity : Entity) : (entity.relist rename).name = entity.name := rfl

@[simp] theorem position_relist (entity : Entity) :
    (entity.relist rename).position = entity.position := rfl

@[simp] theorem mask_relist (entity : Entity) (table : PrototypeTable) :
    (entity.relist rename).mask table = entity.mask table := rfl

@[simp] theorem kind_relist (entity : Entity) (table : PrototypeTable) :
    (entity.relist rename).kind table = entity.kind table := rfl

@[simp] theorem worldBox_relist (entity : Entity) (table : PrototypeTable) (offset : Point) :
    (entity.relist rename).worldBox table offset = entity.worldBox table offset := rfl

@[simp] theorem warnings_relist (entity : Entity) (table : PrototypeTable) :
    (entity.relist rename).warnings table = entity.warnings table := rfl

@[simp] theorem mergeableWith_relist (entity other : Entity) :
    (entity.relist rename).mergeableWith (other.relist rename) = entity.mergeableWith other := rfl

theorem relist_merge (entity other : Entity) : (entity.merge other).relist rename =
    (entity.relist rename).merge (other.relist rename) := by
  have connections : (entity.connections.merge other.connections).relist rename = _ :=
    Connections.relist_merge ..
  have neighbours := Distinct.addAll_map (Association.relist_injective rename) entity.neighbours
    other.neighbours
  exact congrArg₂ (fun wires poles => { entity.merge other with
    connections := wires, neighbours := poles }) connections neighbours.symm

end Entity

namespace Item

mutual

/-- The item with its associations in lists under other ids. -/
def relist (rename : Equiv.Perm ListId) : Item → Item
  | .entity e => .entity (e.relist rename)
  | .group id position members => .group id position (relistAll rename members)

def relistAll (rename : Equiv.Perm ListId) : List Item → List Item
  | [] => []
  | item :: items => relist rename item :: relistAll rename items

end

theorem relistAll_eq_map (rename : Equiv.Perm ListId) (items : List Item) :
    relistAll rename items = items.map (·.relist rename) := by
  induction items with
  | nil => rfl
  | cons item items ih => rw [relistAll, List.map_cons, ih]

mutual

theorem warnings_relist (rename : Equiv.Perm ListId) (table : PrototypeTable) :
    (item : Item) → (item.relist rename).warnings table = item.warnings table
  | .entity _ => rfl
  | .group _ _ members => warnings_relistAll rename table members

theorem warnings_relistAll (rename : Equiv.Perm ListId) (table : PrototypeTable) :
    (items : List Item) → warningsOfAll table (relistAll rename items) = warningsOfAll table items
  | [] => rfl
  | item :: items => by
    rw [relistAll, warningsOfAll, warnings_relist rename table item,
      warnings_relistAll rename table items, warningsOfAll]

end

end Item

namespace Schedule

/-- The schedule with its locomotives in lists under other ids. -/
def relist (rename : Equiv.Perm ListId) (schedule : Schedule Association) :
    Schedule Association :=
  { schedule with locomotives := schedule.locomotives.map (·.relist rename) }

@[simp] theorem relist_symm_relist (rename : Equiv.Perm ListId) (schedule : Schedule Association) :
    (schedule.relist rename).relist rename.symm = schedule := by
  simp [relist, Function.comp_def]

theorem relist_addLocomotive (schedule : Schedule Association) (locomotive : Association) :
    (schedule.addLocomotive locomotive).relist rename =
      (schedule.relist rename).addLocomotive (locomotive.relist rename) :=
  congrArg (Schedule.mk schedule.stops · schedule.extra)
    (Distinct.add_map (Association.relist_injective rename) schedule.locomotives locomotive)

theorem relist_removeLocomotive (schedule : Schedule Association) (key : Key) :
    (schedule.removeLocomotive key).relist rename =
      (schedule.relist rename).removeLocomotive key := by
  have locomotives : (schedule.locomotives.filter (!·.pointsTo key)).map (·.relist rename) =
      (schedule.locomotives.map (·.relist rename)).filter (!·.pointsTo key) := by
    rw [List.filter_map]
    rfl
  exact congrArg (Schedule.mk schedule.stops · schedule.extra) locomotives

theorem removeStop?_relist (schedule : Schedule Association) (station : String) :
    (schedule.relist rename).removeStop? station =
      (schedule.removeStop? station).map fun (stop, after) => (stop, after.relist rename) := by
  simp only [removeStop?, relist]
  cases schedule.stops.find? (·.station = station) <;> rfl

end Schedule
end FactoryBlueprint
