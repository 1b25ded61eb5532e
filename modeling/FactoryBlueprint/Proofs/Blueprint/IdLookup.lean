import FactoryBlueprint.Proofs.Blueprint.Grouping
import FactoryBlueprint.Proofs.EntityList.Paths

/-! # Finding members of a blueprint by their ids

In a reachable blueprint a dotted path finds a stored entity or group that has it as its id path, and
it finds one that no earlier sibling hides. Where siblings share no ids, it finds whatever has it.
-/

namespace FactoryBlueprint

namespace EntityList

variable {list : EntityList} {around : List Key} {key : Key} {path : List String}

/-- An entity or group is stored under the key, and the ids of the groups around it, the outermost
first, and its own are the path. -/
def HasIdPath (list : EntityList) (key : Key) (path : List String) : Prop :=
  list.contains key = true ∧ ∃ around, Member.HasIdPath list.idOf? list.members around key path

/-- As `HasIdPath`, where neither the key nor a group around it has an earlier sibling of its id. -/
def PathLeads (list : EntityList) (path : List String) (key : Key) : Prop :=
  list.contains key = true ∧ ∃ around, Member.Leads list.idOf? list.members around key path

/-- No two siblings share an id. -/
def DistinctIds (list : EntityList) : Prop :=
  ∀ around siblings, Member.Siblings list.members around siblings →
    (siblings.filterMap (list.idOf? ·.key)).Nodup

theorem DistinctIds.not_shadowed (distinct : list.DistinctIds) (key : Key) :
    ¬ Member.Shadowed list.idOf? list.members key := by
  rintro ⟨around, before, member, after, id, beside, rfl, named, earlier, mem, shared⟩
  have nodup := distinct around _ beside
  rw [List.filterMap_append] at nodup
  have inBefore : id ∈ before.filterMap (list.idOf? ·.key) :=
    List.mem_filterMap.mpr ⟨earlier, mem, shared⟩
  have here : id ∈ (member :: after).filterMap (list.idOf? ·.key) :=
    List.mem_filterMap.mpr ⟨member, List.mem_cons_self, named⟩
  exact (List.nodup_append'.mp nodup).2.2 inBefore here

theorem DistinctIds.pathLeads_iff (distinct : list.DistinctIds) :
    list.PathLeads path key ↔ list.HasIdPath key path :=
  and_congr_right fun _ => exists_congr fun _ =>
    ⟨fun leads => leads.toHasIdPath, fun named => ⟨named, fun above _ => distinct.not_shadowed above⟩⟩

variable {table : PrototypeTable}

theorem Coherent.findById_eq_some_iff (coherent : list.Coherent table) (path : String)
    (key : Key) :
    list.findById path = some key ↔ list.PathLeads (path.splitOn ".") key := by
  rw [findById, findPath_eq_some_iff coherent.nodup]
  refine ⟨fun ⟨around, leads⟩ => ⟨?_, around, leads⟩, fun ⟨_, found⟩ => found⟩
  rw [coherent.contains_iff]
  exact Member.mem_keysOfAll_of_place leads.place
    (List.mem_append_right around (List.mem_singleton_self key))

end EntityList

namespace Blueprint

variable {blueprint : Blueprint}

/-- A path finds exactly the stored entity or group that has it as its id path and that, like the
groups around it, is the first of its siblings of its id. Where siblings share no ids, it finds
exactly what has it as its id path. -/
theorem Reachable.path_lookup {allowed : Blueprint → Operation → Prop}
    (reachable : Reachable allowed blueprint) (path : String) (key : Key) :
    (blueprint.entities.findById path = some key ↔
      blueprint.entities.PathLeads (path.splitOn ".") key) ∧
    (blueprint.entities.DistinctIds → (blueprint.entities.findById path = some key ↔
      blueprint.entities.HasIdPath key (path.splitOn "."))) := by
  have found := reachable.coherent.entities.findById_eq_some_iff path key
  exact ⟨found, fun distinct => found.trans distinct.pathLeads_iff⟩

def namedChest (id : String) (position : Point) : Item :=
  .entity { Entity.plain "wooden-chest" position with id := some id }

/-- Two chests, and a group with a chest in it that has the id of the first one. -/
def chestRow : Item :=
  .group (some "row") ⟨10, 0⟩ [namedChest "left" ⟨0.5, 0.5⟩, namedChest "right" ⟨1.5, 0.5⟩,
    .group (some "inner") ⟨5, 0⟩ [namedChest "left" ⟨0.5, 0.5⟩]]

theorem reachable_holding {item : Item} (within : ((empty .empty ⟨0⟩).extent.coverAll
      ((item.grounded .zero).map (·.worldBox .empty .zero))).oversize? = none) :
    Reachable (fun _ _ => True) ((empty .empty ⟨0⟩).taking false [item]) := by
  have initial : Initial (empty .empty ⟨0⟩) := .empty .empty ⟨0⟩
  have fresh : Run (fun _ _ => True) (empty .empty ⟨0⟩) (empty .empty ⟨0⟩) := .start
  obtain ⟨placement, added⟩ := (Reachable.exists_added ⟨_, initial, fresh⟩ rfl within).1
  have run := fresh.step (.addEntity item false) trivial
  rw [Operation.apply, added] at run
  exact ⟨_, initial, run⟩

/-- The row, and its first chest taken out from within. -/
def openedRow : Blueprint :=
  (((empty .empty ⟨0⟩).taking false [chestRow]).removeEntityKey ⟨1, 0⟩).1

theorem reachable_openedRow : Reachable (fun _ _ => True) openedRow := by
  obtain ⟨start, initial, run⟩ := @reachable_holding chestRow (by decide +kernel)
  exact ⟨start, initial, run.step (.removeEntityKey ⟨1, 0⟩) trivial⟩

theorem members_openedRow : openedRow.entities.members =
    [.group ⟨0, 0⟩ [.entity ⟨2, 0⟩, .group ⟨3, 0⟩ [.entity ⟨4, 0⟩]]] := rfl

theorem distinctIds_openedRow : openedRow.entities.DistinctIds := by
  intro around siblings beside
  rw [members_openedRow] at beside
  rcases beside with _ | ⟨_ | ⟨_, ⟨⟩⟩, _ | ⟨_ | ⟨_, _ | ⟨_, ⟨⟩⟩⟩, _ | ⟨_ | ⟨_, ⟨⟩⟩, _⟩⟩⟩
  all_goals decide +kernel

/-- The chest in the inner group is found. -/
theorem path_lookup_openedRow :
    Reachable (fun _ _ => True) openedRow ∧ openedRow.entities.DistinctIds ∧
      openedRow.entities.HasIdPath ⟨4, 0⟩ ("row.inner.left".splitOn ".") ∧
      openedRow.entities.findById "row.inner.left" = some ⟨4, 0⟩ ∧
      openedRow.entities.PathLeads ("row.inner.left".splitOn ".") ⟨4, 0⟩ := by
  have segments : "row.inner.left".splitOn "." = ["row", "inner", "left"] := by
    simp +decide [String.splitOn, String.splitOnAux]
  have named : openedRow.entities.HasIdPath ⟨4, 0⟩ ["row", "inner", "left"] :=
    ⟨rfl, [⟨0, 0⟩, ⟨3, 0⟩], by decide +kernel, .cons rfl (.cons rfl (.cons rfl .nil))⟩
  rw [← segments] at named
  obtain ⟨leads, found⟩ := reachable_openedRow.path_lookup "row.inner.left" ⟨4, 0⟩
  have lookup := (found distinctIds_openedRow).mpr named
  exact ⟨reachable_openedRow, distinctIds_openedRow, named, lookup, leads.mp lookup⟩

/-- Two groups of one id beside each other, each with a chest. -/
def twinRows : Blueprint :=
  (empty .empty ⟨0⟩).taking false [.group (some "field") .zero
    [.group (some "row") .zero [namedChest "left" ⟨0.5, 0.5⟩],
      .group (some "row") .zero [namedChest "right" ⟨2.5, 0.5⟩]]]

/-- The chest in the later group has its id path, and yet the path finds nothing: the search stays in
the group that comes first. -/
theorem earlier_row_hides :
    Reachable (fun _ _ => True) twinRows ∧
      twinRows.entities.HasIdPath ⟨4, 0⟩ ("field.row.right".splitOn ".") ∧
      twinRows.entities.findById "field.row.right" = none := by
  have segments : "field.row.right".splitOn "." = ["field", "row", "right"] := by
    simp +decide [String.splitOn, String.splitOnAux]
  rw [EntityList.findById, segments]
  exact ⟨reachable_holding (by decide +kernel),
    ⟨rfl, [⟨0, 0⟩, ⟨3, 0⟩], by decide +kernel, .cons rfl (.cons rfl (.cons rfl .nil))⟩, rfl⟩

end Blueprint
end FactoryBlueprint
