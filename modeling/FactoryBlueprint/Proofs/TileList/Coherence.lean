import FactoryBlueprint.Proofs.Outcome
import FactoryBlueprint.Proofs.Store.Cells
import FactoryBlueprint.Proofs.Store.Tenancy
import FactoryBlueprint.TileList
import Mathlib.Data.List.Nodup
import Mathlib.Data.List.Perm.Basic

/-! # Coherent tile lists

The order, the arena and the index of a tile list hold the same keys (`TileList.Coherent`). Every
operation on tile lists keeps it so. What reading a blueprint does to its tile list is to append tiles.
-/

namespace FactoryBlueprint.TileList

/-- Order, arena and index agree. -/
structure Coherent (list : TileList) : Prop where
  /-- No key comes twice. -/
  nodup : list.order.Nodup
  /-- The keys in order are those of the tiles. -/
  stored : ∀ key, key ∈ list.order ↔ (list.tile? key).isSome
  /-- The index holds the squares of the tiles. -/
  indexed : ∀ key, list.index.box? key = (list.tile? key).map Tile.box

namespace Coherent

variable {list after : TileList}

theorem empty : TileList.empty.Coherent where
  nodup := List.nodup_nil
  stored := by simp [TileList.empty, tile?]
  indexed := by simp [TileList.empty, tile?]

theorem nextKey_notMem (coherent : list.Coherent) : list.arena.nextKey ∉ list.order := by
  intro mem
  have stored := (coherent.stored _).mp mem
  rw [tile?, list.arena.get?_nextKey, Option.isSome_none] at stored
  exact Bool.false_ne_true stored

/-- Keys that lead nowhere have no square. -/
theorem vacant (coherent : list.Coherent) (key : Key) (missing : list.arena.get? key = none) :
    list.index.box? key = none := by
  rw [coherent.indexed, tile?, missing, Option.map_none]

theorem room_nextKey (coherent : list.Coherent) : list.index.Room list.arena.nextKey :=
  SpatialIndex.room_nextKey coherent.vacant

/-- There is room for the squares of all tiles, also in an index without any. -/
theorem roomFor_order (coherent : list.Coherent) {index : SpatialIndex}
    (vacant : ∀ key, list.arena.get? key = none → index.box? key = none) :
    index.RoomFor list.order := by
  refine SpatialIndex.roomFor_of_get? vacant fun key mem missing => ?_
  have stored := (coherent.stored key).mp mem
  rw [tile?, missing] at stored
  contradiction

/-- A tile whose square was taken out of the index can have it back. -/
theorem room_again (coherent : list.Coherent) {key : Key} (mem : key ∈ list.order) :
    (list.index.remove key).Room key :=
  ((coherent.roomFor_order coherent.vacant).room key mem).remove key

/-- Only the boxes of an index count. -/
theorem reindex (coherent : list.Coherent) {index : SpatialIndex}
    (same : ∀ key, index.box? key = list.index.box? key) :
    ({ list with index := index } : TileList).Coherent where
  nodup := coherent.nodup
  stored := coherent.stored
  indexed key := (same key).trans (coherent.indexed key)

/-- A tile that is put in order under the next key. -/
theorem place (coherent : list.Coherent) (tile : Tile) {order : List Key}
    (perm : order.Perm (list.arena.nextKey :: list.order)) :
    (⟨list.arena.insert tile, order, list.index.add list.arena.nextKey tile.box⟩ :
      TileList).Coherent where
  nodup := perm.nodup_iff.mpr (List.nodup_cons.mpr ⟨coherent.nextKey_notMem, coherent.nodup⟩)
  stored := by
    intro key
    rw [perm.mem_iff, List.mem_cons, coherent.stored, tile?, tile?, Arena.get?_insert]
    by_cases new : key = list.arena.nextKey <;> simp [new]
  indexed := by
    intro key
    rw [SpatialIndex.box?_add coherent.room_nextKey, tile?, Arena.get?_insert]
    split
    · rfl
    · exact coherent.indexed key

/-- A list from which a tile is taken. -/
theorem cut (coherent : list.Coherent) {key : Key} {order : List Key}
    (perm : list.order.Perm (key :: order)) :
    (⟨list.arena.remove key, order, list.index.remove key⟩ : TileList).Coherent := by
  obtain ⟨gone, nodup⟩ := List.nodup_cons.mp (perm.nodup_iff.mp coherent.nodup)
  refine ⟨nodup, ?_, ?_⟩
  · intro other
    rw [tile?, Arena.get?_remove]
    split
    · rename_i same
      simp [same, gone]
    · rename_i differ
      rw [← tile?, ← coherent.stored, perm.mem_iff, List.mem_cons]
      simp [differ]
  · intro other
    rw [SpatialIndex.box?_remove, tile?, Arena.get?_remove]
    split
    · rfl
    · exact coherent.indexed other

/-- A tile that takes the place of another has room for its square. -/
theorem room_instead (coherent : list.Coherent) {i : Nat} {old : Key}
    (present : list.order[i]? = some old) :
    (list.index.remove old).Room (list.arena.remove old).nextKey := by
  obtain ⟨bound, rfl⟩ := List.getElem?_eq_some_iff.mp present
  exact (coherent.cut (List.getElem_cons_eraseIdx_perm bound).symm).room_nextKey

/-- Merging keeps a tile on its square. -/
theorem merge (coherent : list.Coherent) (key : Key) (tile : Tile) :
    ({ list with arena := list.arena.modify key (·.merge tile) } : TileList).Coherent := by
  have boxes (other : Key) : ((list.arena.modify key (·.merge tile)).get? other).map Tile.box =
      (list.arena.get? other).map Tile.box := by
    rw [Arena.get?_modify]
    split
    · rename_i same
      rw [same, Option.map_map]
      rfl
    · rfl
  refine ⟨coherent.nodup, fun other => ?_, fun other => ?_⟩
  · have some := congrArg Option.isSome (boxes other)
    rw [Option.isSome_map, Option.isSome_map] at some
    exact (coherent.stored other).trans (Bool.eq_iff_iff.mp some.symm)
  · exact (coherent.indexed other).trans (boxes other).symm

/-! ### Operations -/

theorem insert (coherent : list.Coherent) {table : PrototypeTable} {mode : ValidationMode}
    {extent grown : Extent} {i : Nat} {tile : Tile} {merging : Bool} {placement : Placement}
    (inserted : list.insert table mode extent i tile merging = .ok (after, placement, grown)) :
    after.Coherent := by
  unfold TileList.insert at inserted
  split at inserted
  · contradiction
  · rename_i bound
    split at inserted
    · obtain ⟨rfl, -⟩ := Prod.mk.inj (Except.ok.inj inserted)
      exact coherent.merge _ tile
    · cases accepted : mode.accept (list.collisions table tile) with
      | error error => simp [accepted, bind, Except.bind] at inserted
      | ok warnings =>
        cases extended : extent.extendOver tile.box with
        | error error => simp [accepted, extended, bind, Except.bind] at inserted
        | ok extent =>
          simp only [accepted, extended, bind, Except.bind, pure, Except.pure, Except.ok.injEq,
            Prod.mk.injEq] at inserted
          obtain ⟨rfl, -⟩ := inserted
          exact coherent.place tile (List.perm_insertIdx _ _ (Nat.le_of_not_lt bound))

theorem set (coherent : list.Coherent) (table : PrototypeTable) (mode : ValidationMode)
    (others : List Box) (i : Nat) (tile : Tile) :
    (list.set table mode others i tile).1.Coherent := by
  unfold TileList.set
  split
  · exact coherent
  · rename_i old present
    obtain ⟨bound, rfl⟩ := List.getElem?_eq_some_iff.mp present
    extract_lets cleared extent accepted
    clear_value accepted
    cases accepted with
    | error error =>
      have stored := (coherent.stored _).mp (List.getElem_mem bound)
      obtain ⟨tile, found⟩ := Option.isSome_iff_exists.mp stored
      have indexed := coherent.indexed list.order[i]
      rw [found] at indexed
      simp only [indexed, Option.map_some]
      refine coherent.reindex fun key => ?_
      rw [SpatialIndex.box?_add (coherent.room_again (List.getElem_mem bound))]
      split
      · rename_i same
        rw [same, indexed, Option.map_some]
      · rename_i other
        rw [SpatialIndex.box?_remove, if_neg other]
    | ok warnings =>
      have vacated := coherent.cut (List.getElem_cons_eraseIdx_perm bound).symm
      exact vacated.place tile (List.set_perm_cons_eraseIdx bound _)

theorem remove (coherent : list.Coherent) {i : Nat} {tile : Tile}
    (removed : list.remove i = .ok (tile, after)) : after.Coherent := by
  unfold TileList.remove at removed
  split at removed
  · contradiction
  · rename_i key found eq
    obtain ⟨old, present, some⟩ := Option.bind_eq_some_iff.mp eq
    obtain ⟨_, _, same⟩ := Option.map_eq_some_iff.mp some
    obtain ⟨rfl, rfl⟩ := Prod.mk.inj same
    obtain ⟨bound, rfl⟩ := List.getElem?_eq_some_iff.mp present
    obtain ⟨-, rfl⟩ := Prod.mk.inj (Except.ok.inj removed)
    exact coherent.cut (List.getElem_cons_eraseIdx_perm bound).symm

theorem clear (list : TileList) : list.clear.Coherent where
  nodup := List.nodup_nil
  stored := by simp [TileList.clear, tile?]
  indexed := by simp [TileList.clear, tile?]

theorem duplicate (coherent : list.Coherent) : list.duplicate.Coherent := by
  have boxes : (list.order.filterMap fun key => (list.tile? key).map fun tile => (key, tile.box)) =
      list.order.filterMap fun key => ((list.tile? key).map Tile.box).map (key, ·) := by
    simp only [Option.map_map]
    rfl
  have rooms := coherent.roomFor_order fun key _ => SpatialIndex.box?_empty key
  refine coherent.reindex fun key => ?_
  rw [boxes, SpatialIndex.box?_addAll rooms, SpatialIndex.box?_empty, Option.or_none,
    coherent.indexed]
  split
  · rfl
  · rename_i other
    have missing : list.tile? key = none := by simpa [coherent.stored] using other
    exact (congrArg (Option.map Tile.box) missing).symm

theorem filed_duplicate (coherent : list.Coherent) : list.duplicate.index.Filed := by
  have rooms := coherent.roomFor_order fun key _ => SpatialIndex.box?_empty key
  have entries := rooms.entries fun key => (list.tile? key).map Tile.box
  simp only [Option.map_map] at entries
  exact SpatialIndex.filed_empty.addAll entries

end Coherent

/-! ### Appending tiles -/

/-- The list with a tile at its end, under the next key. -/
def append (list : TileList) (tile : Tile) : TileList where
  arena := list.arena.insert tile
  order := list.order ++ [list.arena.nextKey]
  index := list.index.add list.arena.nextKey tile.box

/-- A tile that is not to be merged is appended, if the warnings are accepted and the extent can be
extended. -/
theorem insert_last_eq (list : TileList) (table : PrototypeTable) (mode : ValidationMode)
    (extent : Extent) (tile : Tile) :
    list.insert table mode extent list.length tile false =
      (mode.accept (list.collisions table tile)).bind fun warnings =>
        (extent.extendOver tile.box).map fun grown =>
          (list.append tile, ⟨list.arena.nextKey, false, warnings⟩, grown) := by
  have appended : list.order.insertIdx list.length list.arena.nextKey =
      list.order ++ [list.arena.nextKey] := List.insertIdx_length_self
  simp only [TileList.insert, Nat.lt_irrefl, if_false, Bool.false_eq_true, appended]
  cases mode.accept (list.collisions table tile) with
  | error error => rfl
  | ok warnings => cases extent.extendOver tile.box <;> rfl

/-- A tile that is not to be merged is appended, unless a warning or the extent prevents it. -/
theorem insert_eq_ok_iff {list after : TileList} {table : PrototypeTable} {mode : ValidationMode}
    {extent grown : Extent} {tile : Tile} {placement : Placement} :
    list.insert table mode extent list.length tile false = .ok (after, placement, grown) ↔
      (∃ warnings, mode.accept (list.collisions table tile) = .ok warnings ∧
        placement = ⟨list.arena.nextKey, false, warnings⟩) ∧
      extent.extendOver tile.box = .ok grown ∧ after = list.append tile := by
  rw [insert_last_eq]
  cases mode.accept (list.collisions table tile) with
  | error error => simp [Except.bind]
  | ok warnings =>
    cases extent.extendOver tile.box with
    | error error => simp [Except.bind, Except.map]
    | ok wider =>
      simp only [Except.bind, Except.map, Except.ok.injEq, Prod.mk.injEq, exists_eq_left']
      constructor
      · rintro ⟨rfl, rfl, rfl⟩
        exact ⟨rfl, rfl, rfl⟩
      · rintro ⟨rfl, rfl, rfl⟩
        exact ⟨rfl, rfl, rfl⟩

theorem tiles_append {list : TileList} (coherent : list.Coherent) (tile : Tile) :
    (list.append tile).tiles = list.tiles ++ [tile] := by
  have old : ∀ key ∈ list.order, (list.append tile).tile? key = list.tile? key := by
    intro key mem
    have other : key ≠ list.arena.nextKey := fun same => coherent.nextKey_notMem (same ▸ mem)
    exact (list.arena.get?_insert tile key).trans (if_neg other)
  have new : (list.append tile).tile? list.arena.nextKey = some tile :=
    (list.arena.get?_insert tile _).trans (if_pos rfl)
  have split : (list.append tile).tiles =
      list.order.filterMap (list.append tile).tile? ++
        [list.arena.nextKey].filterMap (list.append tile).tile? := List.filterMap_append
  rw [split, List.filterMap_congr old, List.filterMap_cons_some new]
  rfl

end FactoryBlueprint.TileList
