import FactoryBlueprint.Proofs.Store.Tenancy
import FactoryBlueprint.TileList

/-! # What holds of every tile

A property that merging keeps holds of every tile of a list as long as it holds of those that come
in, whether operations succeed or not.
-/

namespace FactoryBlueprint.TileList

/-- Every tile of the list has the property. -/
def Every (property : Tile → Prop) (list : TileList) : Prop :=
  ∀ key tile, list.tile? key = some tile → property tile

variable {property : Tile → Prop} {list : TileList}

theorem every_empty (property : Tile → Prop) : TileList.empty.Every property := by
  intro key tile found
  simp [tile?, TileList.empty] at found

theorem every_clear (property : Tile → Prop) (list : TileList) : list.clear.Every property := by
  intro key tile found
  simp [tile?, TileList.clear] at found

/-- The tiles in order are those that stand under a key. -/
theorem Every.tiles (every : list.Every property) : ∀ tile ∈ list.tiles, property tile := by
  intro tile mem
  obtain ⟨key, -, found⟩ := List.mem_filterMap.mp mem
  exact every key tile found

theorem Every.arena_insert (every : list.Every property) {arena : Arena Tile} {tile : Tile}
    (subset : ∀ key tile, arena.get? key = some tile → list.tile? key = some tile)
    (here : property tile) (order : List Key) (index : SpatialIndex) :
    (⟨arena.insert tile, order, index⟩ : TileList).Every property := by
  intro key other found
  rw [tile?, Arena.get?_insert] at found
  split at found
  · obtain rfl := Option.some.inj found
    exact here
  · exact every key other (subset key other found)

theorem get?_of_remove {arena : Arena Tile} {removed key : Key} {tile : Tile}
    (found : (arena.remove removed).get? key = some tile) : arena.get? key = some tile := by
  rw [Arena.get?_remove] at found
  split at found
  · exact nomatch found
  · exact found

theorem Every.insert (every : list.Every property)
    (merging : ∀ tile other : Tile, property tile → property (tile.merge other))
    {table : PrototypeTable} {mode : ValidationMode} {extent grown : Extent} {i : Nat} {tile : Tile}
    {merge : Bool} {after : TileList} {placement : Placement} (here : property tile)
    (inserted : list.insert table mode extent i tile merge = .ok (after, placement, grown)) :
    after.Every property := by
  unfold TileList.insert at inserted
  split at inserted
  · exact nomatch inserted
  · split at inserted
    · rename_i key target
      obtain ⟨rfl, -⟩ := Prod.mk.inj (Except.ok.inj inserted)
      intro other entity found
      rw [tile?, Arena.get?_modify] at found
      split at found
      · rename_i same
        obtain ⟨before, there, rfl⟩ := Option.map_eq_some_iff.mp found
        exact merging before tile (every _ before there)
      · exact every other entity found
    · simp only [bind, Except.bind] at inserted
      split at inserted
      · exact nomatch inserted
      · split at inserted
        · exact nomatch inserted
        · obtain ⟨rfl, -⟩ := Prod.mk.inj (Except.ok.inj inserted)
          exact every.arena_insert (fun _ _ found => found) here _ _

theorem Every.set (every : list.Every property) (table : PrototypeTable) (mode : ValidationMode)
    (others : List Box) (i : Nat) {tile : Tile} (here : property tile) :
    (list.set table mode others i tile).1.Every property := by
  unfold TileList.set
  split
  · exact every
  · rename_i old present
    extract_lets cleared extent accepted
    clear_value accepted
    cases accepted with
    | error error =>
      dsimp only
      split <;> exact every
    | ok warnings => exact every.arena_insert (fun _ _ => get?_of_remove) here _ _

theorem Every.remove (every : list.Every property) {i : Nat} {tile : Tile} {after : TileList}
    (removed : list.remove i = .ok (tile, after)) : after.Every property := by
  unfold TileList.remove at removed
  split at removed
  · exact nomatch removed
  · obtain ⟨-, rfl⟩ := Prod.mk.inj (Except.ok.inj removed)
    exact fun key other found => every key other (get?_of_remove found)

theorem Every.duplicate (every : list.Every property) : list.duplicate.Every property := every

end FactoryBlueprint.TileList
