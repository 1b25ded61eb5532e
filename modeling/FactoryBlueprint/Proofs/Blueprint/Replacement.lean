import FactoryBlueprint.Proofs.Blueprint.Insertion
import FactoryBlueprint.Proofs.Blueprint.Recalculation
import FactoryBlueprint.Proofs.EntityList.Contents
import FactoryBlueprint.Proofs.TileList.Coherence

/-! # Bulk replacement

Entities, or tiles, are all replaced or none is. A replacement that fails leaves the blueprint as it
was, however far it had got. One that succeeds leaves just what was given, in order, and nothing of
what was there before: no association to the old list is live. Keys are issued anew from the first
one, so that a key of the old list, without the list, may lead to something new.
-/

namespace FactoryBlueprint

namespace EntityList

variable {list after : EntityList} {table : PrototypeTable}

/-- An item that is appended without merging is shown last. -/
theorem Shows.insert {items : List Item} (shows : list.Shows list.members items)
    (coherent : list.Coherent table) {mode : ValidationMode} {extent grown : Extent} {item : Item}
    {placement : Placement} (inserted : list.insert table mode extent list.length item false =
      (after, .ok (placement, grown))) :
    after.id = list.id ∧ after.Shows after.members (items ++ [item]) := by
  obtain ⟨placed, member, warnings, placing, here⟩ :=
    place_shows table .top item list coherent.vacant
  have altered : Altered false (fun _ => True) [] list (place table false .top item list).1 :=
    altered_place table false .top item list fun _ _ => trivial
  have sound := place_sound table false .top item list coherent.vacant
  rw [placing] at altered sound
  rcases insert_eq_ok_iff.mp inserted with ⟨-, ⟨host, merged, -⟩ | ⟨_, _, _, own, same, -, -, rfl, -⟩⟩
  · rw [placing] at merged
    exact nomatch (Prod.mk.inj merged).2
  · rw [placing] at same
    obtain ⟨rfl, outcome⟩ := Prod.mk.inj same
    obtain ⟨rfl, -⟩ := Outcome.inserted.inj outcome
    have members : placed.members = list.members := sound.1.members
    have appended : placed.members.insertIdx list.length member = list.members ++ [member] := by
      rw [members]
      exact List.insertIdx_length_self
    refine ⟨altered.id, ?_⟩
    have before : placed.Shows list.members items :=
      ((List.forall₂_and_left list.members items).mpr ⟨coherent.stands, shows⟩).imp
        fun member item shown => (altered.item? shown.1).trans shown.2
    have shown : placed.Shows (list.members ++ [member]) (items ++ [item]) :=
      List.rel_append before (.cons here .nil)
    rw [appended]
    exact shown.congr fun _ => rfl

end EntityList

/-- The keys of the list lead to the tiles, each to its own. -/
def TileList.Shows (list : TileList) (tiles : List Tile) : Prop :=
  List.Forall₂ (fun key tile => list.tile? key = some tile) list.order tiles

/-- A tile that is appended is shown last. -/
theorem TileList.Shows.append {list : TileList} {tiles : List Tile} (shows : list.Shows tiles)
    (tile : Tile) : (list.append tile).Shows (tiles ++ [tile]) := by
  have stored (key : Key) : (list.append tile).tile? key =
      if key = list.arena.nextKey then some tile else list.tile? key :=
    list.arena.get?_insert tile key
  refine List.rel_append (List.Forall₂.imp (fun key old found => ?_) shows) (.cons ?_ .nil)
  · have older : key ≠ list.arena.nextKey := by
      rintro rfl
      rw [TileList.tile?, list.arena.get?_nextKey] at found
      contradiction
    rw [stored, if_neg older, found]
  · rw [stored, if_pos rfl]

namespace Blueprint

variable {blueprint after : Blueprint} {list : ListId}

/-! ### What is there after a replacement -/

/-- Just the given items are there, each in its place among the members. -/
structure EntitiesReplaced (before : Blueprint) (list : ListId) (items : List Item)
    (after : Blueprint) : Prop where
  /-- Nothing else is touched. -/
  rest : after = { before with entities := after.entities, extent := after.extent }
  id : after.entities.id = list
  shows : after.entities.Shows after.entities.members items
  /-- No association to the old list is live. -/
  dead : ∀ association, association.list = before.entities.id →
    after.entities.holds association = false
  extent : Unites after.Has after.extent.area

/-- Just the given tiles are there, in order. -/
structure TilesReplaced (before : Blueprint) (tiles : List Tile) (after : Blueprint) : Prop where
  rest : after = { before with tiles := after.tiles, extent := after.extent }
  shows : after.tiles.Shows tiles
  extent : Unites after.Has after.extent.area

/-- A call that leaves the blueprint as it was if it fails, and as it should be if it succeeds. -/
structure AllOrNothing {α : Type} (before : Blueprint) (done : Blueprint → Prop)
    (result : Edited α) : Prop where
  nothing : ∀ error, result.2 = .error error → result.1 = before
  all : ∀ a, result.2 = .ok a → done result.1

/-- An extent that is computed from the boxes is their union. -/
theorem Snug.unites (snug : blueprint.Snug) (coherent : blueprint.Coherent) :
    Unites blueprint.Has blueprint.extent.area := by
  have area : blueprint.extent.area = Box.union? blueprint.boxes := congrArg Extent.area snug
  rw [area]
  exact unites_union? fun box => mem_boxes_iff_has coherent

/-! ### Items one after the other -/

theorem placeEach_shows {given items : List Item}
    (shows : blueprint.entities.Shows blueprint.entities.members given)
    (coherent : blueprint.Coherent) {warnings : List Warning}
    (added : placeEach (·.addEntity · false) blueprint items = (after, .ok warnings)) :
    after = { blueprint with entities := after.entities, extent := after.extent } ∧
      after.entities.id = blueprint.entities.id ∧
      after.entities.Shows after.entities.members (given ++ items) := by
  induction items generalizing blueprint given warnings with
  | nil =>
    obtain rfl := (Prod.mk.inj added).1
    exact ⟨rfl, rfl, (List.append_nil given).symm ▸ shows⟩
  | cons item items ih =>
    obtain ⟨middle, placement, more, one, rest, -⟩ := placeEach_cons_eq_ok_iff.mp added
    have coherentAfter : (blueprint.addEntity item false).1.Coherent :=
      Changes.coherent (changes_insertEntity _ _ False.elim) coherent
    rw [one] at coherentAfter
    obtain ⟨own, -, entities, first, grown, inserted, rfl, -⟩ := insertEntity_eq_ok_iff.mp one
    obtain ⟨id, shown⟩ := shows.insert coherent.entities inserted
    obtain ⟨unchanged, same, all⟩ := ih shown coherentAfter rest
    rw [List.append_assoc, List.singleton_append] at all
    exact ⟨unchanged, same.trans id, all⟩

/-- A call that succeeds leaves what its computation gives. -/
theorem eq_ok_of_edited {α : Type} {outcome : Except Error (Blueprint × α)} {a : α}
    (done : blueprint.edited outcome = (after, .ok a)) : outcome = .ok (after, a) := by
  cases outcome with
  | error error => cases done
  | ok result =>
    obtain ⟨rfl, same⟩ := Prod.mk.inj done
    exact congrArg (fun a => Except.ok (result.1, a)) (Except.ok.inj same)

/-- A tile that is added without merging stands at the end. -/
theorem addTile_eq_append {tile : Tile} {placement : Placement}
    (added : blueprint.addTile tile false = (after, .ok placement)) : ∃ grown,
      after = { blueprint with tiles := blueprint.tiles.append tile, extent := grown } := by
  have result := eq_ok_of_edited added
  simp only [bind_eq_ok_iff] at result
  obtain ⟨own, -, ⟨tiles, first, grown⟩, inserted, done⟩ := result
  obtain ⟨-, -, rfl⟩ := TileList.insert_eq_ok_iff.mp inserted
  exact ⟨grown, (congrArg Prod.fst (Except.ok.inj done)).symm⟩

theorem placeEach_shows_tiles {given tiles : List Tile}
    (shows : blueprint.tiles.Shows given) {warnings : List Warning}
    (added : placeEach (·.addTile · false) blueprint tiles = (after, .ok warnings)) :
    after = { blueprint with tiles := after.tiles, extent := after.extent } ∧
      after.tiles.Shows (given ++ tiles) := by
  induction tiles generalizing blueprint given warnings with
  | nil =>
    obtain rfl := (Prod.mk.inj added).1
    exact ⟨rfl, (List.append_nil given).symm ▸ shows⟩
  | cons tile tiles ih =>
    obtain ⟨middle, placement, more, one, rest, -⟩ := placeEach_cons_eq_ok_iff.mp added
    obtain ⟨grown, appended⟩ := addTile_eq_append one
    subst appended
    obtain ⟨unchanged, all⟩ := ih (shows.append tile) rest
    rw [List.append_assoc, List.singleton_append] at all
    exact ⟨unchanged, all⟩

/-! ### All or nothing -/

theorem allOrNothing_setEntities (coherent : blueprint.Coherent)
    (fresh : list ≠ blueprint.entities.id) (items : List Item) :
    AllOrNothing blueprint (EntitiesReplaced blueprint list items)
      (blueprint.setEntities list items) := by
  have coherentAfter : (blueprint.setEntities list items).1.Coherent :=
    Changes.coherent (changes_setEntities list False.elim) coherent
  have snug := @snug_setEntities blueprint coherent list items
  generalize done : blueprint.setEntities list items = result at coherentAfter snug ⊢
  obtain ⟨after, error | warnings⟩ := result
  · exact ⟨fun _ _ => setEntities_of_error done, nofun⟩
  · have start : (blueprint.resetEntities list).Coherent :=
      ⟨.empty blueprint.table list, coherent.tiles⟩
    have none : (EntityList.empty list).Shows (EntityList.empty list).members [] := .nil
    obtain ⟨rest, id, shows⟩ := placeEach_shows none start (setEntities_eq_ok_iff.mp done).2
    refine ⟨fun error failed => by simp at failed, fun _ _ =>
      ⟨rest, id, shows, fun association own => ?_, (snug rfl).unites coherentAfter⟩⟩
    have other : association.list ≠ after.entities.id := by
      rw [own, id]
      exact fresh.symm
    rw [EntityList.holds, decide_eq_false other, Bool.false_and]

theorem allOrNothing_setTiles (coherent : blueprint.Coherent) (tiles : List Tile) :
    AllOrNothing blueprint (TilesReplaced blueprint tiles) (blueprint.setTiles tiles) := by
  have coherentAfter : (blueprint.setTiles tiles).1.Coherent :=
    Changes.coherent (changes_setTiles False.elim) coherent
  have snug := @snug_setTiles blueprint coherent tiles
  generalize done : blueprint.setTiles tiles = result at coherentAfter snug ⊢
  obtain ⟨after, error | warnings⟩ := result
  · exact ⟨fun _ _ => setTiles_of_error done, nofun⟩
  · have none : TileList.empty.Shows [] := .nil
    obtain ⟨rest, shows⟩ := placeEach_shows_tiles none (setTiles_eq_ok_iff.mp done).2
    exact ⟨fun error failed => by simp at failed, fun _ _ =>
      ⟨rest, shows, (snug rfl).unites coherentAfter⟩⟩

/-- Bulk replacement is all or nothing. -/
theorem Reachable.set_all_or_nothing {allowed : Blueprint → Operation → Prop}
    (reachable : Reachable allowed blueprint) (fresh : list ≠ blueprint.entities.id)
    (items : List Item) (tiles : List Tile) :
    AllOrNothing blueprint (EntitiesReplaced blueprint list items)
        (blueprint.setEntities list items) ∧
      AllOrNothing blueprint (TilesReplaced blueprint tiles) (blueprint.setTiles tiles) :=
  ⟨allOrNothing_setEntities reachable.coherent fresh items,
    allOrNothing_setTiles reachable.coherent tiles⟩

/-! ### A chest and a slab -/

theorem exists_addTile_eq {tile : Tile} (lenient : blueprint.mode ≠ .pedantic)
    (within : (blueprint.extent.cover tile.box).oversize? = none) :
    ∃ placement, blueprint.addTile tile false =
      ({ blueprint with
          tiles := blueprint.tiles.append tile, extent := blueprint.extent.cover tile.box },
        .ok placement) := by
  obtain ⟨own, accepted⟩ := ValidationMode.exists_accept lenient (tile.warnings blueprint.table)
  obtain ⟨reported, others⟩ := ValidationMode.exists_accept lenient
    (blueprint.tiles.collisions blueprint.table tile)
  have inserted := TileList.insert_eq_ok_iff.mpr
    ⟨⟨reported, others, rfl⟩, Extent.extendOver_eq_ok_iff.mpr ⟨within, rfl⟩, rfl⟩
  rw [addTile, insertTile, accepted]
  simp only [bind, Except.bind, inserted]
  exact ⟨_, rfl⟩

/-- An entity alone in place of all others, where there are no tiles. -/
theorem exists_setEntities_singleton {entity : Entity} (lenient : blueprint.mode ≠ .pedantic)
    (vacant : blueprint.tiles.boxes = [])
    (within : (Extent.empty.cover (entity.worldBox blueprint.table .zero)).oversize? = none) :
    ∃ warnings, blueprint.setEntities list [.entity entity] =
      (({ blueprint with entities := .empty list, extent := .empty } : Blueprint).append entity,
        .ok warnings) := by
  obtain ⟨own, added⟩ := @exists_addEntity_eq_append
    { blueprint with entities := .empty list, extent := .empty } entity
    (EntityList.Coherent.empty blueprint.table list).vacant lenient within
  have start : blueprint.resetEntities list =
      { blueprint with entities := .empty list, extent := .empty } := by
    rw [resetEntities, vacant]
    rfl
  refine ⟨own ++ [], setEntities_eq_ok_iff.mpr ⟨vacant ▸ rfl, ?_⟩⟩
  rw [start]
  exact placeEach_cons_eq_ok_iff.mpr ⟨_, _, [], added, rfl, rfl⟩

theorem exists_setTiles_singleton {tile : Tile} (lenient : blueprint.mode ≠ .pedantic)
    (vacant : blueprint.entities.boxes = [])
    (within : (Extent.empty.cover tile.box).oversize? = none) :
    ∃ warnings, blueprint.setTiles [tile] =
      ({ blueprint with
          tiles := TileList.empty.append tile, extent := Extent.empty.cover tile.box },
        .ok warnings) := by
  obtain ⟨placement, added⟩ := @exists_addTile_eq
    { blueprint with tiles := .empty, extent := .empty } tile lenient within
  have start : blueprint.resetTiles = { blueprint with tiles := .empty, extent := .empty } := by
    rw [resetTiles, vacant]
    rfl
  refine ⟨placement.warnings ++ [], setTiles_eq_ok_iff.mpr ⟨vacant ▸ rfl, ?_⟩⟩
  rw [start]
  exact placeEach_cons_eq_ok_iff.mpr ⟨_, _, [], added, rfl, rfl⟩

/-- A slab beside the chest. -/
def slab : Tile := ⟨"concrete", ⟨0, 2⟩, []⟩

/-- A blueprint with nothing but a slab. -/
def slabOnly : Blueprint :=
  { empty .empty ⟨0⟩ with
    tiles := TileList.empty.append slab
    extent := Extent.empty.cover slab.box }

theorem reachable_slabOnly : Reachable (fun _ _ => True) slabOnly := by
  have next : Run (fun _ _ => True) (empty .empty ⟨0⟩) _ :=
    Run.start.step (.addTile slab false) trivial
  obtain ⟨placement, added⟩ := @exists_addTile_eq (empty .empty ⟨0⟩) slab (by decide)
    (by decide +kernel)
  rw [Operation.apply, added] at next
  exact ⟨_, .empty .empty ⟨0⟩, next⟩

/-- The key of a chest that was replaced leads to what stands for it, and so does that of a slab. -/
theorem stale_keys_found :
    Reachable (fun _ _ => True) chestOnly ∧ Reachable (fun _ _ => True) slabOnly ∧
      (chestOnly.entities.entity? ⟨0, 0⟩).map (·.name) = some "wooden-chest" ∧
      (∃ after warnings, chestOnly.setEntities ⟨1⟩ [.entity filledChest] = (after, .ok warnings) ∧
        after.entities.entity? ⟨0, 0⟩ = some filledChest) ∧
      (slabOnly.tiles.tile? ⟨0, 0⟩).map (·.name) = some "concrete" ∧
      ∃ after warnings, slabOnly.setTiles [⟨"landfill", ⟨5, 2⟩, []⟩] = (after, .ok warnings) ∧
        (after.tiles.tile? ⟨0, 0⟩).map (·.name) = some "landfill" := by
  obtain ⟨warnings, entities⟩ := @exists_setEntities_singleton chestOnly ⟨1⟩ filledChest (by decide)
    SpatialIndex.boxList_empty (by decide +kernel)
  obtain ⟨others, tiles⟩ := @exists_setTiles_singleton slabOnly ⟨"landfill", ⟨5, 2⟩, []⟩ (by decide)
    SpatialIndex.boxList_empty (by decide +kernel)
  exact ⟨reachable_chestOnly, reachable_slabOnly, rfl, ⟨_, warnings, entities, rfl⟩, rfl, _, others,
    tiles, rfl⟩

/-- A filled chest and a group in place of a chest, and slabs beside it. -/
theorem set_all_or_nothing_chestOnly :
    Reachable (fun _ _ => True) chestOnly ∧ ⟨1⟩ ≠ chestOnly.entities.id ∧
      AllOrNothing chestOnly (EntitiesReplaced chestOnly ⟨1⟩ [.entity filledChest, chestPair])
        (chestOnly.setEntities ⟨1⟩ [.entity filledChest, chestPair]) ∧
      AllOrNothing chestOnly (TilesReplaced chestOnly [slab]) (chestOnly.setTiles [slab]) := by
  have fresh : ⟨1⟩ ≠ chestOnly.entities.id := by decide
  exact ⟨reachable_chestOnly, fresh, reachable_chestOnly.set_all_or_nothing fresh _ _⟩

end Blueprint
end FactoryBlueprint
