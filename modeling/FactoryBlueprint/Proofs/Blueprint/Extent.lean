import FactoryBlueprint.Proofs.Blueprint.Integrity
import FactoryBlueprint.Proofs.EntityList.Append
import FactoryBlueprint.Proofs.Geometry.Box

/-! # The extent is around everything

In every reachable blueprint the extent is around the boxes of all entities and tiles
(`Reachable.covered`). It may be greater, since removals leave it as it was.
-/

namespace FactoryBlueprint

namespace Extent

/-- The extent is around the box. -/
def Covers (extent : Extent) (box : Box) : Prop :=
  ∃ area, extent.area = some area ∧ area.Around box

variable {extent grown : Extent} {box other : Box}

theorem Covers.of_around (covers : extent.Covers box) (around : box.Around other) :
    extent.Covers other := by
  obtain ⟨area, found, beyond⟩ := covers
  exact ⟨area, found, beyond.trans around⟩

theorem covers_cover_self (extent : Extent) (box : Box) : (extent.cover box).Covers box := by
  refine ⟨_, rfl, ?_⟩
  cases extent.area with
  | none => exact .refl box
  | some area => exact Box.around_union_right area box

theorem Covers.cover (covers : extent.Covers other) (box : Box) :
    (extent.cover box).Covers other := by
  obtain ⟨area, found, around⟩ := covers
  refine ⟨area.union box, ?_, (Box.around_union_left area box).trans around⟩
  rw [Extent.cover, found]
  rfl

/-- The extent that is computed anew is what covering one box after the other leads to. -/
theorem ofBoxes_eq (boxes : List Box) : ofBoxes boxes = boxes.foldl cover empty := by
  cases boxes with
  | nil => rfl
  | cons first rest =>
    have general : ∀ area, ofArea (some (rest.foldl Box.union area)) =
        rest.foldl cover (ofArea (some area)) := by
      induction rest with
      | nil => exact fun _ => rfl
      | cons box boxes ih => exact fun area => ih (area.union box)
    exact general first

theorem covers_foldl {boxes : List Box} (covered : extent.Covers other ∨ other ∈ boxes) :
    (boxes.foldl Extent.cover extent).Covers other := by
  induction boxes generalizing extent with
  | nil => exact covered.resolve_right List.not_mem_nil
  | cons box boxes ih =>
    refine ih ?_
    rcases covered with before | mem
    · exact .inl (before.cover box)
    · rcases List.mem_cons.mp mem with rfl | later
      · exact .inl (extent.covers_cover_self other)
      · exact .inr later

theorem covers_ofBoxes {boxes : List Box} (mem : box ∈ boxes) : (ofBoxes boxes).Covers box := by
  rw [ofBoxes_eq]
  exact covers_foldl (.inr mem)

/-- An extent is extended over a box if it keeps within the limit. -/
theorem extendOver_eq_ok_iff : extent.extendOver box = .ok grown ↔
    (extent.cover box).oversize? = none ∧ grown = extent.cover box := by
  rw [extendOver, extend]
  cases (extent.cover box).oversize? with
  | none => simp [eq_comm (a := grown)]
  | some size => simp

/-- Within the limit on both axes. -/
theorem oversize?_eq_none_iff {area : Box} (known : extent.area = some area) :
    extent.oversize? = none ↔ ∀ axis, area.tilesAlong axis ≤ maxTiles := by
  have width : extent.tileWidth = area.tilesAlong .x := by rw [extent.width_eq, known]; rfl
  have height : extent.tileHeight = area.tilesAlong .y := by rw [extent.height_eq, known]; rfl
  have sides : extent.oversize? = none ↔
      area.tilesAlong .x ≤ maxTiles ∧ area.tilesAlong .y ≤ maxTiles := by
    rw [oversize?, width, height]
    split
    · rename_i beyond
      simp only [reduceCtorEq, false_iff]
      omega
    · rename_i within
      simp only [true_iff]
      omega
  rw [sides]
  constructor
  · rintro ⟨x, y⟩ axis
    cases axis with
    | x => exact x
    | y => exact y
  · exact fun each => ⟨each .x, each .y⟩

/-- Extending over boxes is covering them, as long as it succeeds. -/
theorem eq_of_foldlM {boxes : List Box} (extended : boxes.foldlM extendOver extent = .ok grown) :
    grown = boxes.foldl cover extent := by
  induction boxes generalizing extent with
  | nil => exact (Except.ok.inj extended).symm
  | cons box boxes ih =>
    rw [List.foldlM_cons, bind_eq_ok_iff] at extended
    obtain ⟨wider, first, rest⟩ := extended
    obtain ⟨-, rfl⟩ := extendOver_eq_ok_iff.mp first
    exact ih rest

/-- An extent can be extended over boxes that are all within bounds which keep the limit. -/
theorem exists_foldlM {least greatest : Axis → Int} {boxes : List Box}
    (within : ∀ box ∈ boxes, box.Within least greatest)
    (bounded : ∀ box : Box, box.Within least greatest → ∀ axis, box.tilesAlong axis ≤ maxTiles)
    (start : ∀ area ∈ extent.area, area.Within least greatest) :
    ∃ grown, boxes.foldlM extendOver extent = .ok grown := by
  induction boxes generalizing extent with
  | nil => exact ⟨extent, rfl⟩
  | cons box boxes ih =>
    obtain ⟨here, later⟩ := List.forall_mem_cons.mp within
    have wider : ∃ area, extent.cover box = ofArea (some area) ∧ area.Within least greatest := by
      refine ⟨_, rfl, ?_⟩
      cases known : extent.area with
      | none => exact here
      | some area => exact (start area known).union here
    obtain ⟨area, same, inside⟩ := wider
    obtain ⟨grown, rest⟩ := @ih (extent.cover box) later (by
      rw [same]
      exact fun other given => Option.some.inj given ▸ inside)
    refine ⟨grown, ?_⟩
    rw [List.foldlM_cons, bind_eq_ok_iff]
    refine ⟨extent.cover box, extendOver_eq_ok_iff.mpr ⟨?_, rfl⟩, rest⟩
    rw [same]
    exact (oversize?_eq_none_iff rfl).mpr (bounded area inside)

end Extent

/-- The extent is around every box of the index. -/
def SpatialIndex.CoveredBy (index : SpatialIndex) (extent : Extent) : Prop :=
  ∀ key box, index.box? key = some box → extent.Covers box

namespace SpatialIndex.CoveredBy

variable {index other : SpatialIndex} {extent grown : Extent}

theorem mono (covered : index.CoveredBy extent)
    (wider : ∀ box, extent.Covers box → grown.Covers box) : index.CoveredBy grown :=
  fun key box found => wider box (covered key box found)

/-- Another index with no other boxes is covered too. -/
theorem of_subset (covered : index.CoveredBy extent)
    (subset : ∀ key box, other.box? key = some box → index.box? key = some box) :
    other.CoveredBy extent :=
  fun key box found => covered key box (subset key box found)

theorem of_boxList {boxes : List Box} (mem : ∀ box ∈ index.boxList, box ∈ boxes) :
    index.CoveredBy (.ofBoxes boxes) :=
  fun key box found => Extent.covers_ofBoxes (mem box (mem_boxList.mpr ⟨key, found⟩))

theorem add (covered : index.CoveredBy extent) {key : Key} (room : index.Room key) {box : Box}
    (here : extent.Covers box) : (index.add key box).CoveredBy extent := by
  intro other area found
  rw [box?_add room] at found
  split at found
  · rw [← Option.some.inj found]
    exact here
  · exact covered other area found

theorem empty (extent : Extent) : SpatialIndex.empty.CoveredBy extent := by
  intro key box found
  simp at found

end SpatialIndex.CoveredBy

namespace EntityList

variable {table : PrototypeTable} {list after : EntityList}

/-- Where nothing but merges happened, no box has changed. -/
theorem Placing.coveredBy (placing : Placing table [] list after) {extent : Extent}
    (covered : list.index.CoveredBy extent) : after.index.CoveredBy extent := by
  refine covered.of_subset fun key box found => ?_
  rw [← placing.elsewhere key List.not_mem_nil]
  exact found

/-- The boxes that have come in are those of the leaves of the member that was placed. -/
theorem Placing.mem_leafBoxes {member : Member} {site : Site}
    (placing : Placing table member.keys list after) (stands : member.Stands after.arena site)
    {key : Key} {box : Box} (inside : key ∈ member.keys) (found : after.index.box? key = some box) :
    box ∈ member.leaves.filterMap after.index.box? := by
  have stored := found
  rw [placing.indexed key inside] at stored
  obtain ⟨placed, here, boxed⟩ := Option.bind_eq_some_iff.mp stored
  have isEntity : placed.entity?.isSome := by
    rw [Placed.worldBox?, Option.map_eq_some_iff] at boxed
    obtain ⟨entity, given, -⟩ := boxed
    rw [given]
    rfl
  exact List.mem_filterMap.mpr ⟨key, stands.mem_leaves inside here isEntity, found⟩

/-- A member that an extent was extended over is covered by it, and so is what was before. -/
theorem coveredBy_extendOver {member : Member} {extent grown : Extent} {site : Site}
    (placing : Placing table member.keys list after) (stands : member.Stands after.arena site)
    (extended : after.extendOver member extent = .ok grown) :
    (∀ box, extent.Covers box → grown.Covers box) ∧
      ∀ key ∈ member.keys, ∀ box, after.index.box? key = some box → grown.Covers box := by
  have leaf := fun key inside box => @placing.mem_leafBoxes _ _ _ _ site stands key box inside
  rw [EntityList.extendOver, bounds?] at extended
  cases bounds : Box.union? (member.leaves.filterMap after.index.box?) with
  | none =>
    rw [bounds] at extended
    obtain rfl := Except.ok.inj extended
    refine ⟨fun _ covers => covers, fun key inside box found => ?_⟩
    have mem := leaf key inside box found
    have none : member.leaves.filterMap after.index.box? = [] := by
      cases given : member.leaves.filterMap after.index.box? with
      | nil => rfl
      | cons first rest =>
        rw [given] at bounds
        contradiction
    rw [none] at mem
    exact absurd mem List.not_mem_nil
  | some area =>
    rw [bounds] at extended
    obtain ⟨-, rfl⟩ := Extent.extendOver_eq_ok_iff.mp extended
    refine ⟨fun box covers => covers.cover area, fun key inside box found => ?_⟩
    obtain ⟨around, same, beyond⟩ := Extent.covers_ofBoxes (leaf key inside box found)
    obtain rfl := Option.some.inj (bounds.symm.trans same)
    exact (extent.covers_cover_self area).of_around beyond

end EntityList

namespace TileList

variable {table : PrototypeTable} {mode : ValidationMode} {list after : TileList}

/-- An insertion covers the tile that comes in, and keeps covering what was covered. -/
theorem coveredBy_insert (coherent : list.Coherent) {extent grown : Extent} {i : Nat} {tile : Tile}
    {merge : Bool} {placement : Placement} (covered : list.index.CoveredBy extent)
    (inserted : list.insert table mode extent i tile merge = .ok (after, placement, grown)) :
    after.index.CoveredBy grown ∧ ∀ box, extent.Covers box → grown.Covers box := by
  unfold TileList.insert at inserted
  split at inserted
  · exact nomatch inserted
  · split at inserted
    · obtain ⟨rfl, same⟩ := Prod.mk.inj (Except.ok.inj inserted)
      obtain ⟨-, rfl⟩ := Prod.mk.inj same
      exact ⟨covered, fun _ covers => covers⟩
    · simp only [bind_eq_ok_iff] at inserted
      obtain ⟨_, -, wider, extended, result⟩ := inserted
      obtain ⟨rfl, same⟩ := Prod.mk.inj (Except.ok.inj result)
      obtain ⟨-, rfl⟩ := Prod.mk.inj same
      obtain ⟨-, rfl⟩ := Extent.extendOver_eq_ok_iff.mp extended
      have kept : ∀ box, extent.Covers box → (extent.cover tile.box).Covers box :=
        fun box covers => covers.cover tile.box
      exact ⟨(covered.mono kept).add coherent.room_nextKey (extent.covers_cover_self tile.box), kept⟩

/-- What a replacement leaves: the same boxes if it fails, otherwise an extent that covers the new
boxes and all others. -/
def Replaced (list : TileList) (others : List Box) :
    TileList × Except Error (Placement × Extent) → Prop
  | (after, .error _) => ∀ key, after.index.box? key = list.index.box? key
  | (after, .ok (_, extent)) =>
    after.index.CoveredBy extent ∧ ∀ box ∈ others, extent.Covers box

theorem Coherent.set_sound (coherent : list.Coherent) (table : PrototypeTable)
    (mode : ValidationMode) (others : List Box) (i : Nat) (tile : Tile) :
    Replaced list others (list.set table mode others i tile) := by
  unfold TileList.set
  split
  · exact fun _ => rfl
  · rename_i old present
    extract_lets cleared extent accepted
    clear_value accepted
    cases accepted with
    | error error =>
      have stored := (coherent.stored old).mp (List.mem_of_getElem? present)
      obtain ⟨tile, found⟩ := Option.isSome_iff_exists.mp stored
      have indexed := coherent.indexed old
      rw [found] at indexed
      simp only [indexed, Option.map_some]
      intro key
      rw [SpatialIndex.box?_add (coherent.room_again (List.mem_of_getElem? present))]
      split
      · rename_i same
        rw [same, indexed, Option.map_some]
      · rename_i other
        rw [SpatialIndex.box?_remove, if_neg other]
    | ok warnings =>
      have covers : ∀ box ∈ cleared.boxes ++ tile.box :: others, extent.Covers box :=
        fun box mem => Extent.covers_ofBoxes mem
      refine ⟨SpatialIndex.CoveredBy.add (fun key box found => covers box ?_)
        (coherent.room_instead present) (covers tile.box ?_), fun box mem => covers box ?_⟩
      · exact List.mem_append_left _ (SpatialIndex.mem_boxList.mpr ⟨key, found⟩)
      · exact List.mem_append_right _ List.mem_cons_self
      · exact List.mem_append_right _ (List.mem_cons_of_mem _ mem)

end TileList

namespace Blueprint

/-- The extent is around everything in both lists. -/
structure Covered (blueprint : Blueprint) : Prop where
  entities : blueprint.entities.index.CoveredBy blueprint.extent
  tiles : blueprint.tiles.index.CoveredBy blueprint.extent

theorem Blank.covered {blueprint : Blueprint} (blank : blueprint.Blank) : blueprint.Covered where
  entities := by
    rw [blank.entities]
    exact .empty blueprint.extent
  tiles := by
    rw [blank.tiles]
    exact .empty blueprint.extent

theorem insertEntity_covered {before : Blueprint} (coherent : before.Coherent)
    (covered : before.Covered) (mode : ValidationMode) (i : Nat) (item : Item) (merge : Bool)
    (own : List Warning) : (before.placed own
      (before.entities.insert before.table mode before.extent i item merge)).1.Covered := by
  have sound := EntityList.insert_sound coherent.entities.vacant before.table mode before.extent i
    item merge
  generalize before.entities.insert before.table mode before.extent i item merge = result at sound ⊢
  obtain ⟨after, _ | ⟨placement, grown⟩⟩ := result
  · exact ⟨sound.coveredBy covered.entities, covered.tiles⟩
  · rcases sound with ⟨placing, rfl⟩ | ⟨member, placed, -, placing, stands, -, extended, rfl⟩
    · exact ⟨placing.coveredBy covered.entities, covered.tiles⟩
    · obtain ⟨wider, new⟩ := EntityList.coveredBy_extendOver placing stands extended
      refine ⟨fun key box found => ?_, covered.tiles.mono wider⟩
      by_cases inside : key ∈ member.keys
      · exact new key inside box found
      · exact wider box (covered.entities key box (placing.elsewhere key inside ▸ found))

theorem setEntity_covered {before : Blueprint} (coherent : before.Coherent)
    (covered : before.Covered) (i : Nat) (item : Item) (own : List Warning) : (before.placed own
      (before.entities.set before.table before.mode before.tiles.boxes i item)).1.Covered := by
  have sound := coherent.entities.set_sound before.mode before.tiles.boxes i item
  generalize before.entities.set before.table before.mode before.tiles.boxes i item = result
    at sound ⊢
  obtain ⟨after, _ | ⟨placement, extent⟩⟩ := result
  · exact ⟨sound.coveredBy covered.entities, covered.tiles⟩
  · obtain ⟨-, rfl⟩ := sound
    exact ⟨.of_boxList fun _ mem => List.mem_append_left _ mem,
      .of_boxList fun _ mem => List.mem_append_right _ mem⟩

theorem modifyEntity_covered {before : Blueprint} (coherent : before.Coherent)
    (covered : before.Covered) (key : Key) (f : Entity → Entity) :
    (before.modifyEntity key f).1.Covered := by
  rcases before.modifyEntity_cases key f with
    same | ⟨entity, entities, stored, modified, ⟨extent, extended, after⟩ | restored⟩
  · rw [same]
    exact covered
  · rw [after]
    obtain ⟨site, old, found, rfl⟩ := EntityList.modify?_eq_some_iff.mp modified
    have room := coherent.entities.room found
    rw [SpatialIndex.box?_add_self room] at extended
    obtain ⟨-, rfl⟩ := Extent.extendOver_eq_ok_iff.mp extended
    have wider := fun box (covers : before.extent.Covers box) =>
      covers.cover ((f old).worldBox before.table site.offset)
    exact ⟨(covered.entities.mono wider).add room (Extent.covers_cover_self _ _),
      covered.tiles.mono wider⟩
  · rw [restored]
    refine ⟨covered.entities.of_subset ?_, covered.tiles⟩
    obtain ⟨site, old, found, rfl⟩ := EntityList.modify?_eq_some_iff.mp modified
    have indexed := coherent.entities.indexed key
    rw [EntityList.entity?, found] at stored
    obtain rfl := Option.some.inj (stored : some old = some entity)
    have back := EntityList.get?_of_modify? modified key
    rw [if_pos rfl, found] at back
    rw [EntityList.modify?_eq_some_iff.mpr ⟨site, f old, back, rfl⟩]
    intro other box here
    rw [Option.getD_some, SpatialIndex.box?_add ((coherent.entities.modify? modified).room back),
      SpatialIndex.box?_add (coherent.entities.room found)] at here
    split at here
    · rename_i same
      rw [same, indexed, found]
      exact here
    · exact here

theorem setTile_covered {before : Blueprint} (coherent : before.Coherent)
    (covered : before.Covered) (i : Nat) (tile : Tile) : (before.setTile i tile).1.Covered := by
  unfold setTile
  split
  · exact covered
  · have sound := coherent.tiles.set_sound before.table before.mode before.entities.boxes i tile
    generalize before.tiles.set before.table before.mode before.entities.boxes i tile = result
      at sound ⊢
    obtain ⟨after, _ | ⟨placement, extent⟩⟩ := result
    · exact ⟨covered.entities, covered.tiles.of_subset fun key box found => sound key ▸ found⟩
    · refine ⟨fun key box found => sound.2 box ?_, sound.1⟩
      exact SpatialIndex.mem_boxList.mpr ⟨key, found⟩

/-- What one change keeps. -/
theorem Change.covered {fitting : Prop} {before after : Blueprint}
    (change : Change fitting before after) (coherent : before.Coherent) (covered : before.Covered) :
    after.Covered := by
  cases change with
  | describe table _ entities tiles extent =>
    exact ⟨entities ▸ extent ▸ covered.entities, tiles ▸ extent ▸ covered.tiles⟩
  | insertEntity mode i merge own =>
    exact insertEntity_covered coherent covered mode i _ merge own
  | setEntity i own => exact setEntity_covered coherent covered i _ own
  | removeEntity removed =>
    obtain ⟨_, member, -, -, -, rfl⟩ := EntityList.removeKey?_eq_some_iff.mp removed
    refine ⟨covered.entities.of_subset fun key box found => ?_, covered.tiles⟩
    rw [EntityList.discard, SpatialIndex.box?_removeAll] at found
    exact (Option.ite_none_left_eq_some.mp found).2
  | modifyEntity key => exact modifyEntity_covered coherent covered key _
  | rewire modified wires =>
    refine ⟨covered.entities.of_subset fun key box here => ?_, covered.tiles⟩
    obtain ⟨site, entity, found, rfl⟩ := EntityList.modify?_eq_some_iff.mp modified
    rw [SpatialIndex.box?_add (coherent.entities.room found)] at here
    split at here
    · rename_i same
      rw [same, coherent.entities.indexed, found, ← here, wires]
      rfl
    · exact here
  | resetEntities list => exact ⟨.empty _, .of_boxList fun _ mem => mem⟩
  | clearEntities => exact ⟨.empty _, .of_boxList fun _ mem => mem⟩
  | insertTile _ inserted =>
    obtain ⟨tiles, wider⟩ := TileList.coveredBy_insert coherent.tiles covered.tiles inserted
    exact ⟨covered.entities.mono wider, tiles⟩
  | setTile i => exact setTile_covered coherent covered i _
  | removeTile removed =>
    refine ⟨covered.entities, covered.tiles.of_subset fun key box found => ?_⟩
    simp only [TileList.remove] at removed
    split at removed
    · contradiction
    · obtain ⟨-, rfl⟩ := Prod.mk.inj (Except.ok.inj removed)
      rw [SpatialIndex.box?_remove] at found
      exact (Option.ite_none_left_eq_some.mp found).2
  | resetTiles => exact ⟨.of_boxList fun _ mem => mem, .empty _⟩
  | clearTiles => exact ⟨.of_boxList fun _ mem => mem, .empty _⟩
  | recalculate =>
    exact ⟨.of_boxList fun _ mem => List.mem_append_left _ mem,
      .of_boxList fun _ mem => List.mem_append_right _ mem⟩
  | duplicate =>
    refine ⟨covered.entities.of_subset fun key box found => ?_,
      covered.tiles.of_subset fun key box found => ?_⟩
    · have boxed := ((coherent.entities.duplicate _).indexed key).symm.trans found
      rw [coherent.entities.indexed]
      rw [EntityList.get?, EntityList.duplicate, Arena.get?_map] at boxed
      obtain ⟨placed, there, here⟩ := Option.bind_eq_some_iff.mp boxed
      obtain ⟨⟨site, content⟩, stored, rfl⟩ := Option.map_eq_some_iff.mp there
      rw [EntityList.get?, stored]
      cases content with
      | entity entity => exact here
      | group id position => exact here
    · exact (coherent.tiles.indexed key).trans
        ((coherent.tiles.duplicate.indexed key).symm.trans found)

theorem Changes.covered {fitting : Prop} {before after : Blueprint}
    (changes : Changes fitting before after) (coherent : before.Coherent)
    (covered : before.Covered) : after.Coherent ∧ after.Covered := by
  induction changes with
  | refl => exact ⟨coherent, covered⟩
  | tail _ change ih => exact ⟨change.coherent ih.1, change.covered ih.1 ih.2⟩

/-- Whatever was done to a blueprint, its extent is around everything in it. -/
theorem Reachable.covered {allowed : Blueprint → Operation → Prop} {blueprint : Blueprint}
    (reachable : Reachable allowed blueprint) : blueprint.Covered := by
  obtain ⟨start, blank, changes⟩ := reachable.changes False False.elim
  exact (Changes.covered changes blank.coherent blank.covered).2

end Blueprint
end FactoryBlueprint
