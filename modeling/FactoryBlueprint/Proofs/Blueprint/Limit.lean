import FactoryBlueprint.Proofs.Blueprint.Covering
import FactoryBlueprint.Proofs.Blueprint.Reachable

/-! # Extents within the limit

Whatever makes an extent greater checks the limit, and what computes it anew from fewer boxes cannot
exceed it (`Reachable.within`).
-/

namespace FactoryBlueprint

theorem Extent.check_eq_ok_iff {extent : Extent} : extent.check = .ok () ↔ extent.oversize? = none := by
  rw [check]
  cases extent.oversize? <;> simp

namespace EntityList

variable {table : PrototypeTable} {list : EntityList}

/-- Extending over a member is covering the boxes of its leaves. -/
theorem eq_coverAll_of_extendOver {member : Member} {extent grown : Extent}
    (extended : list.extendOver member extent = .ok grown) :
    grown = extent.coverAll (member.leaves.filterMap list.index.box?) ∧
      (extent.oversize? = none → grown.oversize? = none) := by
  rw [Extent.coverAll_union?]
  rw [extendOver, bounds?] at extended
  cases joint : Box.union? (member.leaves.filterMap list.index.box?) with
  | none =>
    rw [joint] at extended
    obtain rfl := Except.ok.inj extended
    exact ⟨rfl, fun within => within⟩
  | some area =>
    rw [joint] at extended
    obtain ⟨within, rfl⟩ := Extent.extendOver_eq_ok_iff.mp extended
    exact ⟨rfl, fun _ => within⟩

theorem extendOver_eq_ok_iff {member : Member} {extent grown : Extent}
    (within : extent.oversize? = none) : list.extendOver member extent = .ok grown ↔
      (extent.coverAll (member.leaves.filterMap list.index.box?)).oversize? = none ∧
        grown = extent.coverAll (member.leaves.filterMap list.index.box?) := by
  rw [Extent.coverAll_union?, extendOver, bounds?]
  cases Box.union? (member.leaves.filterMap list.index.box?) with
  | none =>
    constructor
    · intro same
      exact ⟨within, (Except.ok.inj same).symm⟩
    · rintro ⟨-, rfl⟩
      rfl
  | some area => exact Extent.extendOver_eq_ok_iff

end EntityList

/-- An insertion keeps the extent within the limit. -/
theorem EntityList.Inserted.within {table : PrototypeTable} {list : EntityList} {extent : Extent}
    {i : Nat} {after : EntityList} {placement : Placement} {grown : Extent}
    (sound : Inserted table list extent i (after, .ok (placement, grown)))
    (within : extent.oversize? = none) : grown.oversize? = none := by
  rcases sound with ⟨-, rfl⟩ | ⟨member, placed, -, -, -, -, extended, -⟩
  · exact within
  · exact (eq_coverAll_of_extendOver extended).2 within

/-- A replacement that succeeds has passed the limit. -/
theorem EntityList.within_set {list after : EntityList} {table : PrototypeTable}
    {mode : ValidationMode} {others : List Box} {i : Nat} {item : Item} {placement : Placement}
    {extent : Extent} (done : list.set table mode others i item = (after, .ok (placement, extent))) :
    extent.oversize? = none := by
  unfold EntityList.set at done
  split at done
  · exact nomatch congrArg Prod.snd done
  · dsimp only at done
    split at done
    · exact nomatch congrArg Prod.snd done
    · split at done
      · exact nomatch congrArg Prod.snd done
      · rename_i passed
        simp only [bind_eq_ok_iff] at passed
        obtain ⟨_, -, _, checked, -⟩ := passed
        obtain ⟨-, same⟩ := Prod.mk.inj (Except.ok.inj (congrArg Prod.snd done))
        exact same ▸ Extent.check_eq_ok_iff.mp checked

theorem TileList.within_set {list after : TileList} {table : PrototypeTable} {mode : ValidationMode}
    {others : List Box} {i : Nat} {tile : Tile} {placement : Placement} {extent : Extent}
    (done : list.set table mode others i tile = (after, .ok (placement, extent))) :
    extent.oversize? = none := by
  unfold TileList.set at done
  split at done
  · exact nomatch congrArg Prod.snd done
  · dsimp only at done
    split at done
    · split at done <;> exact nomatch congrArg Prod.snd done
    · rename_i passed
      simp only [bind_eq_ok_iff] at passed
      obtain ⟨_, -, _, checked, -⟩ := passed
      obtain ⟨-, same⟩ := Prod.mk.inj (Except.ok.inj (congrArg Prod.snd done))
      exact same ▸ Extent.check_eq_ok_iff.mp checked

theorem TileList.within_insert {list after : TileList} {table : PrototypeTable}
    {mode : ValidationMode} {extent grown : Extent} {i : Nat} {tile : Tile} {merge : Bool}
    {placement : Placement} (within : extent.oversize? = none)
    (inserted : list.insert table mode extent i tile merge = .ok (after, placement, grown)) :
    grown.oversize? = none := by
  unfold TileList.insert at inserted
  split at inserted
  · exact nomatch inserted
  · split at inserted
    · obtain ⟨-, same⟩ := Prod.mk.inj (Except.ok.inj inserted)
      obtain ⟨-, rfl⟩ := Prod.mk.inj same
      exact within
    · simp only [bind_eq_ok_iff] at inserted
      obtain ⟨_, -, wider, extended, result⟩ := inserted
      obtain ⟨-, same⟩ := Prod.mk.inj (Except.ok.inj result)
      obtain ⟨-, rfl⟩ := Prod.mk.inj same
      obtain ⟨within, rfl⟩ := Extent.extendOver_eq_ok_iff.mp extended
      exact within

namespace Blueprint

variable {blueprint before after : Blueprint}

theorem Covered.covers (covered : blueprint.Covered) {box : Box} (mem : box ∈ blueprint.boxes) :
    blueprint.extent.Covers box := by
  rcases List.mem_append.mp mem with entity | tile
  · obtain ⟨key, found⟩ := SpatialIndex.mem_boxList.mp entity
    exact covered.entities key box found
  · obtain ⟨key, found⟩ := SpatialIndex.mem_boxList.mp tile
    exact covered.tiles key box found

/-- What one change keeps. -/
theorem Change.within {fitting : Prop} (change : Change fitting before after)
    (coherent : before.Coherent) (covered : before.Covered)
    (within : before.extent.oversize? = none) : after.extent.oversize? = none := by
  cases change with
  | describe table _ entities tiles extent => exact extent ▸ within
  | @insertEntity mode i item merge own =>
    have sound := EntityList.insert_sound coherent.entities.vacant before.table mode before.extent i
      item merge
    generalize before.entities.insert before.table mode before.extent i item merge = result
      at sound ⊢
    obtain ⟨after, _ | ⟨placement, grown⟩⟩ := result
    · exact within
    · exact sound.within within
  | @setEntity i item own =>
    generalize done : before.entities.set before.table before.mode before.tiles.boxes i item = result
    obtain ⟨after, _ | ⟨placement, extent⟩⟩ := result
    · exact within
    · exact EntityList.within_set done
  | modifyEntity key =>
    rcases before.modifyEntity_cases key _ with
      same | ⟨entity, entities, -, -, ⟨extent, extended, after⟩ | restored⟩
    · rw [same]
      exact within
    · rw [after]
      cases found : entities.index.box? key with
      | none =>
        rw [found] at extended
        exact Except.ok.inj extended ▸ within
      | some box =>
        rw [found] at extended
        obtain ⟨within, rfl⟩ := Extent.extendOver_eq_ok_iff.mp extended
        exact within
    · rw [restored]
      exact within
  | resetEntities | clearEntities =>
    exact Extent.oversize?_ofBoxes within fun box mem => covered.covers (List.mem_append_right _ mem)
  | insertTile _ inserted => exact TileList.within_insert within inserted
  | @setTile i tile =>
    unfold Blueprint.setTile
    split
    · exact within
    · generalize done : before.tiles.set before.table before.mode before.entities.boxes i tile = result
      obtain ⟨after, _ | ⟨placement, extent⟩⟩ := result
      · exact within
      · exact TileList.within_set done
  | resetTiles | clearTiles =>
    exact Extent.oversize?_ofBoxes within fun box mem => covered.covers (List.mem_append_left _ mem)
  | recalculate => exact Extent.oversize?_ofBoxes within fun box => covered.covers
  | _ => exact within

theorem Changes.within {fitting : Prop} (changes : Changes fitting before after)
    (coherent : before.Coherent) (covered : before.Covered)
    (within : before.extent.oversize? = none) : after.extent.oversize? = none := by
  induction changes with
  | refl => exact within
  | tail rest change ih =>
    obtain ⟨coherent, covered⟩ := Changes.covered rest coherent covered
    exact change.within coherent covered ih

/-- Whatever was done to a blueprint, its extent is within the limit. -/
theorem Reachable.within {allowed : Blueprint → Operation → Prop}
    (reachable : Reachable allowed blueprint) : blueprint.extent.oversize? = none := by
  obtain ⟨start, blank, changes⟩ := reachable.changes False False.elim
  refine Changes.within changes blank.coherent blank.covered ?_
  rw [blank.extent]
  rfl

theorem tiles_le_of_within {extent : Extent} (within : extent.oversize? = none) :
    extent.tileWidth ≤ Extent.maxTiles ∧ extent.tileHeight ≤ Extent.maxTiles := by
  rw [Extent.oversize?] at within
  split at within
  · contradiction
  · omega

end Blueprint
end FactoryBlueprint
