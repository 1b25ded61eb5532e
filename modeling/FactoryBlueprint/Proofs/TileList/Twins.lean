import FactoryBlueprint.Proofs.Blueprint.Covering
import FactoryBlueprint.Proofs.Likeness
import FactoryBlueprint.Proofs.Store.Twins
import FactoryBlueprint.Proofs.TileList.Coherence

/-! # Twin tile lists

Twin lists hold the same tiles under the same keys in the same order; cells of their indexes may
list keys in another order. A copy is a twin of its original (`twins_duplicate`), and what is done
to twins alike keeps them twins, as long as no tile could merge into any of several (`Unrivalled`).
-/

namespace FactoryBlueprint.TileList

/-- The other list holds the same tiles under the same keys. -/
structure Twins (list other : TileList) : Prop where
  arena : other.arena = list.arena
  order : other.order = list.order
  index : list.index.Agrees other.index

variable {list other : TileList}

theorem twins_empty : Twins .empty .empty := ⟨rfl, rfl, .empty⟩

theorem twins_duplicate (coherent : list.Coherent) (filed : list.index.Filed) :
    Twins list list.duplicate where
  arena := rfl
  order := rfl
  index := by
    refine .of_filed filed coherent.filed_duplicate fun key => ?_
    rw [coherent.duplicate.indexed, coherent.indexed]
    rfl

namespace Twins

theorem tile? (twins : Twins list other) (key : Key) : other.tile? key = list.tile? key := by
  rw [TileList.tile?, twins.arena, TileList.tile?]

theorem tiles (twins : Twins list other) : other.tiles = list.tiles := by
  rw [TileList.tiles, twins.order, TileList.tiles]
  exact congrArg (List.filterMap · list.order) (funext twins.tile?)

theorem length (twins : Twins list other) : other.length = list.length :=
  congrArg List.length twins.order

/-- The boxes of twins are the same, in whatever order. -/
theorem mem_boxes (twins : Twins list other) (box : Box) : box ∈ list.boxes ↔ box ∈ other.boxes :=
  (twins.index.mem_boxList box).symm

end Twins

/-- At most one tile that is found on the square of another could absorb it. -/
def Unrivalled (list : TileList) (tile : Tile) : Prop :=
  ∀ first ∈ list.index.query tile.box, ∀ second ∈ list.index.query tile.box,
    (list.tile? first).any (·.mergeableWith tile) = true →
      (list.tile? second).any (·.mergeableWith tile) = true → first = second

/-- What the tile comes to overlap when it is inserted. -/
def overlapsOf (list : TileList) (table : PrototypeTable) (tile : Tile) (merge : Bool) : Raised :=
  match if merge then list.mergeTarget? tile else none with
  | some _ => []
  | none => [list.collisions table tile]

/-- The list in which tile `i` is not found any more. -/
def vacated (list : TileList) (i : Nat) : TileList :=
  { list with index := list.order[i]?.elim list.index list.index.remove }

theorem vacated_eq {i : Nat} {old : Key} (found : list.order[i]? = some old) :
    list.vacated i = { list with index := list.index.remove old } := by
  rw [vacated, found]
  rfl

namespace Twins

variable {table : PrototypeTable}

theorem mergeTarget?_eq (twins : Twins list other) {merge : Bool} {tile : Tile}
    (decided : merge = true → list.Unrivalled tile) :
    (if merge then other.mergeTarget? tile else none) =
      if merge then list.mergeTarget? tile else none := by
  cases merge with
  | false => simp only [Bool.false_eq_true, if_false]
  | true =>
    simp only [if_true, mergeTarget?, twins.tile?]
    exact find?_eq_of_perm (twins.index.query tile.box) (decided rfl)

theorem collisions (twins : Twins list other) (tile : Tile) :
    Warning.Reordered (list.collisions table tile) (other.collisions table tile) := by
  have same (key : Key) : other.collision? table tile key = list.collision? table tile key := by
    rw [collision?, twins.tile?, collision?]
  rw [TileList.collisions, TileList.collisions, funext same]
  refine .overlaps tile.name tile.position.toPoint ((twins.index.query _).filterMap _)
    fun warning mem => ?_
  obtain ⟨key, -, found⟩ := List.mem_filterMap.mp mem
  simp only [collision?, Option.bind_eq_bind, Option.bind_eq_some_iff,
    Option.ite_none_right_eq_some, Option.some.injEq] at found
  obtain ⟨existing, -, -, rfl⟩ := found
  exact ⟨existing.name, rfl⟩

/-- One tile overlaps the same ones. -/
theorem overlaps (twins : Twins list other) (table : PrototypeTable) (tile : Tile) :
    Raised.Alike [list.collisions table tile] [other.collisions table tile] :=
  .cons (twins.collisions tile) .nil

theorem insert (twins : Twins list other) (mode : ValidationMode) (extent : Extent) (i : Nat)
    {tile : Tile} {merge : Bool}
    (decided : merge = true → i ≤ list.length → list.Unrivalled tile) :
    OutcomesAlike
      (Error.Alike mode (list.overlapsOf table tile merge) (other.overlapsOf table tile merge))
      (fun p q => Twins p.1 q.1 ∧ PlacedWithin mode (list.overlapsOf table tile merge)
        (other.overlapsOf table tile merge) p.2 q.2)
      (list.insert table mode extent i tile merge) (other.insert table mode extent i tile merge) := by
  rw [TileList.insert, TileList.insert, twins.length]
  split
  · exact .error (.same _)
  · rename_i bound
    rw [overlapsOf, overlapsOf,
      twins.mergeTarget?_eq fun merges => decided merges (Nat.le_of_not_lt bound)]
    cases if merge then list.mergeTarget? tile else none with
    | some key =>
      refine .ok ⟨⟨?_, twins.order, twins.index⟩, ⟨rfl, rfl, .nil mode⟩, rfl⟩
      simp only [twins.arena]
    | none =>
      have accepted := (twins.overlaps table tile).accept mode
      rw [List.flatten_singleton, List.flatten_singleton] at accepted
      refine accepted.bind fun kept left told => ?_
      refine (OutcomesAlike.refl .same (fun _ => rfl) (extent.extendOver tile.box)).bind ?_
      rintro grown _ rfl
      refine .ok ⟨⟨?_, ?_, ?_⟩, ⟨?_, rfl, told⟩, rfl⟩
      · simp only [twins.arena]
      · simp only [twins.arena, twins.order]
      · simp only [twins.arena]
        exact twins.index.add _ _
      · simp only [twins.arena]

theorem vacated (twins : Twins list other) (i : Nat) :
    Twins (list.vacated i) (other.vacated i) := by
  refine ⟨twins.arena, twins.order, ?_⟩
  simp only [TileList.vacated, twins.order]
  cases list.order[i]? with
  | none => exact twins.index
  | some old => exact twins.index.remove old

/-- What replacing a tile gives to twins. -/
theorem set (twins : Twins list other) (table : PrototypeTable) (mode : ValidationMode)
    {others boxes : List Box}
    (same : ∀ box, box ∈ others ↔ box ∈ boxes) (i : Nat) (tile : Tile) :
    Twins (list.set table mode others i tile).1 (other.set table mode boxes i tile).1 ∧
      OutcomesAlike
        (Error.Alike mode [(list.vacated i).collisions table tile]
          [(other.vacated i).collisions table tile])
        (PlacedWithin mode [(list.vacated i).collisions table tile]
          [(other.vacated i).collisions table tile])
        (list.set table mode others i tile).2 (other.set table mode boxes i tile).2 := by
  have found : other.order[i]? = list.order[i]? := by rw [twins.order]
  rw [TileList.set, TileList.set, found, twins.length]
  cases ordered : list.order[i]? with
  | none => exact ⟨twins, .error (.same _)⟩
  | some old =>
    dsimp -zeta only
    extract_lets cleared extent accepting left key otherCleared otherExtent otherAccepting
      otherLeft otherKey
    have emptied := twins.vacated i
    have vacates : list.vacated i = cleared := vacated_eq ordered
    have otherVacates : other.vacated i = otherCleared := vacated_eq (found.trans ordered)
    rw [vacates, otherVacates] at emptied ⊢
    have extents : otherExtent = extent := by
      refine Extent.ofBoxes_congr fun box => ?_
      rw [List.mem_append, List.mem_append, List.mem_cons, List.mem_cons, emptied.mem_boxes, same]
    have accepted := (emptied.overlaps table tile).accept mode
    rw [List.flatten_singleton, List.flatten_singleton] at accepted
    have accepts : OutcomesAlike
        (Error.Alike mode [cleared.collisions table tile] [otherCleared.collisions table tile])
        (Raised.Told mode [cleared.collisions table tile] [otherCleared.collisions table tile])
        accepting otherAccepting := by
      refine accepted.bind fun kept left told => ?_
      rw [extents]
      exact (OutcomesAlike.refl .same (fun _ => rfl) _).bind fun _ _ _ => .ok told
    have keys : otherKey = key := by
      simp only [otherKey, key, otherLeft, left, twins.arena]
    clear_value accepting otherAccepting
    cases accepts with
    | error alike =>
      dsimp only
      rw [twins.index.box?]
      cases list.index.box? old with
      | none => exact ⟨emptied, .error alike⟩
      | some box =>
        exact ⟨⟨twins.arena, twins.order, emptied.index.add old box⟩, .error alike⟩
    | ok told =>
      dsimp only
      rw [keys, extents]
      refine ⟨⟨?_, congrArg (·.set i key) twins.order, emptied.index.add key tile.box⟩,
        .ok ⟨⟨rfl, rfl, told⟩, rfl⟩⟩
      simp only [otherLeft, left, twins.arena]

theorem remove (twins : Twins list other) (i : Nat) :
    OutcomesAlike Eq (fun p q => q.1 = p.1 ∧ Twins p.2 q.2) (list.remove i) (other.remove i) := by
  rw [TileList.remove, TileList.remove, twins.length]
  simp only [twins.order, twins.arena, twins.tile?]
  split
  · exact .error rfl
  · exact .ok ⟨rfl, rfl, rfl, twins.index.remove _⟩

theorem clear (twins : Twins list other) : Twins list.clear other.clear where
  arena := congrArg Arena.clear twins.arena
  order := rfl
  index := .empty

theorem duplicate (twins : Twins list other) : Twins list.duplicate other.duplicate where
  arena := twins.arena
  order := twins.order
  index := by
    simp only [TileList.duplicate, twins.order, twins.tile?]
    exact SpatialIndex.Agrees.empty.addAll _

end Twins
end FactoryBlueprint.TileList
