import FactoryBlueprint.Proofs.Store.Cells
import Mathlib.Data.List.Nodup
import Mathlib.Data.List.Perm.Basic

/-! # Objects that meet

What there is to warn of every two objects that meet can be found in two ways: object by object, each
with those that were there before it came, or at once in the index of all of them (`clashes`). The
warnings are the same but for their order (`clashes_add`), because objects meet each other or not at
all.
-/

namespace FactoryBlueprint

/-! ### Pairs -/

section Pairs

variable {α β : Type} {report : α → α → Option β}

/-- What is reported of every pair, the earlier one first. -/
def pairs (report : α → α → Option β) : List α → List β
  | [] => []
  | a :: later => later.filterMap (report a) ++ pairs report later

/-- A last element is paired with all before it. -/
theorem pairs_concat (as : List α) (last : α) : (pairs report (as ++ [last])).Perm
    (pairs report as ++ as.filterMap (report · last)) := by
  induction as with
  | nil => exact .nil
  | cons a as ih =>
    rw [List.cons_append, pairs, pairs, List.filterMap_append, List.filterMap_cons (a := a),
      List.append_assoc, List.append_assoc]
    refine List.Perm.append_left _ ?_
    cases clash : report a last with
    | none =>
      simp only [List.filterMap_cons, List.filterMap_nil, clash, List.nil_append]
      exact ih
    | some b =>
      simp only [List.filterMap_cons, List.filterMap_nil, clash, List.singleton_append]
      exact (ih.cons b).trans List.perm_middle.symm

/-- What is reported of each element and those after it, element by element. -/
def meetings (report : α → α → Option β) : List α → List (List β)
  | [] => []
  | a :: later => later.filterMap (report a) :: meetings report later

theorem pairs_eq_flatten (as : List α) : pairs report as = (meetings report as).flatten := by
  induction as with
  | nil => rfl
  | cons a later ih => rw [pairs, meetings, List.flatten_cons, ih]

theorem meetings_congr {other : α → α → Option β} {as : List α}
    (same : ∀ a ∈ as, ∀ b ∈ as, report a b = other a b) :
    meetings report as = meetings other as := by
  induction as with
  | nil => rfl
  | cons a as ih =>
    rw [meetings, meetings, ih fun b inRest c => by
      exact fun alsoInRest => same b (.tail a inRest) c (.tail a alsoInRest)]
    congr 1
    exact List.filterMap_congr fun b mem => same a List.mem_cons_self b (.tail a mem)

theorem pairs_congr {other : α → α → Option β} {as : List α}
    (same : ∀ a ∈ as, ∀ b ∈ as, report a b = other a b) : pairs report as = pairs other as := by
  rw [pairs_eq_flatten, pairs_eq_flatten, meetings_congr same]

/-- What is reported of elements is what is reported of the keys that they come from. -/
theorem meetings_filterMap {κ : Type} {f : κ → Option α} {reportKeys : κ → κ → Option β}
    {keys : List κ} (all : ∀ key ∈ keys, (f key).isSome)
    (same : ∀ key ∈ keys, ∀ a ∈ f key, ∀ other ∈ keys, ∀ b ∈ f other,
      reportKeys key other = report a b) :
    meetings report (keys.filterMap f) = meetings reportKeys keys := by
  induction keys with
  | nil => rfl
  | cons key later ih =>
    obtain ⟨a, found⟩ := Option.isSome_iff_exists.mp (all key List.mem_cons_self)
    have rest := ih (fun other mem => all other (.tail key mem)) fun first mem b named other
      alsoMem => same first (.tail key mem) b named other (.tail key alsoMem)
    rw [List.filterMap_cons_some found, meetings, meetings, rest, List.filterMap_filterMap]
    congr 1
    refine List.filterMap_congr fun other mem => ?_
    obtain ⟨b, there⟩ := Option.isSome_iff_exists.mp (all other (.tail key mem))
    rw [there, Option.bind_some,
      same key List.mem_cons_self a found other (.tail key mem) b there]

/-- The common elements of two lists are the same whichever list they are looked up in. -/
theorem filterMap_common [DecidableEq α] {as bs : List α} (nodup : as.Nodup)
    (otherNodup : bs.Nodup) (f : α → Option β) :
    (as.filterMap fun a => if a ∈ bs then f a else none).Perm
      (bs.filterMap fun b => if b ∈ as then f b else none) := by
  have filtered (as bs : List α) : (as.filterMap fun a => if a ∈ bs then f a else none) =
      (as.filter (· ∈ bs)).filterMap f := by
    rw [List.filterMap_filter]
    simp
  rw [filtered, filtered]
  refine List.Perm.filterMap f ?_
  refine (List.perm_ext_iff_of_nodup (nodup.filter _) (otherNodup.filter _)).mpr fun a => ?_
  simp [and_comm]

end Pairs

theorem Box.overlaps_comm (a b : Box) : a.overlaps b = b.overlaps a := by
  unfold Box.overlaps
  cases decide (a.min.x < b.max.x - positionTolerance) <;>
    cases decide (b.min.x < a.max.x - positionTolerance) <;>
    cases decide (a.min.y < b.max.y - positionTolerance) <;> simp

namespace SpatialIndex

variable {β : Type} {index : SpatialIndex} {report : Key → Key → Option β} {keys : List Key}

theorem nodup_query (index : SpatialIndex) (area : Box) : (index.query area).Nodup :=
  Distinct.nodup_addAll .nil _

/-- What is reported of two objects, if the box of the second is found by that of the first. -/
def clash? (index : SpatialIndex) (report : Key → Key → Option β) (a b : Key) :
    Option β :=
  match index.box? a with
  | none => none
  | some area => if b ∈ index.query area then report a b else none

/-- What is reported of every two objects that meet, found in the index. -/
def clashes (index : SpatialIndex) (report : Key → Key → Option β) : List Key → List β
  | [] => []
  | key :: later =>
    (match index.box? key with
      | none => []
      | some area => (index.query area).filterMap fun other =>
          if later.contains other then report key other else none) ++
      clashes index report later

/-- What is reported is reported of some two objects. -/
theorem exists_of_mem_clashes {told : β} (mem : told ∈ index.clashes report keys) :
    ∃ a b, report a b = some told := by
  induction keys with
  | nil => exact nomatch mem
  | cons key later ih =>
    rcases List.mem_append.mp mem with here | there
    · split at here
      · exact nomatch here
      · obtain ⟨other, -, reported⟩ := List.mem_filterMap.mp here
        split at reported
        · exact ⟨key, other, reported⟩
        · exact nomatch reported
    · exact ih there

/-- What is found comes object by object, and for each object it is what is reported of it and those
after it. -/
theorem exists_groups_clashes (nodup : keys.Nodup) :
    ∃ groups, index.clashes report keys = groups.flatten ∧
      List.Forall₂ List.Perm groups (meetings (index.clash? report) keys) := by
  induction keys with
  | nil => exact ⟨[], rfl, .nil⟩
  | cons key later ih =>
    obtain ⟨-, nodup⟩ := List.nodup_cons.mp nodup
    obtain ⟨groups, rest, same⟩ := ih nodup
    refine ⟨_ :: groups, congrArg (_ ++ ·) rest, .cons ?_ same⟩
    unfold clash?
    cases index.box? key with
    | none => simp
    | some area =>
      simp only [List.contains_iff_mem]
      exact filterMap_common (index.nodup_query area) nodup (report key)

theorem clashes_perm (nodup : keys.Nodup) :
    (index.clashes report keys).Perm (pairs (index.clash? report) keys) := by
  obtain ⟨groups, found, same⟩ := @exists_groups_clashes β index report keys nodup
  rw [found, pairs_eq_flatten]
  exact List.Perm.flatten_congr same

/-- Indexes of the same boxes tell the same, but for the order. -/
theorem clashes_congr {other : SpatialIndex} {report' : Key → Key → Option β}
    (filed : index.Filed) (otherFiled : other.Filed) (nodup : keys.Nodup)
    (boxes : ∀ key, other.box? key = index.box? key)
    (same : ∀ a ∈ keys, ∀ b ∈ keys, report' a b = report a b) :
    (other.clashes report' keys).Perm (index.clashes report keys) := by
  refine (clashes_perm nodup).trans (List.Perm.trans (.of_eq ?_) (clashes_perm nodup).symm)
  refine pairs_congr fun a inKeys b alsoInKeys => ?_
  simp only [clash?, boxes, same a inKeys b alsoInKeys, otherFiled.mem_query_iff,
    filed.mem_query_iff]

/-- Objects meet each other: one that is new finds those that find it. -/
theorem mem_query_add_iff (filed : index.Filed) {key other : Key} (room : index.Room key)
    {box area : Box} (there : index.box? other = some area) :
    key ∈ (index.add key box).query area ↔ other ∈ index.query box := by
  rw [(filed.add room box).mem_query_iff, filed.mem_query_iff]
  simp only [box?_add room, if_pos, there, Option.some.injEq, exists_eq_left', Box.overlaps_comm box]
  exact and_congr_right fun _ => exists_congr fun _ => and_comm

/-- An object that comes in adds what is reported of it and those that it meets. -/
theorem clashes_add (filed : index.Filed) (nodup : keys.Nodup)
    (indexed : ∀ key, (index.box? key).isSome ↔ key ∈ keys) {key : Key} (new : key ∉ keys)
    (room : index.Room key) (box : Box) {report' : Key → Key → Option β} {collision : Key → Option β}
    (same : ∀ a ∈ keys, ∀ b ∈ keys, report' a b = report a b)
    (collides : ∀ a ∈ keys, report' a key = collision a) :
    ((index.add key box).clashes report' (keys ++ [key])).Perm
      (index.clashes report keys ++ (index.query box).filterMap collision) := by
  have fresh : (keys ++ [key]).Nodup :=
    List.nodup_append.mpr ⟨nodup, List.nodup_singleton key, by
      rintro a mem _ last rfl
      exact new (List.mem_singleton.mp last ▸ mem)⟩
  have elsewhere : ∀ a ∈ keys, a ≠ key := fun a mem equal => new (equal ▸ mem)
  refine (clashes_perm fresh).trans ((pairs_concat _ _).trans (List.Perm.append ?_ ?_))
  · refine List.Perm.trans (.of_eq (pairs_congr fun a inKeys b alsoInKeys => ?_))
      (clashes_perm nodup).symm
    simp only [clash?, box?_add room, if_neg (elsewhere a inKeys), same a inKeys b alsoInKeys,
      (filed.add room box).mem_query_iff, filed.mem_query_iff, if_neg (elsewhere b alsoInKeys)]
  · have found : keys.filterMap ((index.add key box).clash? report' · key) =
        keys.filterMap fun a => if a ∈ index.query box then collision a else none := by
      refine List.filterMap_congr fun a mem => ?_
      obtain ⟨area, there⟩ := Option.isSome_iff_exists.mp ((indexed a).mpr mem)
      simp only [clash?, box?_add room, if_neg (elsewhere a mem), there,
        mem_query_add_iff filed room there, collides a mem]
    have within : (index.query box).filterMap collision =
        (index.query box).filterMap fun a => if a ∈ keys then collision a else none := by
      refine List.filterMap_congr fun a mem => ?_
      obtain ⟨area, there, -⟩ := box?_of_mem_query mem
      rw [if_pos ((indexed a).mp (there ▸ rfl))]
    rw [found, within]
    exact filterMap_common nodup (index.nodup_query box) collision

end SpatialIndex
end FactoryBlueprint
