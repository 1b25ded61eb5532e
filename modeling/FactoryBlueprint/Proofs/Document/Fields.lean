import FactoryBlueprint.Document.Fields
import Mathlib.Data.List.Basic

/-! # Fields under their keys

Fields in key order are determined by what stands under each key (`Sorted.ext`). This module says
what stands where after fields were written over others, left out or put in order, and that to write
over twice is to write over once (`overwrite_overwrite`).
-/

namespace FactoryBlueprint.Fields

variable {α : Type}

/-- Fields that are left out in the end may as well not be inserted. -/
theorem without_insert {keys : List String} {key : String} (left : key ∈ keys) (value : α)
    (fields : Fields α) : (fields.insert key value).without keys = fields.without keys := by
  have dropped : keys.contains key = true := List.contains_iff_mem.mpr left
  induction fields with
  | nil => simp [insert, without, left]
  | cons first rest ih =>
    obtain ⟨k, v⟩ := first
    simp only [insert]
    split
    · simp [without, left]
    · split
      · rename_i _ same
        subst same
        simp [without, left]
      · simp only [without] at ih ⊢
        rw [List.filter_cons, List.filter_cons, ih]

/-! ### What stands under a key -/

theorem lookup_eq_none_iff {fields : Fields α} {key : String} :
    fields.lookup key = none ↔ ∀ field ∈ fields, field.1 ≠ key := by
  simp [List.lookup_eq_none_iff, eq_comm (a := key)]

theorem mem_of_lookup {fields : Fields α} {key : String} {value : α}
    (found : fields.lookup key = some value) : (key, value) ∈ fields := by
  induction fields with
  | nil => contradiction
  | cons first rest ih =>
    obtain ⟨k, v⟩ := first
    rw [List.lookup_cons] at found
    split at found
    · rename_i same
      rw [beq_iff_eq.mp same, Option.some.inj found]
      exact List.mem_cons_self
    · exact List.mem_cons_of_mem _ (ih found)

/-- Fields are in key order if their keys are. -/
theorem sorted_of_keys {fields : Fields α} (keys : List String) (same : fields.keys = keys)
    (ordered : keys.Pairwise (· < ·)) : fields.Sorted := by
  subst same
  exact List.pairwise_map.mp ordered

/-- In key order every field is found under its key. -/
theorem Sorted.lookup {fields : Fields α} (sorted : fields.Sorted) {key : String} {value : α}
    (mem : (key, value) ∈ fields) : fields.lookup key = some value := by
  induction fields with
  | nil => contradiction
  | cons first rest ih =>
    obtain ⟨k, v⟩ := first
    obtain ⟨above, tail⟩ := List.pairwise_cons.mp sorted
    rcases List.mem_cons.mp mem with same | later
    · obtain ⟨rfl, rfl⟩ := Prod.mk.inj same
      rw [List.lookup_cons_self]
    · have before : k < key := above _ later
      have other : (key == k) = false := beq_eq_false_iff_ne.mpr (String.ne_of_lt before).symm
      rw [List.lookup_cons, other]
      exact ih tail later

theorem Sorted.mem_iff {fields : Fields α} (sorted : fields.Sorted) {key : String} {value : α} :
    (key, value) ∈ fields ↔ fields.lookup key = some value :=
  ⟨sorted.lookup, mem_of_lookup⟩

theorem Sorted.nodup {fields : Fields α} (sorted : fields.Sorted) : fields.Nodup := by
  refine List.Pairwise.imp (fun less same => ?_) sorted
  rw [same] at less
  exact String.lt_irrefl _ less

/-- Fields in key order are determined by what stands under each key. -/
theorem Sorted.ext {fields others : Fields α} (sorted : fields.Sorted) (also : others.Sorted)
    (same : ∀ key, fields.lookup key = others.lookup key) : fields = others := by
  have perm : fields.Perm others := by
    refine (List.perm_ext_iff_of_nodup sorted.nodup also.nodup).mpr fun field => ?_
    obtain ⟨key, value⟩ := field
    rw [sorted.mem_iff, also.mem_iff, same]
  exact perm.eq_of_pairwise (fun a b _ _ less more => absurd more (String.lt_asymm less)) sorted also

/-- What stands under a key that is kept stays there. -/
theorem lookup_filter (fields : Fields α) (keep : String → Bool) (key : String) :
    (fields.filter fun field => keep field.1).lookup key =
      if keep key then fields.lookup key else none := by
  induction fields with
  | nil => simp
  | cons first rest ih =>
    obtain ⟨k, v⟩ := first
    rw [List.filter_cons, List.lookup_cons]
    by_cases same : key = k
    · subst same
      cases kept : keep key with
      | true => simp
      | false => simpa [kept] using ih
    · have miss : (key == k) = false := beq_eq_false_iff_ne.mpr same
      cases keep k with
      | true => simpa [List.lookup_cons, miss] using ih
      | false => simpa [miss] using ih

theorem lookup_without (fields : Fields α) (keys : List String) (key : String) :
    (fields.without keys).lookup key = if key ∈ keys then none else fields.lookup key := by
  rw [without, lookup_filter fields (fun key => !keys.contains key)]
  by_cases left : key ∈ keys <;> simp [left]

theorem ofList_eq_overwrite (bindings : List (String × α)) : ofList bindings = overwrite [] bindings :=
  rfl

theorem overwrite_append (fields first second : Fields α) :
    fields.overwrite (first ++ second) = (fields.overwrite first).overwrite second :=
  List.foldl_append

theorem overwrite_cons (fields : Fields α) (key : String) (value : α) (rest : Fields α) :
    fields.overwrite ((key, value) :: rest) = (fields.insert key value).overwrite rest := rfl

theorem overwrite_nil (fields : Fields α) : fields.overwrite [] = fields := rfl

theorem mem_overwrite {fields others : Fields α} {field : String × α}
    (mem : field ∈ fields.overwrite others) : field ∈ others ∨ field ∈ fields := by
  induction others generalizing fields with
  | nil => exact .inr mem
  | cons first rest ih =>
    rcases ih mem with inRest | inInserted
    · exact .inl (List.mem_cons_of_mem _ inRest)
    · rcases mem_insert inInserted with rfl | old
      · exact .inl List.mem_cons_self
      · exact .inr old

/-- Fields that are left out do not come back when the others are put in order. -/
theorem lookup_ofList_without {keys : List String} {key : String} (left : key ∈ keys)
    (fields : Fields α) : (ofList (fields.without keys)).lookup key = none := by
  refine lookup_eq_none_iff.mpr fun field mem same => ?_
  rcases mem_overwrite mem with here | nothing
  · have kept := (List.mem_filter.mp here).2
    simp [same, left] at kept
  · exact List.not_mem_nil nothing

/-- What is written over the fields hides them. -/
theorem lookup_overwrite (fields : Fields α) {others : Fields α} (sorted : others.Sorted)
    (key : String) :
    (fields.overwrite others).lookup key = (others.lookup key).or (fields.lookup key) := by
  induction others generalizing fields with
  | nil => rfl
  | cons first rest ih =>
    obtain ⟨k, v⟩ := first
    obtain ⟨above, tail⟩ := List.pairwise_cons.mp sorted
    rw [overwrite_cons, ih _ tail, lookup_insert, List.lookup_cons]
    by_cases same : key = k
    · subst same
      have alone : rest.lookup key = none := lookup_eq_none_iff.mpr fun field mem =>
        (String.ne_of_lt (above field mem)).symm
      simp [alone]
    · simp [same, beq_eq_false_iff_ne.mpr same]

theorem lookup_overwrite_of_notMem (fields : Fields α) {others : Fields α} {key : String}
    (other : ∀ field ∈ others, field.1 ≠ key) :
    (fields.overwrite others).lookup key = fields.lookup key := by
  induction others generalizing fields with
  | nil => rfl
  | cons first rest ih =>
    obtain ⟨here, later⟩ := List.forall_mem_cons.mp other
    rw [overwrite_cons, ih _ later, lookup_insert, if_neg here.symm]

/-- Fields in key order are what their bindings make. -/
theorem Sorted.ofList_eq {fields : Fields α} (sorted : fields.Sorted) : ofList fields = fields := by
  refine (sorted_ofList fields).ext sorted fun key => ?_
  have hidden := lookup_overwrite [] sorted key
  rwa [List.lookup_nil, Option.or_none] at hidden

/-! ### Writing over twice -/

theorem insert_insert (fields : Fields α) (key : String) (value : α) :
    (fields.insert key value).insert key value = fields.insert key value := by
  induction fields with
  | nil => simp [insert]
  | cons first rest ih =>
    obtain ⟨k, v⟩ := first
    by_cases before : key < k
    · simp [insert, before]
    · by_cases same : key = k
      · simp [insert, same]
      · simp [insert, before, same, ih]

/-- What is held already is still held after something else was inserted. -/
theorem insert_insert_of_insert_eq {fields : Fields α} {key other : String} {value : α}
    (held : fields.insert key value = fields) (differ : key ≠ other) (otherValue : α) :
    (fields.insert other otherValue).insert key value = fields.insert other otherValue := by
  induction fields with
  | nil => exact nomatch held
  | cons first rest ih =>
    obtain ⟨k, v⟩ := first
    have notBefore : ¬ key < k := by
      intro before
      rw [insert, if_pos before] at held
      exact absurd (congrArg List.length held) (by simp)
    have stays : (key, value) :: rest = (k, v) :: rest ∨
        key ≠ k ∧ insert key value rest = rest := by
      rw [insert, if_neg notBefore] at held
      split at held
      · exact .inl held
      · rename_i apart
        exact .inr ⟨apart, (List.cons.inj held).2⟩
    by_cases before : other < k
    · have notLess : ¬ key < other := fun less => notBefore (String.lt_trans less before)
      rw [insert, if_pos before, insert, if_neg notLess, if_neg differ, held]
    · rw [insert, if_neg before]
      split
      · rename_i same
        have apart : key ≠ k := same ▸ differ
        rw [insert, if_neg (same ▸ notBefore), if_neg differ]
        rcases stays with here | ⟨-, later⟩
        · exact absurd (Prod.mk.inj (List.cons.inj here).1).1 apart
        · rw [later]
      · rw [insert, if_neg notBefore]
        rcases stays with here | ⟨apart, later⟩
        · obtain ⟨rfl, rfl⟩ := Prod.mk.inj (List.cons.inj here).1
          rw [if_pos rfl]
        · rw [if_neg apart, ih later]

/-- Fields that are written over others are held from then on. -/
theorem insert_overwrite_of_insert_eq {fields others : Fields α} {key : String} {value : α}
    (held : fields.insert key value = fields) (absent : ∀ field ∈ others, field.1 ≠ key) :
    (fields.overwrite others).insert key value = fields.overwrite others := by
  induction others generalizing fields with
  | nil => exact held
  | cons first rest ih =>
    obtain ⟨here, later⟩ := List.forall_mem_cons.mp absent
    exact ih (insert_insert_of_insert_eq held here.symm first.2) later

/-- Every field that was written over others is held. -/
theorem insert_overwrite {others : Fields α} (sorted : others.Sorted) (fields : Fields α)
    {field : String × α} (mem : field ∈ others) :
    (fields.overwrite others).insert field.1 field.2 = fields.overwrite others := by
  induction others generalizing fields with
  | nil => exact nomatch mem
  | cons first rest ih =>
    obtain ⟨above, tail⟩ := List.pairwise_cons.mp sorted
    rcases List.mem_cons.mp mem with rfl | later
    · refine @insert_overwrite_of_insert_eq _ (fields.insert field.1 field.2) rest _ _
        (insert_insert fields field.1 field.2) fun other inRest => ?_
      exact (String.ne_of_lt (above other inRest)).symm
    · exact ih tail _ later

theorem overwrite_eq_self {fields others : Fields α}
    (held : ∀ field ∈ others, fields.insert field.1 field.2 = fields) :
    fields.overwrite others = fields := by
  induction others with
  | nil => rfl
  | cons first rest ih =>
    obtain ⟨here, later⟩ := List.forall_mem_cons.mp held
    rw [overwrite_cons, here, ih later]

/-- To write over twice is to write over once. -/
theorem overwrite_overwrite {others : Fields α} (sorted : others.Sorted) (fields : Fields α) :
    (fields.overwrite others).overwrite others = fields.overwrite others :=
  overwrite_eq_self fun _ mem => insert_overwrite sorted fields mem

theorem Sorted.insert_eq_self {fields : Fields α} (sorted : fields.Sorted) {field : String × α}
    (mem : field ∈ fields) : fields.insert field.1 field.2 = fields := by
  have held := insert_overwrite sorted [] mem
  rwa [← ofList_eq_overwrite, sorted.ofList_eq] at held

theorem Sorted.overwrite_self {fields : Fields α} (sorted : fields.Sorted) :
    fields.overwrite fields = fields :=
  overwrite_eq_self fun _ mem => sorted.insert_eq_self mem

end FactoryBlueprint.Fields
