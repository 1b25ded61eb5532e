/-! # Keyed fields in key order

The fields of an object are a list of keys with their values, in increasing key order and without a
repeated key. `Fields.insert` is the only way that library code adds one; `lookup` is the list's.

`lookup_insert` says what an insertion changes, `Sorted.insert` that it keeps the order.
-/

namespace FactoryBlueprint

/-- Keys with their values, in increasing key order. -/
abbrev Fields (α : Type) := List (String × α)

namespace Fields

variable {α : Type}

/-- Keys increase strictly along the list. -/
def Sorted (fields : Fields α) : Prop := fields.Pairwise fun a b => a.1 < b.1

/-- The fields with `key` bound to `value`, replacing an earlier binding. -/
def insert (key : String) (value : α) : Fields α → Fields α
  | [] => [(key, value)]
  | (k, v) :: rest =>
    if key < k then (key, value) :: (k, v) :: rest
    else if key = k then (key, value) :: rest
    else (k, v) :: insert key value rest

/-- All bindings of a list; a later binding of a key replaces an earlier one. -/
def ofList (bindings : List (String × α)) : Fields α :=
  bindings.foldl (fun fields (key, value) => fields.insert key value) []

/-- The bindings of `others` written over those of `fields`. -/
def overwrite (fields others : Fields α) : Fields α :=
  others.foldl (fun fields (key, value) => fields.insert key value) fields

/-- The keys in order. -/
def keys (fields : Fields α) : List String := fields.map (·.1)

/-- The fields without those of the given keys. -/
def without (fields : Fields α) (keys : List String) : Fields α :=
  fields.filter fun (key, _) => !keys.contains key

theorem lookup_insert (fields : Fields α) (key other : String) (value : α) :
    (fields.insert key value).lookup other =
      if other = key then some value else fields.lookup other := by
  induction fields with
  | nil =>
    by_cases same : other = key
    · simp [insert, same]
    · have : (other == key) = false := by simpa using same
      simp [insert, List.lookup_cons, same, this]
  | cons field rest ih =>
    obtain ⟨k, v⟩ := field
    simp only [insert]
    by_cases same : other = key
    · subst same
      split
      · simp
      · split
        · simp
        · rename_i _ differ
          have : (other == k) = false := by simpa using differ
          simp [List.lookup_cons, this, ih]
    · have miss : (other == key) = false := by simpa using same
      split
      · simp [List.lookup_cons, miss]
      · split
        · rename_i _ eq
          subst eq
          simp [List.lookup_cons, miss]
        · simp only [List.lookup_cons, ih, if_neg same]

theorem mem_insert {fields : Fields α} {key : String} {value : α} {field : String × α}
    (mem : field ∈ fields.insert key value) : field = (key, value) ∨ field ∈ fields := by
  induction fields with
  | nil => simpa [insert] using mem
  | cons first rest ih =>
    obtain ⟨k, v⟩ := first
    simp only [insert] at mem
    split at mem
    · simpa using mem
    · split at mem
      · rcases List.mem_cons.mp mem with eq | tail
        · exact .inl eq
        · exact .inr (List.mem_cons_of_mem _ tail)
      · rcases List.mem_cons.mp mem with eq | tail
        · exact .inr (eq ▸ List.mem_cons_self)
        · exact (ih tail).imp_right (List.mem_cons_of_mem _)

theorem Sorted.insert {fields : Fields α} (sorted : fields.Sorted) (key : String) (value : α) :
    (fields.insert key value).Sorted := by
  induction fields with
  | nil => simp [Fields.insert, Sorted]
  | cons first rest ih =>
    obtain ⟨k, v⟩ := first
    obtain ⟨above, tail⟩ := List.pairwise_cons.mp sorted
    simp only [Fields.insert]
    split
    · rename_i before
      refine List.pairwise_cons.mpr ⟨fun field mem => ?_, sorted⟩
      rcases List.mem_cons.mp mem with rfl | inRest
      · exact before
      · exact String.lt_trans before (above field inRest)
    · split
      · rename_i _ eq
        subst eq
        exact List.pairwise_cons.mpr ⟨above, tail⟩
      · rename_i notBefore differ
        refine List.pairwise_cons.mpr ⟨fun field mem => ?_, ih tail⟩
        rcases mem_insert mem with rfl | inRest
        · exact Decidable.byContradiction fun notAfter =>
            differ (String.le_antisymm (String.not_lt.mp notAfter) (String.not_lt.mp notBefore))
        · exact above field inRest

theorem sorted_overwrite {fields : Fields α} (sorted : fields.Sorted) (others : Fields α) :
    (fields.overwrite others).Sorted := by
  induction others generalizing fields with
  | nil => exact sorted
  | cons first rest ih => exact ih (sorted.insert first.1 first.2)

theorem sorted_ofList (bindings : List (String × α)) : (ofList bindings).Sorted :=
  sorted_overwrite List.Pairwise.nil bindings

theorem Sorted.without {fields : Fields α} (sorted : fields.Sorted) (keys : List String) :
    (fields.without keys).Sorted := List.Pairwise.filter _ sorted

end Fields
end FactoryBlueprint
