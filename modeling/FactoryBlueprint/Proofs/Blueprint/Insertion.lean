import FactoryBlueprint.Proofs.Blueprint.Limit
import FactoryBlueprint.Proofs.Blueprint.Refusal
import FactoryBlueprint.Proofs.EntityList.Accounting
import FactoryBlueprint.Proofs.Vetting

/-! # What an insertion does

An insertion accounts for every entity of the item, however deep in groups it stands: it was absorbed
by one entity that can take it if merging and there is any, and is a new leaf otherwise
(`Reachable.insertEntity_accounts`). Nothing else happens to entities, and the extent grows by the
boxes of the new leaves.
-/

namespace FactoryBlueprint

namespace EntityList

variable {table : PrototypeTable} {merge : Bool} {list after : EntityList}
  {account : List (Part × Fate)} {members : List Member}

/-- The entities that were there and those that came in have the boxes that they came in with. -/
theorem Accounted.box? (accounted : Accounted table merge list after members account) {key : Key}
    {part : Part} (known : Accounts.Known list.part? account key part) :
    after.index.box? key = some (part.box table) := by
  obtain ⟨now, here, keeps⟩ := accounted.accounts.exists_keeps known
  rw [accounted.sited.boxes, here]
  exact congrArg some (keeps.box table)

theorem Accounted.boxes_newLeaves (accounted : Accounted table merge list after members account) :
    (Member.leavesOfAll members).filterMap after.index.box? =
      (newLeaves account).map (·.2.box table) := by
  rw [accounted.leaves, List.filterMap_map, ← List.filterMap_eq_map]
  exact List.filterMap_congr fun one mem => accounted.box? (.inr mem)

/-- New leaves are parts that were placed. -/
theorem boxes_newLeaves_subset {box : Box}
    (mem : box ∈ (newLeaves account).map (·.2.box table)) :
    box ∈ (account.map (·.1)).map (·.box table) := by
  obtain ⟨leaf, inNew, rfl⟩ := List.mem_map.mp mem
  obtain ⟨one, inAccount, stored⟩ := List.mem_filterMap.mp inNew
  obtain ⟨key, -, rfl⟩ := Option.map_eq_some_iff.mp stored
  exact List.mem_map_of_mem (List.mem_map_of_mem inAccount)

/-- An insertion succeeds at a place within the list, if the item merged or if its warnings are
accepted and the extent can grow. -/
theorem insert_eq_ok_iff {mode : ValidationMode} {extent grown : Extent} {i : Nat} {item : Item}
    {placement : Placement} :
    list.insert table mode extent i item merge = (after, .ok (placement, grown)) ↔
      i ≤ list.length ∧
        ((∃ host, place table merge .top item list = (after, .merged host) ∧
            placement = ⟨host, true, []⟩ ∧ grown = extent) ∨
          ∃ placed member warnings own,
            place table merge .top item list = (placed, .inserted member warnings) ∧
              mode.accept warnings = .ok own ∧ placed.extendOver member extent = .ok grown ∧
              after = { placed with members := placed.members.insertIdx i member } ∧
              placement = ⟨member.key, false, own⟩) := by
  rw [insert, ← Nat.not_lt]
  by_cases beyond : list.length < i
  · simp [beyond]
  · rw [if_neg beyond]
    rcases place table merge .top item list with ⟨placed, ⟨member, warnings⟩ | host⟩
    · cases accepted : mode.accept warnings with
      | error error => simp [accepted, bind, Except.bind]
      | ok own =>
        cases extended : placed.extendOver member extent <;>
          simp [beyond, accepted, extended, bind, Except.bind, pure, Except.pure, eq_comm, and_comm,
            and_left_comm]
    · simp [beyond, eq_comm, and_left_comm]

/-- An insertion that succeeds accounts for the parts of the item. The leaves that are new stand at
its place, and their boxes are what the extent covers as well. -/
theorem exists_accounted_insert (sited : list.Sited table) (vacant : list.Vacant)
    {mode : ValidationMode} {extent grown : Extent} {i : Nat} {item : Item} {placement : Placement}
    (inserted : list.insert table mode extent i item merge = (after, .ok (placement, grown))) :
    ∃ account members, account.map (·.1) = item.parts .zero ∧
      Accounted table merge list after members account ∧
      after.leaves = Member.leavesOfAll (list.members.take i) ++ Member.leavesOfAll members ++
        Member.leavesOfAll (list.members.drop i) ∧
      grown = extent.coverAll ((newLeaves account).map (·.2.box table)) := by
  obtain ⟨account, parts, accounted⟩ := exists_accounted_place table merge item .top list sited
  have sound := place_sound table merge .top item list vacant
  rcases insert_eq_ok_iff.mp inserted with ⟨bound, ⟨host, done, rfl, rfl⟩ |
    ⟨placed, member, warnings, own, done, -, extended, rfl, rfl⟩⟩
  · rw [done] at accounted sound
    refine ⟨account, [], parts, accounted, ?_, ?_⟩
    · have members : after.members = list.members := sound.members
      rw [leaves, members, Member.leavesOfAll, List.append_nil, ← Member.leavesOfAll_append,
        List.take_append_drop]
    · rw [← accounted.boxes_newLeaves]
      rfl
  · rw [done] at accounted sound
    refine ⟨account, [member], parts, ⟨⟨accounted.sited.filed, accounted.sited.boxes⟩,
      accounted.accounts, accounted.leaves⟩, ?_, ?_⟩
    · have members : placed.members = list.members := sound.1.members
      rw [leaves, members, Member.leavesOfAll_insertIdx bound, Member.leavesOfAll_singleton]
    · rw [(eq_coverAll_of_extendOver extended).1, ← accounted.boxes_newLeaves,
        ← Member.leavesOfAll_singleton]
      rfl

/-- An item is inserted if its parts keep the extent within the limit, whichever of them merge. -/
theorem exists_inserted (sited : list.Sited table) {mode : ValidationMode}
    (permissive : mode ≠ .pedantic) {extent : Extent} {i : Nat} (bound : i ≤ list.length)
    {item : Item} (merge : Bool)
    (within : (extent.coverAll ((item.parts .zero).map (·.box table))).oversize? = none) :
    ∃ after placement grown,
      list.insert table mode extent i item merge = (after, .ok (placement, grown)) := by
  obtain ⟨account, parts, accounted⟩ := exists_accounted_place table merge item .top list sited
  have covered : (extent.coverAll ((newLeaves account).map (·.2.box table))).oversize? = none := by
    refine @Extent.oversize?_of_coverAll _ ((item.parts .zero).map (·.box table)) ?_
    rwa [← Extent.coverAll_append, Extent.coverAll_perm extent List.perm_append_comm,
      Extent.coverAll_append,
      Extent.coverAll_coverAll fun box mem => parts ▸ boxes_newLeaves_subset mem]
  rw [← accounted.boxes_newLeaves] at covered
  rcases done : place table merge .top item list with ⟨placed, ⟨member, warnings⟩ | host⟩
  · rw [done] at covered
    have extended := (extendOver_eq_ok_iff (Extent.oversize?_of_coverAll within)).mpr
      ⟨member.leavesOfAll_singleton ▸ covered, rfl⟩
    cases accepted : mode.accept warnings with
    | error error => exact absurd (ValidationMode.accept_eq_error_iff.mp accepted).1 permissive
    | ok own =>
      exact ⟨_, _, _, insert_eq_ok_iff.mpr
        ⟨bound, .inr ⟨_, _, _, own, done, accepted, extended, rfl, rfl⟩⟩⟩
  · exact ⟨_, _, _, insert_eq_ok_iff.mpr ⟨bound, .inl ⟨host, done, rfl, rfl⟩⟩⟩

end EntityList

namespace Blueprint

variable {before blueprint after : Blueprint} {item : Item} {i : Nat} {merge : Bool}

/-- An insertion succeeds if the warnings of the item are accepted and it can be inserted in the
list. -/
theorem insertEntity_eq_ok_iff {placement : Placement} :
    before.insertEntity i item merge = (after, .ok placement) ↔
      ∃ own, before.mode.accept (item.warnings before.table) = .ok own ∧
        ∃ entities first grown,
          before.entities.insert before.table before.mode before.extent i item merge =
              (entities, .ok (first, grown)) ∧
            after = { before with entities := entities, extent := grown } ∧
            placement = first.after own := by
  rw [insertEntity]
  cases before.mode.accept (item.warnings before.table) with
  | error error => simp
  | ok own =>
    rcases before.entities.insert before.table before.mode before.extent i item merge with
      ⟨entities, error | ⟨first, grown⟩⟩
    · simp [placed]
    · simp [placed, eq_comm, and_assoc]

/-- What an insertion at place `i` has done, given what became of each part of the item. -/
structure AccountsFor (before after : Blueprint) (i : Nat) (merge : Bool)
    (account : List (Part × Fate)) : Prop where
  /-- One part after the other was absorbed by an entity that can take it, or stored if none can. -/
  settled : Accounts before.table merge before.entities.part? account after.entities.part?
  /-- New leaves stand together between the old ones, all in order. -/
  leaves : after.entities.leaves =
    Member.leavesOfAll (before.entities.members.take i) ++ (newLeaves account).map (·.1) ++
      Member.leavesOfAll (before.entities.members.drop i)
  nodup : after.entities.leaves.Nodup
  /-- An entity that absorbed nothing is as it was, or as it came in. -/
  same : ∀ key part, Accounts.Known before.entities.part? account key part →
    .absorbed key ∉ account.map (·.2) → after.entities.part? key = some part
  /-- One that absorbed others keeps what merging may not change. -/
  kept : ∀ key part, Accounts.Known before.entities.part? account key part →
    ∃ now, after.entities.part? key = some now ∧ part.Keeps now
  /-- Old leaves keep their boxes. -/
  oldBoxes : ∀ key ∈ before.entities.leaves,
    after.entities.index.box? key = before.entities.index.box? key
  newBoxes : ∀ one ∈ newLeaves account,
    after.entities.index.box? one.1 = some (one.2.box before.table)
  extent : after.extent =
    before.extent.coverAll ((newLeaves account).map (·.2.box before.table))

theorem Reachable.sited {allowed : Blueprint → Operation → Prop}
    (reachable : Reachable allowed blueprint) : blueprint.entities.Sited blueprint.table :=
  reachable.coherent.entities.sited reachable.filed

/-- An insertion accounts for each entity of the item exactly once, and leaves everything else as it
was. -/
theorem Reachable.insertEntity_accounts {allowed : Blueprint → Operation → Prop}
    (reachable : Reachable allowed before) {placement : Placement}
    (inserted : before.insertEntity i item merge = (after, .ok placement)) :
    ∃ account, account.map (·.1) = item.parts .zero ∧ AccountsFor before after i merge account := by
  have coherent := reachable.coherent.entities
  obtain ⟨own, -, entities, placed, grown, done, rfl, -⟩ := insertEntity_eq_ok_iff.mp inserted
  have sound := coherent.insert before.mode before.extent i item merge
  rw [done] at sound
  obtain ⟨account, members, parts, accounted, leaves, extent⟩ :=
    EntityList.exists_accounted_insert reachable.sited coherent.vacant done
  rw [accounted.leaves] at leaves
  refine ⟨account, parts, accounted.accounts, leaves, sound.nodup_leaves,
    fun key part known => accounted.accounts.eq_of_notMem known,
    fun key part known => accounted.accounts.exists_keeps known, fun key mem => ?_,
    fun one mem => accounted.box? (.inr mem), extent⟩
  obtain ⟨part, here⟩ := Option.isSome_iff_exists.mp
    (EntityList.part?_isSome_iff.mpr ((coherent.mem_leaves_iff key).mp mem))
  rw [accounted.box? (.inl here), reachable.sited.boxes, here]
  rfl

/-- An item is inserted if its parts keep the extent within the limit, unless warnings are refused.
-/
theorem Reachable.exists_inserted {allowed : Blueprint → Operation → Prop}
    (reachable : Reachable allowed blueprint) (permissive : blueprint.mode ≠ .pedantic)
    (bound : i ≤ blueprint.entities.length) (within : (blueprint.extent.coverAll
      ((item.parts .zero).map (·.box blueprint.table))).oversize? = none) (merge : Bool) :
    ∃ after placement, blueprint.insertEntity i item merge = (after, .ok placement) := by
  obtain ⟨entities, placement, grown, inserted⟩ :=
    EntityList.exists_inserted reachable.sited permissive bound merge within
  cases accepted : blueprint.mode.accept (item.warnings blueprint.table) with
  | error error => exact absurd (ValidationMode.accept_eq_error_iff.mp accepted).1 permissive
  | ok own =>
    exact ⟨_, _, insertEntity_eq_ok_iff.mpr ⟨own, accepted, _, _, _, inserted, rfl, rfl⟩⟩

/-! ### Chests that merge -/

/-- A chest at the place of the one that is there and, in an inner group beside it, two chests at one
place. -/
def chestStack : Item :=
  .group none .zero [.entity filledChest, .group none ⟨2, 0⟩ [.entity chest, .entity filledChest]]

theorem part?_chestOnly : chestOnly.entities.part? =
    Function.update (fun _ => none) ⟨0, 0⟩ (some ⟨.zero, chest⟩) := by
  have nothing : (EntityList.empty ⟨0⟩).part? = fun _ => none := by
    funext key
    simp [EntityList.part?, EntityList.get?, EntityList.empty, Arena.get?, Arena.empty]
  rw [← nothing]
  exact EntityList.part?_insert (EntityList.empty ⟨0⟩) ⟨.top, .entity chest⟩
    chestOnly.entities.index

/-- The first chest merges into the one that was there, and the last into the one before it. -/
theorem fates_chestStack {account : List (Part × Fate)} {stored : Key → Option Part}
    (parts : account.map (·.1) = chestStack.parts .zero)
    (settled : Accounts .empty true chestOnly.entities.part? account stored) :
    ∃ key, account.map (·.2) = [.absorbed ⟨0, 0⟩, .stored key, .absorbed key] := by
  rw [part?_chestOnly] at settled
  replace parts : account.map (·.1) = [⟨.zero + .zero, filledChest⟩,
    ⟨.zero + .zero + ⟨2, 0⟩, chest⟩, ⟨.zero + .zero + ⟨2, 0⟩, filledChest⟩] := parts
  obtain ⟨_, _, _, rfl, others, first, settled⟩ := settled.exists_of_cons parts
  obtain ⟨rfl, rfl⟩ := first.eq_absorbed (Function.update_self ..) (by decide +kernel)
    fun key other here _ => by
      by_contra differ
      rw [Function.update_of_ne differ] at here
      exact nomatch here
  rw [Function.update_idem] at settled
  obtain ⟨_, _, _, rfl, more, second, settled⟩ := settled.exists_of_cons others
  obtain ⟨key, vacant, rfl, rfl⟩ := second.exists_eq_stored fun key other here => by
    rw [Function.update_apply] at here
    split at here
    · obtain rfl := Option.some.inj here
      decide +kernel
    · exact nomatch here
  obtain ⟨_, _, _, rfl, last, third, -⟩ := settled.exists_of_cons more
  obtain ⟨rfl, rfl⟩ := third.eq_absorbed (Function.update_self ..) (by decide +kernel)
    fun other there here takes => by
      by_contra differ
      rw [Function.update_of_ne differ, Function.update_apply] at here
      split at here
      · obtain rfl := Option.some.inj here
        exact absurd takes (by decide +kernel)
      · exact nomatch here
  obtain rfl := List.map_eq_nil_iff.mp last
  exact ⟨key, rfl⟩

theorem insertEntity_accounts_chestStack :
    Reachable (fun _ _ => True) chestOnly ∧ ∃ after placement account key,
      chestOnly.insertEntity 0 chestStack true = (after, .ok placement) ∧
        account.map (·.1) = chestStack.parts .zero ∧
        account.map (·.2) = [.absorbed ⟨0, 0⟩, .stored key, .absorbed key] ∧
        AccountsFor chestOnly after 0 true account := by
  obtain ⟨after, placement, inserted⟩ := reachable_chestOnly.exists_inserted
    (by decide) (Nat.zero_le _) (by decide +kernel : (chestOnly.extent.coverAll
      ((chestStack.parts .zero).map (·.box chestOnly.table))).oversize? = none) true
  obtain ⟨account, parts, accounts⟩ := reachable_chestOnly.insertEntity_accounts inserted
  obtain ⟨key, fates⟩ := fates_chestStack parts accounts.settled
  exact ⟨reachable_chestOnly, after, placement, account, key, inserted, parts, fates, accounts⟩

end Blueprint
end FactoryBlueprint
