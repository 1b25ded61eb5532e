import FactoryBlueprint.Proofs.Blueprint.Reachable
import FactoryBlueprint.Proofs.RoundTrip.Kept

/-! # What schedules keep

A schedule that was read and written again keeps its stops, waits and locomotives, and every key
that it does not know.
-/

namespace FactoryBlueprint

/-- What is not named by a record is what stands there under other keys. -/
theorem Fields.lookup_rest {fields : Fields Document} (sorted : fields.Sorted) (names : List String)
    (key : String) : (Fields.ofList (fields.without names)).lookup key =
      if key ∈ names then none else fields.lookup key := by
  rw [(sorted.without names).ofList_eq, lookup_without]

/-- A field that is read from one document only is kept where it is written as that one. -/
theorem KeptUnless.of_holds {α : Type} {defaults : List Document} {key : String}
    {fields : List (String × Document)} {after : Document} {read : Reader α}
    {write : α → Document} {value : Option α} (held : HoldsOptional fields key read value)
    (only : ∀ document a, read document = .ok a → document = write a)
    (written : ∀ document, after.field? key = some document ↔
      ∃ a ∈ value, write a = document ∧ document ∉ defaults) :
    KeptUnless defaults key (.object fields) after := by
  intro document
  rw [written, ← and_assoc, Document.field?_object, ← present?_eq_some_iff]
  cases value with
  | none =>
    rw [holdsOptional_none_iff.mp held]
    simp
  | some a =>
    obtain ⟨here, present, reads⟩ := holdsOptional_some_iff.mp held
    obtain rfl := only here a reads
    simp [present]

/-- Fields that are left out in no case are kept if they are written as they are read. -/
theorem KeptUnless.of_lookup {α : Type} {key : String} {fields : List (String × Document)}
    {after : Document} {read : Reader α} {write : α → Document} {value : Option α}
    (held : HoldsOptional fields key read value)
    (only : ∀ document a, read document = .ok a → document = write a)
    (written : after.field? key = value.map write) :
    KeptUnless [] key (.object fields) after := by
  refine .of_holds held only fun document => ?_
  rw [written, Option.map_eq_some_iff]
  simp

theorem Reader.eq_of_text (document : Document) (s : String) (reads : Reader.text document = .ok s) :
    document = .text s := Reader.text_eq_ok_iff.mp reads

theorem Reader.eq_of_natural {bits : Nat} (document : Document) (n : Nat)
    (reads : Reader.natural bits document = .ok n) : document = .ofNat n :=
  (Reader.natural_eq_ok_iff.mp reads).1

/-- A text that must be there is kept where it is written. -/
theorem field?_of_holds_text {fields : List (String × Document)} {key s : String}
    (held : Holds fields key Reader.text s) :
    (Document.object fields).field? key = some (.text s) := by
  obtain ⟨document, found, reads⟩ := held
  rw [Document.field?_object, found, Reader.text_eq_ok_iff.mp reads]

/-- The items of an array that is read are read one by one. -/
theorem HoldsDefault.items {α : Type} {fields : List (String × Document)} {key : String}
    {read : Reader α} {values : List α} (held : HoldsDefault fields key [] (Reader.list read) values) :
    List.Forall₂ (fun item a => read item = .ok a) ((Document.object fields).itemsAt [key])
      values := by
  rw [Document.itemsAt_cons, Document.field?_object]
  rcases held with ⟨missing, rfl⟩ | ⟨document, found, reads⟩
  · rw [missing]
    exact .nil
  · obtain ⟨items, rfl, each⟩ := Reader.list_eq_ok_iff.mp reads
    rw [found]
    exact each

/-- Items that are read one by one are kept if each is kept. -/
theorem forall₂_kept {α : Type} {Kept : Document → Document → Prop} {read : Reader α}
    {write : α → Document} {items : List Document} {values : List α}
    (formed : ∀ item ∈ items, item.WellFormed)
    (reads : List.Forall₂ (fun item a => read item = .ok a) items values)
    (kept : ∀ item a, item.WellFormed → read item = .ok a → Kept item (write a)) :
    List.Forall₂ Kept items (values.map write) :=
  List.forall₂_map_right_iff.mpr
    (((List.forall₂_and_left _ _).mpr ⟨formed, reads⟩).imp fun item a both => kept item a both.1 both.2)

namespace WaitCondition

/-- Other keys show, where the wait has no such field of its own. -/
theorem field?_write {wait : WaitCondition} (sorted : wait.extra.Sorted) (key : String) :
    wait.write.field? key = (wait.extra.lookup key).or
      (if key = "condition" then wait.condition.map Condition.write
      else if key = "ticks" then wait.ticks.map Document.ofNat
      else if key = "compare_type" then wait.compareType.map Document.text
      else if key = "type" then some (.text wait.kind) else none) := by
  rw [write, Document.field?_object, Fields.lookup_overwrite _ sorted]
  congr 1
  simp only [Fields.ofList_eq_overwrite, Fields.overwrite_append, Fields.overwrite_cons,
    Fields.lookup_overwrite_optionalField, Fields.lookup_insert, List.lookup_nil]
  by_cases isCondition : key = "condition"
  · simp [isCondition]
  by_cases isTicks : key = "ticks"
  · simp [isTicks]
  by_cases isCompareType : key = "compare_type"
  · simp [isCompareType]
  simp [isCondition, isTicks, isCompareType]

theorem kept (before : Document) (wait : WaitCondition) (formed : before.WellFormed)
    (reads : WaitCondition.read before = .ok wait) : WaitKept before wait.write := by
  have fit := fits_of_read reads
  obtain ⟨fields, rfl, -, held⟩ := read_eq_ok_iff.mp reads
  have rest := Fields.lookup_rest formed.sorted names
  rw [held.extra] at rest
  have sorted : wait.extra.Sorted := held.extra ▸ Fields.sorted_ofList _
  have named : ∀ key ∈ names, wait.write.field? key =
      if key = "condition" then wait.condition.map Condition.write
      else if key = "ticks" then wait.ticks.map Document.ofNat
      else if key = "compare_type" then wait.compareType.map Document.text
      else if key = "type" then some (.text wait.kind) else none := by
    intro key known
    rw [field?_write sorted, rest, if_pos known, Option.none_or]
  refine ⟨?_, .of_lookup held.compareType Reader.eq_of_text (named _ (by decide)),
    .of_lookup held.ticks Reader.eq_of_natural (named _ (by decide)),
    ⟨wait.condition, held.condition, ?_⟩, fun key other => ?_⟩
  · rw [named _ (by decide), field?_of_holds_text held.kind]
    rfl
  · refine .of_lookup Condition.write (named _ (by decide)) (fun condition given => ?_) (.of_mismatch rfl)
    exact Condition.read_write (fit.constant condition given)
  · rw [field?_write sorted, rest, if_neg other, Document.field?_object]
    simp only [names, List.mem_cons, List.not_mem_nil, or_false, not_or] at other
    simp [other]

end WaitCondition

namespace Stop

theorem field?_write {stop : Stop} (sorted : stop.extra.Sorted) (key : String) :
    stop.write.field? key = (stop.extra.lookup key).or
      (if key = "wait_conditions" then
        if stop.waits = [] then none else some (.array (stop.waits.map (·.write)))
      else if key = "station" then some (.text stop.station) else none) := by
  rw [write, Document.field?_object, Fields.lookup_overwrite _ sorted]
  congr 1
  simp only [Fields.ofList_eq_overwrite, Fields.overwrite_cons,
    Fields.lookup_overwrite_optionalField, Fields.map_unless_or, Fields.lookup_insert,
    List.lookup_nil, List.isEmpty_iff]
  by_cases isWaits : key = "wait_conditions"
  · simp [isWaits]
  simp [isWaits]

theorem kept (before : Document) (stop : Stop) (formed : before.WellFormed)
    (reads : Stop.read before = .ok stop) : StopKept before stop.write := by
  obtain ⟨fields, rfl, -, held⟩ := read_eq_ok_iff.mp reads
  have rest := Fields.lookup_rest formed.sorted names
  rw [held.extra] at rest
  have sorted : stop.extra.Sorted := held.extra ▸ Fields.sorted_ofList _
  have named : ∀ key ∈ names, stop.write.field? key =
      if key = "wait_conditions" then
        if stop.waits = [] then none else some (.array (stop.waits.map (·.write)))
      else if key = "station" then some (.text stop.station) else none := by
    intro key known
    rw [field?_write sorted, rest, if_pos known, Option.none_or]
  refine ⟨?_, ?_, fun key other => ?_⟩
  · rw [named _ (by decide), field?_of_holds_text held.station]
    rfl
  · have written : stop.write.itemsAt ["wait_conditions"] = stop.waits.map (·.write) := by
      rw [Document.itemsAt_cons, named _ (by decide)]
      cases stop.waits <;> rfl
    rw [written]
    exact forall₂_kept (formed.itemsAt _) held.waits.items WaitCondition.kept
  · rw [field?_write sorted, rest, if_neg other, Document.field?_object]
    simp only [names, List.mem_cons, List.not_mem_nil, or_false, not_or] at other
    simp [other]

end Stop

namespace Schedule

theorem field?_write (schedule : Schedule Nat) (key : String) :
    schedule.write.field? key =
      if key = "locomotives" then some (.array (schedule.locomotives.map Document.ofNat))
      else if key = "schedule" then some (.array (schedule.stops.map (·.write)))
      else schedule.extra.lookup key := by
  simp only [write, Document.field?_object, Fields.overwrite_cons, Fields.overwrite_nil,
    Fields.lookup_insert]

theorem kept (before : Document) (schedule : Schedule Nat) (formed : before.WellFormed)
    (reads : Schedule.read before = .ok schedule) : ScheduleKept before schedule.write := by
  obtain ⟨fields, rfl, -, held⟩ := read_eq_ok_iff.mp reads
  have rest := Fields.lookup_rest formed.sorted names
  rw [held.extra] at rest
  refine ⟨?_, ?_, fun key other => ?_⟩
  · have written : schedule.write.itemsAt ["schedule"] = schedule.stops.map (·.write) := by
      rw [Document.itemsAt_cons, field?_write]
      rfl
    rw [written]
    exact forall₂_kept (formed.itemsAt _) held.stops.items Stop.kept
  · have written : schedule.write.itemsAt ["locomotives"] =
        schedule.locomotives.map Document.ofNat := by
      rw [Document.itemsAt_cons, field?_write]
      rfl
    rw [written]
    refine (List.forall₂_eq_eq_eq ▸ List.forall₂_map_right_iff.mpr ?_ : _ = _).symm
    exact held.locomotives.items.imp fun item number reads => Reader.eq_of_natural item number reads
  · rw [field?_write, rest, if_neg other, Document.field?_object]
    simp only [names, List.mem_cons, List.not_mem_nil, or_false, not_or] at other
    simp [other]

end Schedule
end FactoryBlueprint
