import FactoryBlueprint.Proofs.Connections.Terminals
import FactoryBlueprint.Proofs.Entity.Merging

/-! # Folding copies of an entity

Which entities can merge is an equivalence relation, and merging is associative
(`Entity.WellFormed.merge_assoc`). So a sequence of copies makes the same entity however it is
grouped (`Entity.Pieces`), namely the first copy with what the later ones bring (`Entity.Gathers`).
-/

namespace FactoryBlueprint

/-! ### Alike documents -/

/-- Numbers that are equal to the same number are equal. -/
theorem Binary64.sameValue_both {x y z : Binary64} (first : x.sameValue y = true)
    (second : x.sameValue z = true) : y.sameValue z = true := by
  cases rank : x.rank? with
  | none => simp [sameValue, rank] at first
  | some i =>
    cases left : y.rank? with
    | none => simp [sameValue, rank, left] at first
    | some j =>
      cases right : z.rank? with
      | none => simp [sameValue, rank, right] at second
      | some k =>
        rw [sameValue_iff rank left] at first
        rw [sameValue_iff rank right] at second
        exact (sameValue_iff left right).mpr (first.symm.trans second)

namespace Document

variable {other : Document}

theorem same_null_iff : same .null other = true ↔ .null = other := by
  cases other with
  | null => exact iff_of_true rfl rfl
  | _ => exact ⟨nofun, nofun⟩

theorem same_bool_iff {value : Bool} : same (.bool value) other = true ↔ .bool value = other := by
  cases other with
  | bool b => exact beq_iff_eq.trans ⟨congrArg _, bool.inj⟩
  | _ => exact ⟨nofun, nofun⟩

theorem same_integer_iff {value : Int} :
    same (.integer value) other = true ↔ .integer value = other := by
  cases other with
  | integer n => exact beq_iff_eq.trans ⟨congrArg _, integer.inj⟩
  | _ => exact ⟨nofun, nofun⟩

theorem same_number_iff {value : Binary64} : same (.number value) other = true ↔
    ∃ equal, value.sameValue equal = true ∧ other = .number equal := by
  cases other <;> simp [same]

theorem same_text_iff {value : String} :
    same (.text value) other = true ↔ .text value = other := by
  cases other with
  | text t => exact beq_iff_eq.trans ⟨congrArg _, text.inj⟩
  | _ => exact ⟨nofun, nofun⟩

theorem same_array_iff {items : List Document} : same (.array items) other = true ↔
    ∃ others, sameItems items others = true ∧ other = .array others := by
  cases other with
  | array others =>
    exact ⟨fun same => ⟨others, same, rfl⟩, fun ⟨_, same, told⟩ => array.inj told ▸ same⟩
  | _ => exact ⟨nofun, nofun⟩

theorem same_object_iff {fields : List (String × Document)} :
    same (.object fields) other = true ↔
      ∃ others, sameFields fields others = true ∧ other = .object others := by
  cases other with
  | object others =>
    exact ⟨fun same => ⟨others, same, rfl⟩, fun ⟨_, same, told⟩ => object.inj told ▸ same⟩
  | _ => exact ⟨nofun, nofun⟩

/-- Documents that are alike to `document` are alike. -/
def Joins (document : Document) : Prop :=
  ∀ left right, same document left = true → same document right = true → same left right = true

theorem sameItems_both {items lefts rights : List Document} (each : ∀ item ∈ items, item.Joins)
    (first : sameItems items lefts = true) (second : sameItems items rights = true) :
    sameItems lefts rights = true := by
  induction items generalizing lefts rights with
  | nil =>
    cases lefts with
    | nil => exact second
    | cons left lefts => exact nomatch first
  | cons item items ih =>
    obtain ⟨here, later⟩ := List.forall_mem_cons.mp each
    cases lefts with
    | nil => exact nomatch first
    | cons left lefts =>
      cases rights with
      | nil => exact nomatch second
      | cons right rights =>
        simp only [sameItems_cons, Bool.and_eq_true] at first second ⊢
        exact ⟨here left right first.1 second.1, ih later first.2 second.2⟩

theorem sameFields_both {fields lefts rights : List (String × Document)}
    (each : ∀ field ∈ fields, field.2.Joins)
    (first : sameFields fields lefts = true) (second : sameFields fields rights = true) :
    sameFields lefts rights = true := by
  induction fields generalizing lefts rights with
  | nil =>
    cases lefts with
    | nil => exact second
    | cons left lefts => exact nomatch first
  | cons field fields ih =>
    obtain ⟨here, later⟩ := List.forall_mem_cons.mp each
    cases lefts with
    | nil => exact nomatch first
    | cons left lefts =>
      cases rights with
      | nil => exact nomatch second
      | cons right rights =>
        simp only [sameFields_cons, Bool.and_eq_true, beq_iff_eq] at first second ⊢
        obtain ⟨⟨key, value⟩, rest⟩ := first
        obtain ⟨⟨other, otherValue⟩, others⟩ := second
        exact ⟨⟨key.symm.trans other, here _ _ value otherValue⟩, ih later rest others⟩

/-- Documents that are alike to a well-formed one are alike. -/
theorem WellFormed.joins {document : Document} (formed : document.WellFormed) :
    document.Joins := by
  intro left right first second
  induction formed generalizing left right with
  | null =>
    rw [same_null_iff] at first second
    rw [← first, ← second]
    rfl
  | bool value =>
    rw [same_bool_iff] at first second
    rw [← first, ← second]
    exact beq_self_eq_true value
  | @integer value _ _ =>
    rw [same_integer_iff] at first second
    rw [← first, ← second]
    exact beq_self_eq_true value
  | number finite =>
    obtain ⟨x, first, rfl⟩ := same_number_iff.mp first
    obtain ⟨y, second, rfl⟩ := same_number_iff.mp second
    exact Binary64.sameValue_both first second
  | text value =>
    rw [same_text_iff] at first second
    rw [← first, ← second]
    exact beq_self_eq_true value
  | array _ ih =>
    obtain ⟨lefts, first, rfl⟩ := same_array_iff.mp first
    obtain ⟨rights, second, rfl⟩ := same_array_iff.mp second
    exact sameItems_both ih first second
  | object _ _ ih =>
    obtain ⟨lefts, first, rfl⟩ := same_object_iff.mp first
    obtain ⟨rights, second, rfl⟩ := same_object_iff.mp second
    exact sameFields_both ih first second

end Document

/-! ### Merging is associative -/

theorem Distinct.addAll_append {α : Type} [DecidableEq α] (as first second : List α) :
    addAll as (first ++ second) = addAll (addAll as first) second := List.foldl_append

theorem Distinct.addAll_add {α : Type} [DecidableEq α] (as others : List α) (a : α) :
    addAll as (add others a) = add (addAll as others) a := by
  by_cases mem : a ∈ others
  · have there : a ∈ addAll as others := mem_addAll.mpr (.inr mem)
    rw [add, add, if_pos mem, if_pos there]
  · rw [add, if_neg mem, addAll_append]
    rfl

theorem Distinct.addAll_assoc {α : Type} [DecidableEq α] (as bs cs : List α) :
    addAll (addAll as bs) cs = addAll as (addAll bs cs) := by
  induction cs generalizing bs with
  | nil => rfl
  | cons c cs ih =>
    calc addAll (addAll as bs) (c :: cs)
      _ = addAll (add (addAll as bs) c) cs := rfl
      _ = addAll (addAll as (add bs c)) cs := by rw [addAll_add]
      _ = addAll as (addAll (add bs c) cs) := ih (add bs c)

theorem Connections.merge_assoc (a b c : Connections) :
    (a.merge b).merge c = a.merge (b.merge c) := by
  refine eq_of_ends (fun side color => ?_) fun side => ?_
  · simp only [circuit_merge, Distinct.addAll_assoc]
  · simp only [copper_merge, Distinct.addAll_assoc]

theorem Fields.Sorted.overwrite_assoc {α : Type} {a b c : Fields α} (sortedA : a.Sorted)
    (sortedB : b.Sorted) (sortedC : c.Sorted) :
    (a.overwrite b).overwrite c = a.overwrite (b.overwrite c) := by
  have inner : (b.overwrite c).Sorted := sorted_overwrite sortedB c
  refine (sorted_overwrite (sorted_overwrite sortedA b) c).ext (sorted_overwrite sortedA _) ?_
  intro key
  rw [lookup_overwrite _ sortedC, lookup_overwrite _ sortedB, lookup_overwrite _ inner,
    lookup_overwrite _ sortedC, Option.or_assoc]

/-- Of two values under one key the later one stays. -/
theorem Fields.insert_insert_self {α : Type} (fields : Fields α) (key : String) (first second : α) :
    (fields.insert key first).insert key second = fields.insert key second := by
  induction fields with
  | nil => simp [insert]
  | cons field rest ih =>
    obtain ⟨k, v⟩ := field
    by_cases before : key < k
    · simp [insert, before]
    · by_cases same : key = k
      · simp [insert, same]
      · simp [insert, before, same, ih]

namespace Entity

variable {a b c : Entity}

/-- What merging puts under the key of the control behaviour: the new one, if there is one. -/
theorem lookup_controlBehavior_merge (a b : Entity) :
    (a.merge b).fields.lookup controlBehavior =
      (b.fields.lookup controlBehavior).or (a.fields.lookup controlBehavior) := by
  simp only [merge]
  cases b.fields.lookup controlBehavior with
  | none => rfl
  | some behavior => rw [Fields.lookup_insert, if_pos rfl, Option.some_or]

theorem fixedFields_merge (a b : Entity) : (a.merge b).fixedFields = a.fixedFields := by
  simp only [fixedFields, merge]
  cases b.fields.lookup controlBehavior with
  | none => rfl
  | some behavior => exact Fields.without_insert (List.mem_singleton.mpr rfl) behavior a.fields

/-- What an entity absorbs does not count when it is asked whether it can merge. -/
theorem mergeableWith_merge (a b other : Entity) :
    (a.merge b).mergeableWith other = a.mergeableWith other := by
  simp only [mergeableWith, fixedFields_merge]
  rfl

theorem merge_fields_assoc (a b c : Entity) :
    ((a.merge b).merge c).fields = (a.merge (b.merge c)).fields := by
  have behavior := lookup_controlBehavior_merge b c
  simp only [merge] at behavior ⊢
  rw [behavior]
  cases c.fields.lookup controlBehavior with
  | none => rw [Option.none_or]
  | some last =>
    rw [Option.some_or]
    cases b.fields.lookup controlBehavior with
    | none => rfl
    | some middle => exact Fields.insert_insert_self ..

namespace WellFormed

theorem merge (formed : a.WellFormed) (more : b.WellFormed) : (a.merge b).WellFormed where
  items := Fields.sorted_overwrite formed.items b.items
  tags := Fields.sorted_overwrite formed.tags b.tags
  fields := by
    simp only [Entity.merge]
    cases found : b.fields.lookup controlBehavior with
    | none => exact formed.fields
    | some behavior =>
      have given := more.fields.lookup found
      cases formed.fields with
      | object sorted each =>
        refine .object (sorted.insert _ _) fun field mem => ?_
        rcases Fields.mem_insert mem with rfl | old
        · exact given
        · exact each field old
  extra := formed.extra

theorem merge_assoc (first : a.WellFormed) (second : b.WellFormed) (third : c.WellFormed) :
    (a.merge b).merge c = a.merge (b.merge c) := by
  have items := first.items.overwrite_assoc second.items third.items
  have tags := first.tags.overwrite_assoc second.tags third.tags
  have fields := merge_fields_assoc a b c
  simp only [Entity.merge] at items tags fields ⊢
  simp only [Connections.merge_assoc, Distinct.addAll_assoc, items, tags, fields]

/-- Entities that can merge with the same well-formed entity can merge. -/
theorem mergeableWith_both (formed : a.WellFormed) (first : a.mergeableWith b = true)
    (second : a.mergeableWith c = true) : b.mergeableWith c = true := by
  simp only [mergeableWith, Bool.and_eq_true, decide_eq_true_eq] at first second ⊢
  obtain ⟨⟨⟨name, direction⟩, extra⟩, fixed⟩ := first
  obtain ⟨⟨⟨name', direction'⟩, extra'⟩, fixed'⟩ := second
  exact ⟨⟨⟨name.symm.trans name', direction.symm.trans direction'⟩,
    formed.extra.joins (.object _) (.object _) extra extra'⟩,
    formed.fixedFields.joins (.object _) (.object _) fixed fixed'⟩

theorem mergeableWith_symm (formed : a.WellFormed) (able : a.mergeableWith b = true) :
    b.mergeableWith a = true :=
  formed.mergeableWith_both able formed.mergeableWith_self

/-- Which entities can merge is an equivalence relation. -/
theorem equivalence_mergeableWith : Equivalence
    fun a b : { entity : Entity // entity.WellFormed } => a.1.mergeableWith b.1 = true where
  refl a := a.2.mergeableWith_self
  symm {a _} able := a.2.mergeableWith_symm able
  trans {a b _} first second := b.2.mergeableWith_both (a.2.mergeableWith_symm first) second

end WellFormed

/-! ### Pieces -/

/-- An order in which copies are folded: a piece is one copy, or it is made of two pieces of which
the first absorbs the second. -/
inductive Pieces where
  | copy (entity : Entity)
  | join (piece other : Pieces)

namespace Pieces

/-- The copy that absorbs all others. -/
def first : Pieces → Entity
  | copy entity => entity
  | join piece _ => piece.first

/-- The copies that are absorbed, in order. -/
def later : Pieces → List Entity
  | copy _ => []
  | join piece other => piece.later ++ other.first :: other.later

/-- All copies in order. -/
def copies (pieces : Pieces) : List Entity := pieces.first :: pieces.later

/-- The entity that the pieces make. -/
def fold : Pieces → Entity
  | copy entity => entity
  | join piece other => piece.fold.merge other.fold

theorem copies_join (piece other : Pieces) :
    (join piece other).copies = piece.copies ++ other.copies := rfl

end Pieces

/-- What a first copy is once it has absorbed the later ones: its wires and neighbours are those of
all, each where it comes first, and its items, tags and control behaviour are those of the last copy
that has them. All else is its own. -/
structure Gathers (first : Entity) (later : List Entity) (whole : Entity) : Prop where
  id : whole.id = first.id
  name : whole.name = first.name
  position : whole.position = first.position
  direction : whole.direction = first.direction
  circuit : ∀ side color, whole.connections.circuit side color =
    Distinct.addAll (first.connections.circuit side color)
      (later.flatMap (·.connections.circuit side color))
  copper : ∀ side, whole.connections.copper side =
    Distinct.addAll (first.connections.copper side) (later.flatMap (·.connections.copper side))
  neighbours : whole.neighbours = Distinct.addAll first.neighbours (later.flatMap (·.neighbours))
  items : ∀ item, whole.items.lookup item =
    (first :: later).reverse.findSome? (·.items.lookup item)
  tags : ∀ tag, whole.tags.lookup tag = (first :: later).reverse.findSome? (·.tags.lookup tag)
  behavior : whole.fields.lookup controlBehavior =
    (first :: later).reverse.findSome? (·.fields.lookup controlBehavior)
  fixed : whole.fixedFields = first.fixedFields
  extra : whole.extra = first.extra

/-- The last of several that have a value decides. -/
theorem findSome?_reverse_concat {α β : Type} (f : α → Option β) (as : List α) (a : α) :
    (as ++ [a]).reverse.findSome? f = (f a).or (as.reverse.findSome? f) := by
  rw [List.reverse_concat, List.findSome?_cons]
  cases f a <;> rfl

namespace Gathers

variable {first whole copy : Entity} {later : List Entity}

theorem refl (first : Entity) : Gathers first [] first where
  id := rfl
  name := rfl
  position := rfl
  direction := rfl
  circuit _ _ := rfl
  copper _ := rfl
  neighbours := rfl
  items item := by simp
  tags tag := by simp
  behavior := by simp
  fixed := rfl
  extra := rfl

/-- One more copy. -/
theorem merge (gathers : Gathers first later whole) (formed : copy.WellFormed) :
    Gathers first (later ++ [copy]) (whole.merge copy) where
  id := gathers.id
  name := gathers.name
  position := gathers.position
  direction := gathers.direction
  circuit side color := by
    change (whole.connections.merge copy.connections).circuit side color = _
    rw [Connections.circuit_merge, gathers.circuit, List.flatMap_append, List.flatMap_singleton,
      Distinct.addAll_append]
  copper side := by
    change (whole.connections.merge copy.connections).copper side = _
    rw [Connections.copper_merge, gathers.copper, List.flatMap_append, List.flatMap_singleton,
      Distinct.addAll_append]
  neighbours := by
    change Distinct.addAll whole.neighbours copy.neighbours = _
    rw [gathers.neighbours, List.flatMap_append, List.flatMap_singleton, Distinct.addAll_append]
  items item := by
    rw [← List.cons_append, findSome?_reverse_concat, ← gathers.items]
    exact Fields.lookup_overwrite whole.items formed.items item
  tags tag := by
    rw [← List.cons_append, findSome?_reverse_concat, ← gathers.tags]
    exact Fields.lookup_overwrite whole.tags formed.tags tag
  behavior := by
    rw [← List.cons_append, findSome?_reverse_concat, ← gathers.behavior]
    exact lookup_controlBehavior_merge whole copy
  fixed := (fixedFields_merge whole copy).trans gathers.fixed
  extra := gathers.extra

/-- The copies are absorbed one by one. -/
theorem foldl {copies : List Entity} (gathers : Gathers first later whole)
    (formed : ∀ copy ∈ copies, copy.WellFormed) :
    Gathers first (later ++ copies) (copies.foldl Entity.merge whole) := by
  induction copies generalizing later whole with
  | nil =>
    rw [List.append_nil]
    exact gathers
  | cons copy copies ih =>
    obtain ⟨here, rest⟩ := List.forall_mem_cons.mp formed
    rw [List.append_cons]
    exact ih (gathers.merge here) rest

/-- What was absorbed does not count when the whole is asked whether it can merge. -/
theorem mergeableWith (gathers : Gathers first later whole) (other : Entity) :
    whole.mergeableWith other = first.mergeableWith other := by
  simp only [Entity.mergeableWith, gathers.name, gathers.direction, gathers.extra, gathers.fixed]

end Gathers

/-- To absorb what has absorbed others is to absorb all of them in turn. -/
theorem WellFormed.merge_foldl {copies : List Entity} (here : a.WellFormed) (next : b.WellFormed)
    (formed : ∀ copy ∈ copies, copy.WellFormed) :
    a.merge (copies.foldl Entity.merge b) = copies.foldl Entity.merge (a.merge b) := by
  induction copies generalizing b with
  | nil => rfl
  | cons copy copies ih =>
    obtain ⟨one, rest⟩ := List.forall_mem_cons.mp formed
    calc a.merge ((copy :: copies).foldl Entity.merge b)
      _ = copies.foldl Entity.merge (a.merge (b.merge copy)) := ih (next.merge one) rest
      _ = (copy :: copies).foldl Entity.merge (a.merge b) := by
        rw [← here.merge_assoc next one, List.foldl_cons]

theorem WellFormed.foldl {copies : List Entity} (here : a.WellFormed)
    (formed : ∀ copy ∈ copies, copy.WellFormed) : (copies.foldl Entity.merge a).WellFormed := by
  induction copies generalizing a with
  | nil => exact here
  | cons copy copies ih =>
    obtain ⟨one, rest⟩ := List.forall_mem_cons.mp formed
    exact ih (here.merge one) rest

namespace Pieces

/-- However copies are grouped, the first absorbs the later ones in turn. -/
theorem fold_eq_foldl {pieces : Pieces} (formed : ∀ copy ∈ pieces.copies, copy.WellFormed) :
    pieces.fold = pieces.later.foldl Entity.merge pieces.first := by
  induction pieces with
  | copy entity => rfl
  | join piece other ihPiece ihOther =>
    rw [copies_join, List.forall_mem_append] at formed
    obtain ⟨here, there⟩ := formed
    obtain ⟨first, later⟩ := List.forall_mem_cons.mp here
    obtain ⟨next, others⟩ := List.forall_mem_cons.mp there
    calc (join piece other).fold
      _ = (piece.later.foldl Entity.merge piece.first).merge
            (other.later.foldl Entity.merge other.first) := by rw [fold, ihPiece here, ihOther there]
      _ = (other.first :: other.later).foldl Entity.merge
            (piece.later.foldl Entity.merge piece.first) :=
          (first.foldl later).merge_foldl next others
      _ = (join piece other).later.foldl Entity.merge (join piece other).first := by
        rw [Pieces.later, List.foldl_append, Pieces.first]

theorem gathers_fold {pieces : Pieces} (formed : ∀ copy ∈ pieces.copies, copy.WellFormed) :
    Gathers pieces.first pieces.later pieces.fold := by
  rw [fold_eq_foldl formed]
  exact (Gathers.refl pieces.first).foldl fun copy mem => formed copy (List.mem_cons_of_mem _ mem)

end Pieces

/-- Which entities can merge is an equivalence relation that does not look at what was absorbed;
merging is associative, and what is absorbed again changes nothing. So copies make the same entity
however they are grouped, namely the first one with what the later ones bring, and if they can merge
with each other, then what can merge with one of them can merge with all of them together. -/
theorem merging_laws :
    (Equivalence fun a b : { entity : Entity // entity.WellFormed } =>
      a.1.mergeableWith b.1 = true) ∧
    (∀ a b other : Entity, (a.merge b).mergeableWith other = a.mergeableWith other) ∧
    (∀ a b c : Entity, a.WellFormed → b.WellFormed → c.WellFormed →
      (a.merge b).merge c = a.merge (b.merge c)) ∧
    (∀ a b : Entity, b.WellFormed → (a.merge b).merge b = a.merge b ∧ b.merge b = b) ∧
    (∀ pieces others : Pieces, (∀ copy ∈ pieces.copies, copy.WellFormed) →
      pieces.copies = others.copies →
        pieces.fold = others.fold ∧ Gathers pieces.first pieces.later pieces.fold) ∧
    ∀ pieces : Pieces, (∀ copy ∈ pieces.copies, copy.WellFormed) →
      (∀ copy ∈ pieces.later, pieces.first.mergeableWith copy = true) →
        ∀ copy ∈ pieces.copies, ∀ other : Entity,
          pieces.fold.mergeableWith other = copy.mergeableWith other := by
  refine ⟨WellFormed.equivalence_mergeableWith, mergeableWith_merge,
    fun a b c first second third => first.merge_assoc second third,
    fun a b formed => ⟨formed.merge_merge a, formed.merge_self⟩,
    fun pieces others formed same => ?_, fun pieces formed able copy mem other => ?_⟩
  · refine ⟨?_, Pieces.gathers_fold formed⟩
    obtain ⟨first, later⟩ := List.cons.inj same
    rw [Pieces.fold_eq_foldl formed, Pieces.fold_eq_foldl (same ▸ formed), first, later]
  · have first : pieces.first.WellFormed := formed _ List.mem_cons_self
    have alike : pieces.first.mergeableWith copy = true := by
      rcases List.mem_cons.mp mem with rfl | later
      · exact first.mergeableWith_self
      · exact able copy later
    rw [(Pieces.gathers_fold formed).mergeableWith, Bool.eq_iff_iff]
    exact ⟨first.mergeableWith_both alike,
      (formed copy mem).mergeableWith_both (first.mergeableWith_symm alike)⟩

/-- The association to the object under a key of the first list. -/
def toFirst (i : Nat) : Association := ⟨⟨0⟩, ⟨i, 0⟩⟩

/-- A pole with wires to the given keys, which asks for plates and tells their number. -/
def wiredPole (targets : List Nat) (plates : Nat) : Entity :=
  { plain "small-electric-pole" ⟨0.5, 0.5⟩ with
    neighbours := targets.map toFirst
    items := [("iron-plate", plates)]
    fields := [(controlBehavior, .ofNat plates)] }

theorem wellFormed_wiredPole (targets : List Nat) {plates : Nat} (small : plates < 2 ^ 64) :
    (wiredPole targets plates).WellFormed where
  items := List.pairwise_singleton ..
  tags := .nil
  fields := .object (List.pairwise_singleton ..) fun field mem => by
    obtain rfl := List.mem_singleton.mp mem
    exact .integer (by omega) (by omega)
  extra := .object .nil nofun

def polesFromLeft : Pieces :=
  .join (.join (.copy (wiredPole [1, 1] 5)) (.copy (wiredPole [2, 1] 7))) (.copy (wiredPole [3, 2] 9))

def polesFromRight : Pieces :=
  .join (.copy (wiredPole [1, 1] 5)) (.join (.copy (wiredPole [2, 1] 7)) (.copy (wiredPole [3, 2] 9)))

/-- Three poles, of which the first has a wire twice, grouped in both ways. -/
theorem merging_laws_threePoles :
    (∀ copy ∈ polesFromLeft.copies, copy.WellFormed) ∧
      polesFromLeft.copies = polesFromRight.copies ∧
      (∀ copy ∈ polesFromLeft.later, polesFromLeft.first.mergeableWith copy = true) ∧
      polesFromLeft.fold = polesFromRight.fold ∧
      polesFromLeft.fold.neighbours = [toFirst 1, toFirst 1, toFirst 2, toFirst 3] ∧
      polesFromLeft.fold.items = [("iron-plate", 9)] ∧
      polesFromLeft.fold.mergeableWith (wiredPole [4] 1) =
        (wiredPole [2, 1] 7).mergeableWith (wiredPole [4] 1) ∧
      (wiredPole [2, 1] 7).merge (wiredPole [2, 1] 7) = wiredPole [2, 1] 7 ∧
      ((wiredPole [1, 1] 5).merge (wiredPole [2, 1] 7)).merge (wiredPole [3, 2] 9) =
        (wiredPole [1, 1] 5).merge ((wiredPole [2, 1] 7).merge (wiredPole [3, 2] 9)) := by
  have first := wellFormed_wiredPole [1, 1] (by decide : 5 < 2 ^ 64)
  have second := wellFormed_wiredPole [2, 1] (by decide : 7 < 2 ^ 64)
  have third := wellFormed_wiredPole [3, 2] (by decide : 9 < 2 ^ 64)
  have formed : ∀ copy ∈ polesFromLeft.copies, copy.WellFormed := by
    rintro copy (_ | ⟨_, _ | ⟨_, _ | ⟨_, ⟨⟩⟩⟩⟩)
    exacts [first, second, third]
  have able : ∀ copy ∈ polesFromLeft.later, polesFromLeft.first.mergeableWith copy = true := by
    rintro copy (_ | ⟨_, _ | ⟨_, ⟨⟩⟩⟩)
    exacts [by decide +kernel, by decide +kernel]
  obtain ⟨-, -, assoc, again, grouped, later⟩ := merging_laws
  exact ⟨formed, rfl, able, (grouped polesFromLeft polesFromRight formed rfl).1, by decide, by decide,
    later polesFromLeft formed able _ (.tail _ (.head _)) _, (again (wiredPole [1, 1] 5) _ second).2,
    assoc _ _ _ first second third⟩

end Entity
end FactoryBlueprint
