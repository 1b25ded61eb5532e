import FactoryBlueprint.Connections.Record
import FactoryBlueprint.Error
import FactoryBlueprint.Proofs.Document.Fields
import FactoryBlueprint.Proofs.Outcome
import Mathlib.Algebra.Order.Ring.Int
import Mathlib.Data.List.Forall2

/-! # What readers accept

For every reader, the documents that it accepts and the value that it gives. A record is read when
each of its fields is, so what a reader of records gives is told field by field.
-/

namespace FactoryBlueprint

namespace Reading

variable {α β : Type}

@[simp] theorem ok_eq_ok_iff {a b : α} : @Eq (Reading α) (.ok a) (.ok b) ↔ a = b :=
  ⟨Except.ok.inj, congrArg _⟩

@[simp] theorem error_ne_ok {fault : Fault} {a : α} :
    ¬@Eq (Reading α) (.error fault) (.ok a) := nofun

/-- The reading gives a value of which a property holds. -/
def Gives (reading : Reading α) (property : α → Prop) : Prop :=
  ∃ a, reading = .ok a ∧ property a

theorem eq_ok_iff_gives {reading : Reading α} {a : α} : reading = .ok a ↔ reading.Gives (· = a) := by
  simp [Gives]

theorem gives_map_iff {f : α → β} {reading : Reading α} {property : β → Prop} :
    (f <$> reading).Gives property ↔ reading.Gives fun a => property (f a) := by
  change (reading.map f).Gives property ↔ _
  cases reading with
  | error fault => simp [Gives, Reading.map]
  | ok a => simp [Gives, Reading.map]

/-- The parts of a record are read one after the other. -/
theorem gives_seq_iff {f : Reading (α → β)} {reading : Reading α} {property : β → Prop} :
    (f <*> reading).Gives property ↔ f.Gives fun g => reading.Gives fun a => property (g a) := by
  change (Reading.seq f reading).Gives property ↔ _
  cases f with
  | error fault => cases reading <;> simp [Gives, Reading.seq]
  | ok g => cases reading <;> simp [Gives, Reading.seq]

theorem map_eq_ok_iff {f : α → β} {reading : Reading α} {b : β} :
    f <$> reading = .ok b ↔ ∃ a, reading = .ok a ∧ f a = b := by
  rw [eq_ok_iff_gives, gives_map_iff]
  rfl

theorem ofValue_eq_ok_iff {a b : α} : ofValue a = .ok b ↔ a = b := by simp [ofValue]

end Reading

/-! ### Fields of records -/

/-- What stands under a key, unless it is `null`. -/
def present? (fields : List (String × Document)) (key : String) : Option Document :=
  (fields.lookup key).filter (!· matches .null)

theorem present?_eq_none_iff {fields : List (String × Document)} {key : String} :
    present? fields key = none ↔ fields.lookup key = none ∨ fields.lookup key = some .null := by
  rw [present?]
  cases fields.lookup key with
  | none => simp
  | some value => cases value <;> simp

theorem present?_eq_some_iff {fields : List (String × Document)} {key : String} {value : Document} :
    present? fields key = some value ↔ fields.lookup key = some value ∧ value ≠ .null := by
  rw [present?, Option.filter_eq_some_iff]
  cases value <;> simp

/-- A field that must be there reads as a value. -/
def Holds {α : Type} (fields : List (String × Document)) (key : String) (read : Reader α) (a : α) :
    Prop :=
  ∃ document, fields.lookup key = some document ∧ read document = .ok a

/-- A field reads as a value; left out or `null`, as none. -/
def HoldsOptional {α : Type} (fields : List (String × Document)) (key : String) (read : Reader α)
    (value : Option α) : Prop :=
  Option.Rel (fun document a => read document = .ok a) (present? fields key) value

theorem holdsOptional_none_iff {α : Type} {fields : List (String × Document)} {key : String}
    {read : Reader α} : HoldsOptional fields key read none ↔ present? fields key = none := by
  rw [HoldsOptional]
  cases present? fields key <;> simp

theorem holdsOptional_some_iff {α : Type} {fields : List (String × Document)} {key : String}
    {read : Reader α} {a : α} : HoldsOptional fields key read (some a) ↔
      ∃ document, present? fields key = some document ∧ read document = .ok a := by
  rw [HoldsOptional]
  cases present? fields key <;> simp

/-- A field reads as a value; left out, as the default. -/
def HoldsDefault {α : Type} (fields : List (String × Document)) (key : String) (default : α)
    (read : Reader α) (a : α) : Prop :=
  (fields.lookup key = none ∧ a = default) ∨ Holds fields key read a

namespace Entries

variable {α : Type} {entries : Entries} {name : String} {read : Reader α}

/-- A search for a key finds what stands under it. -/
theorem lookup_eq_findIdx? (fields : List (String × Document)) (name : String) :
    fields.lookup name =
      ((fields.findIdx? (·.1 == name)).bind fun rank => fields[rank]?).map (·.2) := by
  induction fields with
  | nil => rfl
  | cons first rest ih =>
    obtain ⟨k, v⟩ := first
    rw [List.lookup_cons, List.findIdx?_cons]
    by_cases same : k = name
    · simp [same]
    · have miss : (name == k) = false := beq_eq_false_iff_ne.mpr (Ne.symm same)
      simp only [miss, beq_eq_false_iff_ne.mpr same, ih]
      cases rest.findIdx? (·.1 == name) <;> rfl

theorem field?_eq_ok_iff {value : Option α} :
    entries.field? name read = .ok value ↔
      Option.Rel (fun document a => read document = .ok a) (entries.fields.lookup name) value := by
  rw [lookup_eq_findIdx?, field?]
  cases entries.fields.findIdx? (·.1 == name) with
  | none => cases value <;> simp
  | some rank =>
    cases found : entries.fields[rank]? with
    | none => cases value <;> simp [found]
    | some field =>
      cases outcome : read field.2 with
      | error cause => cases value <;> simp [found, outcome]
      | ok a => cases value <;> simp [found, outcome]

theorem required_eq_ok_iff {a : α} :
    entries.required name read = .ok a ↔ Holds entries.fields name read a := by
  have gives : entries.required name read = .ok a ↔ entries.field? name read = .ok (some a) := by
    rw [required]
    cases entries.field? name read with
    | error fault => simp
    | ok value => cases value <;> simp
  rw [gives, field?_eq_ok_iff, Holds]
  cases entries.fields.lookup name <;> simp

theorem withDefault_eq_ok_iff {default a : α} :
    entries.withDefault name default read = .ok a ↔
      HoldsDefault entries.fields name default read a := by
  change (·.getD default) <$> entries.field? name read = .ok a ↔ _
  simp only [Reading.map_eq_ok_iff, field?_eq_ok_iff, HoldsDefault, Holds]
  cases entries.fields.lookup name with
  | none =>
    constructor
    · rintro ⟨value, missing, rfl⟩
      cases missing
      exact .inl ⟨rfl, rfl⟩
    · rintro (⟨-, rfl⟩ | ⟨document, found, -⟩)
      · exact ⟨none, .none, rfl⟩
      · contradiction
  | some document =>
    constructor
    · rintro ⟨value, reads, rfl⟩
      cases reads with
      | some reads => exact .inr ⟨document, rfl, reads⟩
    · rintro (⟨missing, -⟩ | ⟨_, found, reads⟩)
      · contradiction
      · rw [Option.some.inj found]
        exact ⟨some a, .some reads, rfl⟩

theorem optional_eq_ok_iff {value : Option α} :
    entries.optional name read = .ok value ↔ HoldsOptional entries.fields name read value := by
  change Option.join <$> entries.field? name _ = .ok value ↔ _
  simp only [Reading.map_eq_ok_iff, field?_eq_ok_iff, HoldsOptional, present?]
  cases entries.fields.lookup name with
  | none =>
    constructor
    · rintro ⟨inner, missing, rfl⟩
      cases missing
      exact .none
    · intro missing
      cases missing
      exact ⟨none, .none, rfl⟩
  | some document =>
    by_cases null : document = .null
    · subst null
      constructor
      · rintro ⟨inner, reads, rfl⟩
        cases reads with
        | some reads =>
          rw [← Except.ok.inj reads]
          exact .none
      · intro missing
        cases missing
        exact ⟨some none, .some rfl, rfl⟩
    · have kept : (some document).filter (!· matches .null) = some document := by
        cases document <;> simp_all
      have outcome : (match document with
          | .null => .ok none
          | document => (read document).map some : Except Mismatch (Option α)) =
            (read document).map some := by
        cases document <;> first | rfl | exact absurd rfl null
      rw [kept]
      constructor
      · rintro ⟨inner, reads, rfl⟩
        cases reads with
        | some reads =>
          replace reads := outcome.symm.trans reads
          cases given : read document with
          | error cause => simp [given, Except.map] at reads
          | ok a =>
            simp only [given, Except.map, Except.ok.injEq] at reads
            exact reads ▸ .some given
      · intro reads
        cases reads with
        | some reads =>
          refine ⟨some (some _), .some (outcome.trans ?_), rfl⟩
          rw [reads]
          rfl

end Entries

/-- The fields of a record that names them or, as an array, gives them as they are declared. -/
inductive RecordFields (declared : List String) : Document → List (String × Document) → Prop
  | object {fields : List (String × Document)}
      (alone : (⟨fields, "", declared, false⟩ : Entries).repeated? = none) :
      RecordFields declared (.object fields) fields
  | array {items : List Document} (bound : items.length ≤ declared.length) :
      RecordFields declared (.array items) (declared.zip items)

/-! ### Readers of values -/

namespace Reader

variable {α : Type} {read : Reader α}

theorem locate_eq_ok_iff {path : String} {document : Document} {a : α} :
    read.locate path document = .ok a ↔ read document = .ok a := by
  rw [locate]
  cases read document <;> simp

theorem text_eq_ok_iff {document : Document} {s : String} :
    text document = .ok s ↔ document = .text s := by
  cases document <;> simp [text]

theorem bool_eq_ok_iff {document : Document} {b : Bool} :
    bool document = .ok b ↔ document = .bool b := by
  cases document <;> simp [bool]

theorem integer_eq_ok_iff {type : String} {low high n : Int} {document : Document} :
    integer type low high document = .ok n ↔ document = .integer n ∧ low ≤ n ∧ n ≤ high := by
  cases document with
  | integer m =>
    rw [integer]
    split
    · rename_i within
      constructor
      · intro same
        rw [← Except.ok.inj same]
        exact ⟨rfl, within⟩
      · rintro ⟨same, -⟩
        rw [Document.integer.inj same]
    · rename_i outside
      constructor
      · intro same
        contradiction
      · rintro ⟨same, within⟩
        rw [Document.integer.inj same] at outside
        exact absurd within outside
  | _ => simp [integer]

theorem int32_eq_ok_iff {n : Int} {document : Document} :
    int32 document = .ok n ↔ document = .integer n ∧ -2147483648 ≤ n ∧ n ≤ 2147483647 :=
  integer_eq_ok_iff

theorem natural_eq_ok_iff {bits n : Nat} {document : Document} :
    natural bits document = .ok n ↔ document = .ofNat n ∧ n < 2 ^ bits := by
  have cast : ((2 ^ bits : Nat) : Int) = 2 ^ bits := by simp
  rw [natural]
  cases outcome : integer s!"u{bits}" 0 (2 ^ bits - 1) document with
  | error cause =>
    simp only [Except.map, reduceCtorEq, false_iff, not_and]
    rintro rfl less
    have reads := @integer_eq_ok_iff s!"u{bits}" 0 (2 ^ bits - 1) n (.ofNat n)
    rw [outcome] at reads
    exact absurd (reads.mpr ⟨rfl, by omega, by omega⟩) (by simp)
  | ok m =>
    obtain ⟨rfl, low, high⟩ := integer_eq_ok_iff.mp outcome
    simp only [Except.map, Except.ok.injEq, Document.ofNat, Document.integer.injEq]
    omega

theorem list_eq_ok_iff {document : Document} {as : List α} :
    list read document = .ok as ↔ ∃ items, document = .array items ∧
      List.Forall₂ (fun item a => read item = .ok a) items as := by
  cases document <;> simp [list, mapM_eq_ok_iff]

theorem map_eq_ok_iff {document : Document} {as : Fields α} :
    map read document = .ok as ↔ ∃ fields, document = .object fields ∧
      List.Forall₂ (fun field a => a.1 = field.1 ∧ read field.2 = .ok a.2) fields as := by
  cases document with
  | object fields =>
    simp only [map, mapM_eq_ok_iff, Document.object.injEq, exists_eq_left']
    refine iff_of_eq (congrArg (List.Forall₂ · fields as) (funext fun field => funext fun a => ?_))
    obtain ⟨key, value⟩ := field
    obtain ⟨k, v⟩ := a
    cases read value <;> simp [bind, Except.bind, pure, Except.pure, eq_comm (a := key)]
  | _ => simp [map]

theorem ofReading_eq_ok_iff {reading : Reading α} {a : α} :
    ofReading reading = .ok a ↔ reading = .ok a := by
  cases reading with
  | error fault => exact ⟨nofun, nofun⟩
  | ok b => exact ⟨fun same => congrArg _ (Except.ok.inj same), fun same => congrArg _ (Except.ok.inj same)⟩

theorem ofObject_eq_ok_iff {type : String} {declared : List String}
    {fields : List (String × Document)} {body : Entries → Reading α} {a : α} :
    ofObject type declared fields body = .ok a ↔
      (⟨fields, type, declared, false⟩ : Entries).repeated? = none ∧
        body ⟨fields, type, declared, false⟩ = .ok a := by
  rw [ofObject]
  split
  · rename_i name repeated
    simp [repeated]
  · rename_i alone
    simp [alone, ofReading_eq_ok_iff]

theorem openRecord_eq_ok_iff {type : String} {declared : List String}
    {body : Entries → Reading α} {document : Document} {a : α} :
    openRecord type declared body document = .ok a ↔ ∃ fields, document = .object fields ∧
      (⟨fields, type, declared, false⟩ : Entries).repeated? = none ∧
        body ⟨fields, type, declared, false⟩ = .ok a := by
  cases document <;> simp [openRecord, ofObject_eq_ok_iff]

/-- A record is read from its fields, if what is read of them is told by the fields alone. -/
theorem record_eq_ok_iff {type : String} {declared : List String} {body : Entries → Reading α}
    {holds : List (String × Document) → α → Prop} {document : Document} {a : α}
    (told : ∀ fields positional, body ⟨fields, type, declared, positional⟩ = .ok a ↔ holds fields a) :
    record type declared body document = .ok a ↔
      ∃ fields, RecordFields declared document fields ∧ holds fields a := by
  cases document with
  | object fields =>
    rw [record, ofObject_eq_ok_iff, told]
    constructor
    · rintro ⟨alone, held⟩
      exact ⟨fields, .object alone, held⟩
    · rintro ⟨_, ⟨alone⟩, held⟩
      exact ⟨alone, held⟩
  | array items =>
    rw [record, bind_eq_ok_iff]
    constructor
    · rintro ⟨b, reads, rest⟩
      split at rest
      · contradiction
      · rename_i bound
        obtain rfl := Except.ok.inj rest
        exact ⟨_, .array (Nat.le_of_not_lt bound), (told _ _).mp (ofReading_eq_ok_iff.mp reads)⟩
    · rintro ⟨_, shape, held⟩
      cases shape with
      | array bound =>
        refine ⟨a, ofReading_eq_ok_iff.mpr ((told _ _).mpr held), ?_⟩
        rw [if_neg (Nat.not_lt.mpr bound)]
        rfl
  | _ =>
    constructor
    · intro refused
      contradiction
    · rintro ⟨_, shape, _⟩
      cases shape

/-- In key order no field comes twice. -/
theorem repeated?_of_sorted {fields : Fields Document} (sorted : fields.Sorted) (type : String)
    (declared : List String) (positional : Bool) :
    (⟨fields, type, declared, positional⟩ : Entries).repeated? = none := by
  refine List.find?_eq_none.mpr fun name _ => ?_
  simp only [decide_eq_true_eq, Nat.not_lt]
  have alone : (fields.filter (·.1 == name)).Pairwise fun _ _ => False :=
    (List.Pairwise.filter _ sorted).imp_of_mem fun inFirst inSecond less => by
      have first := beq_iff_eq.mp (List.mem_filter.mp inFirst).2
      have second := beq_iff_eq.mp (List.mem_filter.mp inSecond).2
      rw [first, second] at less
      exact String.lt_irrefl _ less
  generalize fields.filter (·.1 == name) = found at alone
  match found, alone with
  | [], _ => exact Nat.zero_le 1
  | [_], _ => exact Nat.le_refl 1
  | _ :: _ :: _, alone => exact ((List.pairwise_cons.mp alone).1 _ List.mem_cons_self).elim

end Reader
end FactoryBlueprint
