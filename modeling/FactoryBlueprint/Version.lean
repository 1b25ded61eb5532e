import FactoryBlueprint.Document.Reader

/-! # Game versions

A version has four components of 16 bits, packed into one word with the major component highest.
Documents hold the word; a list of one to four components is read too.
-/

namespace FactoryBlueprint

/-- A game version as a packed word. -/
structure Version where
  packed : UInt64
  deriving DecidableEq

/-- Why components make no version. -/
inductive Version.Fault where
  | wrongCount (count : Nat)
  | tooLarge (component : Nat)

namespace Version

/-- The largest component. -/
def maxComponent : Nat := 65535

def ofParts (major minor patch dev : UInt16) : Version :=
  ⟨major.toUInt64 <<< 48 ||| minor.toUInt64 <<< 32 ||| patch.toUInt64 <<< 16 ||| dev.toUInt64⟩

/-- The version written into a blueprint that states none. -/
def current : Version := ofParts 1 1 110 0

/-- Major, minor, patch and development component. -/
def parts (version : Version) : List UInt16 :=
  [(version.packed >>> 48).toUInt16, (version.packed >>> 32).toUInt16,
    (version.packed >>> 16).toUInt16, version.packed.toUInt16]

def Fault.message : Fault → String
  | wrongCount count => s!"version must have 1 to 4 components, found {count}"
  | tooLarge component => s!"version component {component} exceeds 65535"

/-- The version of one to four components; those left out are zero. -/
def ofComponents (components : List Nat) : Except Fault Version :=
  if components.isEmpty ∨ 4 < components.length then .error (.wrongCount components.length)
  else
    match components.find? (maxComponent < ·) with
    | some component => .error (.tooLarge component)
    | none =>
      let part (i : Nat) : UInt16 := ((components[i]?).getD 0).toUInt16
      .ok (ofParts (part 0) (part 1) (part 2) (part 3))

/-- The components separated by points. -/
def text (version : Version) : String := ".".intercalate (version.parts.map toString)

def read : Reader Version := fun document =>
  match Reader.natural 64 document with
  | .ok packed => .ok ⟨packed.toUInt64⟩
  | .error _ =>
    match Reader.list (Reader.natural 64) document with
    | .error _ => .error (.noForm "VersionRepr")
    | .ok components =>
      match ofComponents components with
      | .ok version => .ok version
      | .error fault => .error (.broken fault.message)

def write (version : Version) : Document := .integer version.packed.toNat

/-- Versions compare component by component, which is the order of the words. -/
instance : Ord Version := ⟨fun a b => compare a.packed b.packed⟩

end Version
end FactoryBlueprint
