import FactoryBlueprint.Store.Arena

/-! # Members

The members of an entity list form a forest: an entity is a leaf, a group is a node over its own
members. The forest holds keys only; what stands under a key is in the arena of the list.

`leaves` gives the order in which entities are numbered.
-/

namespace FactoryBlueprint

inductive Member where
  | entity (key : Key)
  | group (key : Key) (members : List Member)
  deriving Inhabited

namespace Member

def key : Member → Key
  | .entity key => key
  | .group key _ => key

/-- The members of a group. -/
def members : Member → List Member
  | .entity _ => []
  | .group _ members => members

mutual

/-- The keys of the entities in a member, in order. -/
def leaves : Member → List Key
  | .entity key => [key]
  | .group _ members => leavesOfAll members

def leavesOfAll : List Member → List Key
  | [] => []
  | member :: rest => leaves member ++ leavesOfAll rest

end

mutual

/-- The keys in a member, that of a group before those of its members. -/
def keys : Member → List Key
  | .entity key => [key]
  | .group key members => key :: keysOfAll members

def keysOfAll : List Member → List Key
  | [] => []
  | member :: rest => keys member ++ keysOfAll rest

end

mutual

/-- The member of the given key, at any depth. -/
def find? (wanted : Key) : Member → Option Member
  | .entity key => if key = wanted then some (.entity key) else none
  | .group key members =>
    if key = wanted then some (.group key members) else findAmong? wanted members

def findAmong? (wanted : Key) : List Member → Option Member
  | [] => none
  | member :: rest => (find? wanted member).or (findAmong? wanted rest)

end

mutual

/-- The member with one of the given key taken out of the members of the group `parent`. -/
def strike (parent unwanted : Key) : Member → Member
  | .entity key => .entity key
  | .group key members =>
    let members := strikeAmong parent unwanted members
    .group key (if key = parent then members.filter (·.key ≠ unwanted) else members)

def strikeAmong (parent unwanted : Key) : List Member → List Member
  | [] => []
  | member :: rest => strike parent unwanted member :: strikeAmong parent unwanted rest

end

/-- The members with one of the given key taken out of the list that has it: that of the group
`parent`, or the outermost one. -/
def unlist (parent : Option Key) (unwanted : Key) (members : List Member) : List Member :=
  match parent with
  | none => members.filter (·.key ≠ unwanted)
  | some parent => strikeAmong parent unwanted members

end Member
end FactoryBlueprint
