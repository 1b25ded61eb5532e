import FactoryBlueprint.Document.Basic

/-! # Tables in the making

The lines of a TOML text build up a table: a header opens a table or a further element of an array
of tables, and a line with a key assigns a value. No key is given twice, no table is opened twice,
and a dotted key adds only to tables that dotted keys made.
-/

namespace FactoryBlueprint.Toml

/-- How a table came to be. -/
inductive Origin where
  /-- By its own header. -/
  | opened
  /-- On the way to a table that a header opened. -/
  | passed
  /-- By a dotted key. -/
  | dotted
  deriving DecidableEq

inductive Node where
  | value (document : Document)
  | table (origin : Origin) (fields : List (String × Node))
  /-- The elements of an array of tables, last first. -/
  | tables (elements : List (List (String × Node)))
  deriving Inhabited

namespace Node

/-- The fields with the given one changed; `f` gets what is there. -/
def alter? (key : String) (f : Option Node → Option Node) :
    List (String × Node) → Option (List (String × Node))
  | [] => (f none).map fun node => [(key, node)]
  | (k, node) :: rest =>
    if k = key then (f (some node)).map fun node => (k, node) :: rest
    else (alter? key f rest).map ((k, node) :: ·)

/-- The fields with those of the table at the path of a header changed. Tables on the way are made
as needed; of an array of tables it is the last. -/
def within? (f : List (String × Node) → Option (List (String × Node))) :
    List String → List (String × Node) → Option (List (String × Node))
  | [], fields => f fields
  | key :: path, fields => alter? key (fun
    | none => (within? f path []).map (.table .passed)
    | some (.table origin inner) => (within? f path inner).map (.table origin)
    | some (.tables (last :: others)) =>
      (within? f path last).map fun last => .tables (last :: others)
    | _ => none) fields

/-- The fields with one more at a dotted key that ends in `key`. A table that a header opened or
passed is not added to, though a table may be made within one that was passed or in the last of an
array. -/
def assign? (key : String) (value : Document) :
    List String → List (String × Node) → Option (List (String × Node))
  | [], fields => alter? key (fun | none => some (.value value) | some _ => none) fields
  | step :: path, fields => alter? step (fun
    | none => (assign? key value path []).map (.table .dotted)
    | some (.table .dotted inner) => (assign? key value path inner).map (.table .dotted)
    | some (.table .passed inner) =>
      if path.isEmpty then none else (assign? key value path inner).map (.table .passed)
    | some (.tables (last :: others)) =>
      if path.isEmpty then none
      else (assign? key value path last).map fun last => .tables (last :: others)
    | _ => none) fields

/-- The fields after the header of a table. -/
def openTable? (path : List String) (key : String) (fields : List (String × Node)) :
    Option (List (String × Node)) :=
  within? (alter? key fun
    | none => some (.table .opened [])
    | some (.table .passed inner) => some (.table .opened inner)
    | _ => none) path fields

/-- The fields after the header of a further element of an array of tables. -/
def openElement? (path : List String) (key : String) (fields : List (String × Node)) :
    Option (List (String × Node)) :=
  within? (alter? key fun
    | none => some (.tables [[]])
    | some (.tables elements) => some (.tables ([] :: elements))
    | _ => none) path fields

mutual

/-- What has been built, as a document. -/
def document : Node → Document
  | .value document => document
  | .table _ fields => .object (fieldDocuments fields)
  | .tables elements => .array (elementDocuments elements).reverse

def fieldDocuments : List (String × Node) → List (String × Document)
  | [] => []
  | (key, node) :: rest => (key, document node) :: fieldDocuments rest

def elementDocuments : List (List (String × Node)) → List Document
  | [] => []
  | fields :: rest => .object (fieldDocuments fields) :: elementDocuments rest

end

end Node
end FactoryBlueprint.Toml
