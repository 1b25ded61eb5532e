import FactoryBlueprint.DataFile.Json
import FactoryBlueprint.DataFile.Ron
import FactoryBlueprint.DataFile.Toml
import FactoryBlueprint.Document.Reader

/-! # Formats of data files

A data file is written in RON, TOML or JSON, as the extension of its name says.
-/

namespace FactoryBlueprint

inductive FileFormat where
  | ron
  | toml
  | json
  deriving DecidableEq

/-- Why no prototypes could be loaded. -/
inductive LoadError where
  /-- No file of the given name in the directory. -/
  | missingFile (name directory : String)
  | unsupportedFormat (path : String)
  /-- Two files for one table. -/
  | conflictingFormats (first second : String)
  /-- A file whose text is not in its format or does not list entries. -/
  | malformed (file : String)
  /-- A file without the key that holds the list. -/
  | missingKey (file key : String)
  | invertedBox (file name : String)
  | unknownKind (file name : String)
  | duplicateName (file name : String)
  /-- A file whose text cannot be read. -/
  | unreadable (file : String)

def LoadError.message : LoadError → String
  | missingFile name directory => s!"no '{name}' data file (ron, toml or json) in {directory}"
  | unsupportedFormat path => s!"{path}: expected a .ron, .toml or .json extension"
  | conflictingFormats first second =>
    s!"{first} and {second} describe the same table; keep one"
  | malformed file => s!"{file}: malformed data"
  | missingKey file key => s!"{file}: missing key '{key}' in TOML file"
  | invertedBox file name => s!"{file}: collision box of '{name}' is inverted"
  | unknownKind file name => s!"{file}: '{name}' is not a known entity kind"
  | duplicateName file name => s!"{file}: prototype '{name}' defined twice"
  | unreadable file => s!"{file}: cannot be read"

namespace FileFormat

/-- All formats, in the order in which their files are looked for. -/
def all : List FileFormat := [.ron, .toml, .json]

/-- The extension of file names. -/
def suffix : FileFormat → String
  | .ron => "ron"
  | .toml => "toml"
  | .json => "json"

/-- The last name in a path, if it has one. -/
def fileName? (path : String) : Option String :=
  match ((path.splitOn "/").filter fun part => part ≠ "" ∧ part ≠ ".").getLast? with
  | some name => if name = ".." then none else some name
  | none => none

/-- What follows the last point of a file name, unless the name starts with it. -/
def extension? (name : String) : Option String :=
  match (name.splitOn ".").reverse with
  | [_] | [] => none
  | [_, ""] => none
  | last :: _ => some last

/-- The format that the extension of a path tells. -/
def ofPath (path : String) : Except LoadError FileFormat :=
  match (fileName? path).bind extension? with
  | none => .error (.unsupportedFormat path)
  | some extension =>
    match all.find? (·.suffix = extension) with
    | some format => .ok format
    | none => .error (.unsupportedFormat path)

/-- What a name is bound to where it stands for itself. -/
def nothing : FileFormat → Reader Unit
  | .toml => Reader.empty
  | _ => Reader.unit

/-- The list that a text holds, as a document. TOML keeps it under `key`. -/
def listDocument (format : FileFormat) (file key : String) (item : Shape) (text : String) :
    Except LoadError Document :=
  let orMalformed (document : Option Document) : Except LoadError Document :=
    match document with
    | some document => .ok document
    | none => .error (.malformed file)
  match format with
  | .ron => orMalformed (Ron.read? (.list item) text)
  | .json => orMalformed (Json.read? (.list item) text)
  | .toml =>
    match Toml.read? text with
    | none => .error (.malformed file)
    | some fields =>
      match fields.lookup key with
      | some document => .ok document
      | none => .error (.missingKey file key)

end FileFormat
end FactoryBlueprint
