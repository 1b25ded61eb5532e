import FactoryBlueprint.DataFile.Entry
import FactoryBlueprint.DataFile.Format
import FactoryBlueprint.Prototype.Table

/-! # Loading prototypes

A directory holds a file of entities and may hold files of tiles and signals, each in one format.
Its entities replace those of the same name in the table that it is loaded over; tiles and signals
must be new.
-/

namespace FactoryBlueprint

/-- A directory: its files by name with their texts. What is no file has no text. -/
structure Directory where
  name : String
  entries : List (String × Option String)

namespace EntityEntry

/-- The kind of a name, in which underscores stand for hyphens. -/
def resolveKind (file name : String) : Except LoadError Kind :=
  match Kind.ofName? (name.map fun c => if c = '_' then '-' else c) with
  | some kind => .ok kind
  | none => .error (.unknownKind file name)

/-- The mask of a kind for which none is listed. -/
def defaultMask : Kind → Mask
  | .straightRail | .curvedRail => .rail
  | _ => .building

/-- The prototype that an entry describes. -/
def resolve (file : String) (entry : EntityEntry) : Except LoadError EntityPrototype := do
  let kind ← resolveKind file entry.kind
  match entry.bounds with
  | [minX, minY, maxX, maxY] =>
    if maxX < minX ∨ maxY < minY then .error (.invertedBox file entry.name)
    else
      let plain := EntityPrototype.building entry.name kind (.ofBounds minX minY maxX maxY)
      pure { plain with
        mask := (entry.mask.map Mask.ofList).getD (defaultMask kind)
        tileWidth := (entry.footprint.map Footprint.width).getD plain.tileWidth
        tileHeight := (entry.footprint.map Footprint.height).getD plain.tileHeight
        circuitReach := entry.circuitReach
        copperReach := entry.copperReach
        inventorySize := entry.inventorySize
        onRailGrid := entry.onRailGrid }
  | _ => .error (.malformed file)

end EntityEntry

/-- The prototype that an entry describes. -/
def TileEntry.resolve (entry : TileEntry) : TilePrototype :=
  ⟨entry.name, (entry.mask.map Mask.ofList).getD .ground⟩

namespace Directory

def contains (directory : Directory) (file : String) : Bool :=
  directory.entries.any fun (name, _) => name = file

/-- The file of a table, of which there may be one only. -/
def find (directory : Directory) (table : String) :
    Except LoadError (Option (String × FileFormat)) :=
  match (FileFormat.all.map fun format => (s!"{table}.{format.suffix}", format)).filter
      fun (file, _) => directory.contains file with
  | [] => .ok none
  | [found] => .ok (some found)
  | first :: second :: _ => .error (.conflictingFormats first.1 second.1)

/-- The text of a file. -/
def text (directory : Directory) (file : String) : Except LoadError String :=
  match directory.entries.lookup file with
  | some (some text) => .ok text
  | _ => .error (.unreadable file)

/-- The entries that the file of a table lists. -/
def list {α : Type} (directory : Directory) (table : String) (item : Shape)
    (read : FileFormat → Reader α) (found : String × FileFormat) : Except LoadError (List α) := do
  let (file, format) := found
  let document ← format.listDocument file table item (← directory.text file)
  match Reader.list (read format) document with
  | .ok entries => pure entries
  | .error _ => .error (.malformed file)

end Directory

namespace PrototypeTable

/-- Notes that a name occurs in a file, where it may occur once. -/
def noteName (file : String) (seen : List String) (name : String) :
    Except LoadError (List String) :=
  if seen.contains name then .error (.duplicateName file name) else .ok (name :: seen)

/-- The table with the entities of a file; `seen` are the names that the file had before. -/
def loadEntities (file : String) (seen : List String) (table : PrototypeTable) :
    List EntityEntry → Except LoadError PrototypeTable
  | [] => .ok table
  | entry :: entries => do
    let seen ← noteName file seen entry.name
    let prototype ← entry.resolve file
    loadEntities file seen (table.putEntity prototype) entries

/-- A name that is taken, as an error in a file. -/
def inFile {α : Type} (file : String) (outcome : Except DuplicateName α) : Except LoadError α :=
  outcome.mapError fun duplicate => .duplicateName file duplicate.name

/-- The table with the tiles of a file. -/
def loadTiles (file : String) (table : PrototypeTable) (entries : List TileEntry) :
    Except LoadError PrototypeTable :=
  entries.foldlM (fun table entry => inFile file (table.registerTile entry.resolve)) table

/-- The table with the signals of a file. -/
def loadSignals (file : String) (table : PrototypeTable) (entries : List SignalEntry) :
    Except LoadError PrototypeTable :=
  entries.foldlM (fun table entry => inFile file (table.registerSignal entry.name entry.type)) table

/-- The table with what a directory holds. -/
def load (table : PrototypeTable) (directory : Directory) : Except LoadError PrototypeTable := do
  match ← directory.find "entities" with
  | none => .error (.missingFile "entities" directory.name)
  | some file =>
    let entities ← directory.list "entities" EntityEntry.shape (fun _ => EntityEntry.read) file
    let table ← loadEntities file.1 [] table entities
    let table ← match ← directory.find "tiles" with
      | none => pure table
      | some file =>
        let tiles ← directory.list "tiles" TileEntry.shape (fun _ => TileEntry.read) file
        loadTiles file.1 table tiles
    match ← directory.find "signals" with
    | none => pure table
    | some file =>
      let signals ← directory.list "signals" SignalEntry.shape
        (fun format => SignalEntry.read format.nothing) file
      loadSignals file.1 table signals

end PrototypeTable
end FactoryBlueprint
