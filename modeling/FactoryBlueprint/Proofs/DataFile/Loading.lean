import FactoryBlueprint.DataFile.Loader
import FactoryBlueprint.Proofs.Document.Reader
import FactoryBlueprint.Proofs.Outcome

/-! # What loading leaves

The files of a directory lie over the table that it is loaded over, entities first, then tiles, then
signals. Loading succeeds unless some entry offends, and the first one that does is reported.
-/

namespace FactoryBlueprint

/-! ### Entries of entities -/

theorem Kind.ofName?_eq_some_iff {name : String} {kind : Kind} :
    ofName? name = some kind ↔ kind.name = name := by
  constructor
  · intro found
    have named : ∀ entry ∈ names, entry.2.name = entry.1 := by decide
    obtain ⟨before, after, split, -⟩ := List.lookup_eq_some_iff.mp found
    exact named (name, kind) (split ▸ List.mem_append_right before List.mem_cons_self)
  · rintro rfl
    exact ofName?_name kind

theorem Reader.length_of_listOfLength {α : Type} {read : Reader α} {length : Nat} {document : Document}
    {values : List α} (reads : listOfLength length read document = .ok values) :
    values.length = length := by
  cases document with
  | array items =>
    rw [listOfLength] at reads
    obtain ⟨given, each, rest⟩ := bind_eq_ok_iff.mp reads
    have same := (mapM_eq_ok_iff.mp each).length_eq
    split at rest
    · contradiction
    split at rest
    · contradiction
    rename_i enough exact
    obtain rfl := Except.ok.inj rest
    rw [List.length_take] at same
    omega
  | _ => contradiction

namespace EntityEntry

variable {file : String} {entry : EntityEntry}

structure Holds (fields : List (String × Document)) (entry : EntityEntry) : Prop where
  name : FactoryBlueprint.Holds fields "name" Reader.text entry.name
  kind : FactoryBlueprint.Holds fields "kind" Reader.text entry.kind
  bounds : FactoryBlueprint.Holds fields "collision_box" (Reader.listOfLength 4 Reader.number)
    entry.bounds
  mask : HoldsOptional fields "collision_mask" (Reader.list Reader.text) entry.mask
  footprint : HoldsOptional fields "footprint" Footprint.read entry.footprint
  circuitReach : HoldsOptional fields "circuit_wire_max_distance" Reader.number entry.circuitReach
  copperReach : HoldsOptional fields "maximum_wire_distance" Reader.number entry.copperReach
  inventorySize : HoldsOptional fields "inventory_size" (Reader.natural 16) entry.inventorySize
  onRailGrid : HoldsDefault fields "double_grid_aligned" false Reader.bool entry.onRailGrid

theorem read_eq_ok_iff {document : Document} : read document = .ok entry ↔
    ∃ fields, RecordFields ["name", "kind", "collision_box", "collision_mask", "footprint",
      "circuit_wire_max_distance", "maximum_wire_distance", "inventory_size",
      "double_grid_aligned"] document fields ∧ Holds fields entry := by
  refine Reader.record_eq_ok_iff fun fields positional => ?_
  simp only [Reading.eq_ok_iff_gives, Reading.gives_seq_iff, Reading.gives_map_iff]
  simp only [Reading.Gives, Entries.required_eq_ok_iff, Entries.optional_eq_ok_iff,
    Entries.withDefault_eq_ok_iff]
  constructor
  · rintro ⟨_, name, _, kind, _, bounds, _, mask, _, footprint, _, circuitReach, _, copperReach, _,
      inventorySize, _, onRailGrid, rfl⟩
    exact ⟨name, kind, bounds, mask, footprint, circuitReach, copperReach, inventorySize, onRailGrid⟩
  · rintro ⟨name, kind, bounds, mask, footprint, circuitReach, copperReach, inventorySize, onRailGrid⟩
    exact ⟨_, name, _, kind, _, bounds, _, mask, _, footprint, _, circuitReach, _, copperReach, _,
      inventorySize, _, onRailGrid, rfl⟩

/-- What is read has the four bounds of a box. -/
theorem length_bounds_of_read {document : Document} (reads : read document = .ok entry) :
    entry.bounds.length = 4 := by
  obtain ⟨fields, -, held⟩ := read_eq_ok_iff.mp reads
  obtain ⟨value, -, bounds⟩ := held.bounds
  exact Reader.length_of_listOfLength bounds

/-- The name of the kind, underscores read as hyphens. -/
def kindName (entry : EntityEntry) : String := entry.kind.map fun c => if c = '_' then '-' else c

/-- The greatest bound is below the least one in a direction. -/
def Inverted (entry : EntityEntry) : Prop :=
  ∃ minX minY maxX maxY, entry.bounds = [minX, minY, maxX, maxY] ∧ (maxX < minX ∨ maxY < minY)

/-- The prototype of an entry whose kind and box are known. -/
def prototype (entry : EntityEntry) (kind : Kind) (box : Box) : EntityPrototype where
  name := entry.name
  kind := kind
  box := box
  mask := (entry.mask.map Mask.ofList).getD (defaultMask kind)
  tileWidth := (entry.footprint.map Footprint.width).getD (max box.tileWidth 1)
  tileHeight := (entry.footprint.map Footprint.height).getD (max box.tileHeight 1)
  circuitReach := entry.circuitReach
  copperReach := entry.copperReach
  inventorySize := entry.inventorySize
  onRailGrid := entry.onRailGrid

/-- The prototype that an entry stands for. -/
inductive Describes (entry : EntityEntry) : EntityPrototype → Prop
  | intro {kind : Kind} {minX minY maxX maxY : Binary64} (named : kind.name = entry.kindName)
      (bounded : entry.bounds = [minX, minY, maxX, maxY]) :
      Describes entry (entry.prototype kind (.ofBounds minX minY maxX maxY))

theorem Describes.name_eq {made : EntityPrototype} (describes : entry.Describes made) :
    made.name = entry.name := by
  cases describes
  rfl

theorem resolveKind_eq_ok_iff {kind : Kind} :
    resolveKind file entry.kind = .ok kind ↔ kind.name = entry.kindName := by
  rw [← Kind.ofName?_eq_some_iff, resolveKind, ← kindName]
  cases Kind.ofName? entry.kindName <;> simp

theorem resolveKind_eq_error_iff {error : LoadError} :
    resolveKind file entry.kind = .error error ↔
      (¬ ∃ kind : Kind, kind.name = entry.kindName) ∧ error = .unknownKind file entry.kind := by
  simp only [← Kind.ofName?_eq_some_iff]
  rw [resolveKind, ← kindName]
  cases Kind.ofName? entry.kindName <;> simp [eq_comm]

section Bounds

variable {minX minY maxX maxY : Binary64} {made : EntityPrototype}

theorem inverted_iff (bounded : entry.bounds = [minX, minY, maxX, maxY]) :
    entry.Inverted ↔ maxX < minX ∨ maxY < minY := by
  constructor
  · rintro ⟨_, _, _, _, same, inverted⟩
    cases bounded.symm.trans same
    exact inverted
  · exact fun inverted => ⟨minX, minY, maxX, maxY, bounded, inverted⟩

theorem describes_iff (bounded : entry.bounds = [minX, minY, maxX, maxY]) :
    entry.Describes made ↔ ∃ kind : Kind, kind.name = entry.kindName ∧
      entry.prototype kind (.ofBounds minX minY maxX maxY) = made := by
  constructor
  · rintro ⟨named, same⟩
    cases bounded.symm.trans same
    exact ⟨_, named, rfl⟩
  · rintro ⟨kind, named, rfl⟩
    exact .intro named bounded

theorem resolve_of_bounds (bounded : entry.bounds = [minX, minY, maxX, maxY]) :
    entry.resolve file = resolveKind file entry.kind >>= fun kind =>
      if maxX < minX ∨ maxY < minY then .error (.invertedBox file entry.name)
      else .ok (entry.prototype kind (.ofBounds minX minY maxX maxY)) := by
  rw [resolve]
  refine bind_congr fun kind => ?_
  simp only [bounded]
  split
  · rfl
  · rfl

end Bounds

theorem resolve_eq_ok_iff (bounded : entry.bounds.length = 4) {made : EntityPrototype} :
    entry.resolve file = .ok made ↔ ¬ entry.Inverted ∧ entry.Describes made := by
  obtain ⟨minX, minY, maxX, maxY, bounded⟩ := List.length_eq_four.mp bounded
  simp only [resolve_of_bounds bounded, inverted_iff bounded, describes_iff bounded, bind_eq_ok_iff,
    resolveKind_eq_ok_iff]
  by_cases inverted : maxX < minX ∨ maxY < minY
  · simp [inverted]
  · simp [inverted]

theorem resolve_eq_error_iff (bounded : entry.bounds.length = 4) {error : LoadError} :
    entry.resolve file = .error error ↔
      ((¬ ∃ kind : Kind, kind.name = entry.kindName) ∧ error = .unknownKind file entry.kind) ∨
        (∃ kind : Kind, kind.name = entry.kindName) ∧ entry.Inverted ∧
          error = .invertedBox file entry.name := by
  obtain ⟨minX, minY, maxX, maxY, bounded⟩ := List.length_eq_four.mp bounded
  simp only [resolve_of_bounds bounded, inverted_iff bounded, bind_eq_error_iff,
    resolveKind_eq_error_iff, resolveKind_eq_ok_iff]
  by_cases inverted : maxX < minX ∨ maxY < minY
  · simp [inverted, eq_comm]
  · simp [inverted]

/-- What is wrong with an entry that follows others, as it is reported: its name came before, its
kind is none, or its box is inverted, and only the first of these. -/
inductive Offends (file : String) (before : List EntityEntry) (entry : EntityEntry) :
    LoadError → Prop
  | repeated (taken : entry.name ∈ before.map EntityEntry.name) :
      Offends file before entry (.duplicateName file entry.name)
  | unknownKind (fresh : entry.name ∉ before.map EntityEntry.name)
      (unknown : ¬ ∃ kind : Kind, kind.name = entry.kindName) :
      Offends file before entry (.unknownKind file entry.kind)
  | invertedBox (fresh : entry.name ∉ before.map EntityEntry.name)
      (known : ∃ kind : Kind, kind.name = entry.kindName) (inverted : entry.Inverted) :
      Offends file before entry (.invertedBox file entry.name)

theorem offends_iff {before : List EntityEntry} (bounded : entry.bounds.length = 4)
    {error : LoadError} : Offends file before entry error ↔
      (entry.name ∈ before.map EntityEntry.name ∧ error = .duplicateName file entry.name) ∨
        entry.name ∉ before.map EntityEntry.name ∧ entry.resolve file = .error error := by
  rw [resolve_eq_error_iff bounded]
  constructor
  · rintro (taken | ⟨fresh, unknown⟩ | ⟨fresh, known, inverted⟩)
    · exact .inl ⟨taken, rfl⟩
    · exact .inr ⟨fresh, .inl ⟨unknown, rfl⟩⟩
    · exact .inr ⟨fresh, .inr ⟨known, inverted, rfl⟩⟩
  · rintro (⟨taken, rfl⟩ | ⟨fresh, ⟨unknown, rfl⟩ | ⟨known, inverted, rfl⟩⟩)
    · exact .repeated taken
    · exact .unknownKind fresh unknown
    · exact .invertedBox fresh known inverted

theorem forall_not_offends_iff {before : List EntityEntry} :
    (∀ error, ¬ Offends file before entry error) ↔ entry.name ∉ before.map EntityEntry.name ∧
      (∃ kind : Kind, kind.name = entry.kindName) ∧ ¬ entry.Inverted := by
  constructor
  · intro inoffensive
    have fresh : entry.name ∉ before.map EntityEntry.name := fun taken =>
      inoffensive _ (.repeated taken)
    have known : ∃ kind : Kind, kind.name = entry.kindName := by_contra fun unknown =>
      inoffensive _ (.unknownKind fresh unknown)
    exact ⟨fresh, known, fun inverted => inoffensive _ (.invertedBox fresh known inverted)⟩
  · rintro ⟨fresh, known, upright⟩ error (taken | ⟨-, unknown⟩ | ⟨-, -, inverted⟩)
    · exact fresh taken
    · exact unknown known
    · exact upright inverted

theorem clean_iff {entries : List EntityEntry} : Clean (Offends file) entries ↔
    (entries.map EntityEntry.name).Nodup ∧
      (∀ entry ∈ entries, ∃ kind : Kind, kind.name = entry.kindName) ∧
        ∀ entry ∈ entries, ¬ entry.Inverted := by
  rw [Clean, ← eachAfter_notMem_map_iff, ← eachAfter_forall_mem_iff, ← eachAfter_forall_mem_iff,
    ← eachAfter_and_iff, ← eachAfter_and_iff]
  exact eachAfter_congr fun before entry _ => forall_not_offends_iff

end EntityEntry

/-! ### Passes over the files -/

theorem getElem?_insert {β : Type} {map : Std.TreeMap String β} {name text : String} {value : β} :
    (map.insert name value)[text]? = if text = name then some value else map[text]? := by
  simp only [Std.TreeMap.getElem?_insert, Std.LawfulEqCmp.compare_eq_iff_eq, @eq_comm _ text]

namespace PrototypeTable

variable {table next final : PrototypeTable} {file : String} {entries : List EntityEntry}

/-- One entity of a file; the state also holds the names that came before. -/
def entityStep (file : String) (state : List String × PrototypeTable) (entry : EntityEntry) :
    Except LoadError (List String × PrototypeTable) := do
  let seen ← noteName file state.1 entry.name
  let prototype ← entry.resolve file
  pure (seen, state.2.putEntity prototype)

theorem loadEntities_eq_foldlM (seen : List String) (table : PrototypeTable) :
    loadEntities file seen table entries =
      (entries.foldlM (entityStep file) (seen, table)).map Prod.snd := by
  induction entries generalizing seen table with
  | nil => rfl
  | cons entry entries ih =>
    rw [loadEntities, List.foldlM_cons, entityStep]
    cases noteName file seen entry.name with
    | error error => rfl
    | ok seen =>
      cases entry.resolve file with
      | error error => rfl
      | ok prototype => exact ih seen (table.putEntity prototype)

theorem entityStep_eq_ok_iff {state next : List String × PrototypeTable} {entry : EntityEntry} :
    entityStep file state entry = .ok next ↔ entry.name ∉ state.1 ∧
      ∃ made, entry.resolve file = .ok made ∧ next = (entry.name :: state.1, state.2.putEntity made) := by
  rw [entityStep, noteName]
  by_cases taken : entry.name ∈ state.1
  · simp [taken, bind, Except.bind]
  · cases entry.resolve file <;> simp [taken, bind, Except.bind, pure, Except.pure, eq_comm]

theorem entityStep_eq_error_iff {state : List String × PrototypeTable} {entry : EntityEntry}
    {error : LoadError} : entityStep file state entry = .error error ↔
      (entry.name ∈ state.1 ∧ error = .duplicateName file entry.name) ∨
        entry.name ∉ state.1 ∧ entry.resolve file = .error error := by
  rw [entityStep, noteName]
  by_cases taken : entry.name ∈ state.1
  · simp [taken, bind, Except.bind, eq_comm]
  · cases entry.resolve file <;> simp [taken, bind, Except.bind, pure, Except.pure]

/-- The names that a pass has seen are those of the entries before. -/
theorem mem_seen_iff {state : List String × PrototypeTable}
    (reached : entries.foldlM (entityStep file) ([], table) = .ok state) (text : String) :
    text ∈ state.1 ↔ text ∈ entries.map EntityEntry.name := by
  rw [foldlM_takes EntityEntry.name (fun state text => text ∈ state.1) ?_ reached]
  · simp
  · intro state entry next stepped text
    obtain ⟨-, made, -, rfl⟩ := entityStep_eq_ok_iff.mp stepped
    exact List.mem_cons

theorem stopsAt_entityStep (bounded : ∀ entry ∈ entries, entry.bounds.length = 4) :
    StopsAt (entityStep file) (EntityEntry.Offends file) ([], table) entries := by
  rintro before entry after rfl state reached error
  have here := bounded entry (List.mem_append_right before List.mem_cons_self)
  rw [entityStep_eq_error_iff, EntityEntry.offends_iff here, mem_seen_iff reached]

theorem loadEntities_ok_iff (bounded : ∀ entry ∈ entries, entry.bounds.length = 4) :
    (∃ loaded, loadEntities file [] table entries = .ok loaded) ↔
      Clean (EntityEntry.Offends file) entries := by
  rw [← (stopsAt_entityStep bounded).foldlM_ok_iff, loadEntities_eq_foldlM]
  cases entries.foldlM (entityStep file) ([], table) <;> simp [Except.map]

theorem loadEntities_eq_error_iff (bounded : ∀ entry ∈ entries, entry.bounds.length = 4)
    {error : LoadError} : loadEntities file [] table entries = .error error ↔
      FirstOffence (EntityEntry.Offends file) entries error := by
  rw [← (stopsAt_entityStep bounded).foldlM_eq_error_iff, loadEntities_eq_foldlM]
  cases entries.foldlM (entityStep file) ([], table) <;> simp [Except.map]

/-- What the entities of a file leave: their prototypes over those of the table. -/
theorem loadEntities_leaves (bounded : ∀ entry ∈ entries, entry.bounds.length = 4)
    (loaded : loadEntities file [] table entries = .ok final) :
    Overlays EntityEntry.name EntityEntry.Describes entries table.entity? final.entity? ∧
      final.tile? = table.tile? ∧ final.signalType? = table.signalType? := by
  have distinct := (EntityEntry.clean_iff.mp ((loadEntities_ok_iff bounded).mp ⟨final, loaded⟩)).1
  rw [loadEntities_eq_foldlM] at loaded
  cases done : entries.foldlM (entityStep file) ([], table) with
  | error error =>
    rw [done] at loaded
    contradiction
  | ok state =>
    rw [done] at loaded
    cases loaded
    refine ⟨?_, ?_, ?_⟩
    · refine foldlM_overlays (·.2.entity?) ?_ distinct done
      intro state entry next mem stepped
      obtain ⟨-, made, resolved, rfl⟩ := entityStep_eq_ok_iff.mp stepped
      have describes := ((EntityEntry.resolve_eq_ok_iff (bounded entry mem)).mp resolved).2
      refine ⟨made, describes, fun text => ?_⟩
      rw [← describes.name_eq]
      exact getElem?_insert
    · refine foldlM_keeps (·.2.tile?) ?_ done
      intro state entry next stepped
      obtain ⟨-, made, -, rfl⟩ := entityStep_eq_ok_iff.mp stepped
      rfl
    · refine foldlM_keeps (·.2.signalType?) ?_ done
      intro state entry next stepped
      obtain ⟨-, made, -, rfl⟩ := entityStep_eq_ok_iff.mp stepped
      rfl

end PrototypeTable

/-! ### Names that must be new -/

/-- A file of a table and the entries that it lists. -/
structure Listing (α : Type) where
  file : String
  entries : List α

section NewNames

variable {α β : Type} {look : PrototypeTable → String → Option β} {name : α → String} {made : α → β}
  {step : String → PrototypeTable → α → Except LoadError PrototypeTable}
  {table final : PrototypeTable} {file : String} {entries : List α} {listed : Option (Listing α)}
  {error : LoadError}

/-- An entry has a name that came before or under which something was found from the start. -/
def Repeats (file : String) (name : α → String) (old : String → Option β) (before : List α)
    (entry : α) (error : LoadError) : Prop :=
  (name entry ∈ before.map name ∨ (old (name entry)).isSome) ∧
    error = .duplicateName file (name entry)

theorem clean_repeats_iff {old : String → Option β} : Clean (Repeats file name old) entries ↔
    (entries.map name).Nodup ∧ ∀ entry ∈ entries, old (name entry) = none := by
  rw [Clean, ← eachAfter_notMem_map_iff, ← eachAfter_forall_mem_iff, ← eachAfter_and_iff]
  refine eachAfter_congr fun before entry _ => ?_
  simp [Repeats]

/-- A step that registers its entry under a name that must be new. -/
structure Registers (look : PrototypeTable → String → Option β) (name : α → String) (made : α → β)
    (step : String → PrototypeTable → α → Except LoadError PrototypeTable) : Prop where
  refuses : ∀ {file table entry error}, step file table entry = .error error ↔
    (look table (name entry)).isSome ∧ error = .duplicateName file (name entry)
  puts : ∀ {file table entry next}, step file table entry = .ok next → ∀ text,
    look next text = if text = name entry then some (made entry) else look table text

theorem registers_of_eq_ite {insert : PrototypeTable → α → PrototypeTable}
    (steps : ∀ file table entry, step file table entry =
      if (look table (name entry)).isSome then .error (.duplicateName file (name entry))
      else .ok (insert table entry))
    (inserts : ∀ table entry text, look (insert table entry) text =
      if text = name entry then some (made entry) else look table text) :
    Registers look name made step where
  refuses := by
    intro file table entry error
    rw [steps]
    by_cases taken : (look table (name entry)).isSome
    · rw [if_pos taken, Except.error.injEq, eq_comm, and_iff_right taken]
    · rw [if_neg taken]
      exact iff_of_false nofun fun refused => taken refused.1
  puts := by
    intro file table entry next stepped text
    rw [steps] at stepped
    split at stepped
    · contradiction
    · cases stepped
      exact inserts table entry text

/-- The table with the entries that are listed, if any are. -/
def layListing (step : String → PrototypeTable → α → Except LoadError PrototypeTable)
    (table : PrototypeTable) : Option (Listing α) → Except LoadError PrototypeTable
  | none => .ok table
  | some listing => listing.entries.foldlM (step listing.file) table

namespace Registers

theorem stopsAt (registers : Registers look name made step) :
    StopsAt (step file) (Repeats file name (look table)) table entries := by
  rintro before entry after - state reached error
  rw [registers.refuses, Repeats]
  refine and_congr_left fun _ => ?_
  refine foldlM_takes name (fun state text => (look state text).isSome) ?_ reached (name entry)
  intro state entry next stepped text
  rw [registers.puts stepped]
  by_cases same : text = name entry <;> simp [same]

theorem layListing_ok_iff (registers : Registers look name made step) :
    (∃ final, layListing step table listed = .ok final) ↔ ∀ listing ∈ listed,
      Clean (Repeats listing.file name (look table)) listing.entries := by
  cases listed with
  | none => exact iff_of_true ⟨table, rfl⟩ nofun
  | some listing =>
    rw [layListing, registers.stopsAt.foldlM_ok_iff]
    simp

theorem layListing_eq_error_iff (registers : Registers look name made step) :
    layListing step table listed = .error error ↔ ∃ listing ∈ listed,
      FirstOffence (Repeats listing.file name (look table)) listing.entries error := by
  cases listed with
  | none => exact iff_of_false nofun nofun
  | some listing =>
    rw [layListing, registers.stopsAt.foldlM_eq_error_iff]
    simp

theorem layListing_leaves (registers : Registers look name made step)
    (laid : layListing step table listed = .ok final) :
    Overlays name (made · = ·) (listed.elim [] Listing.entries) (look table) (look final) := by
  cases listed with
  | none =>
    cases laid
    exact ⟨nofun, fun _ _ => rfl⟩
  | some listing =>
    have clean := registers.layListing_ok_iff.mp ⟨final, laid⟩ listing rfl
    refine foldlM_overlays look ?_ (clean_repeats_iff.mp clean).1 laid
    exact fun _ stepped => ⟨_, rfl, registers.puts stepped⟩

end Registers

theorem layListing_keeps {γ : Type} (look : PrototypeTable → γ)
    (keeps : ∀ {file table entry next}, step file table entry = .ok next → look next = look table)
    (laid : layListing step table listed = .ok final) : look final = look table := by
  cases listed with
  | none => rw [Except.ok.inj laid]
  | some listing => exact foldlM_keeps look keeps laid

end NewNames

namespace PrototypeTable

variable {table next : PrototypeTable} {file : String}

def tileStep (file : String) (table : PrototypeTable) (entry : TileEntry) :
    Except LoadError PrototypeTable := inFile file (table.registerTile entry.resolve)

def signalStep (file : String) (table : PrototypeTable) (entry : SignalEntry) :
    Except LoadError PrototypeTable := inFile file (table.registerSignal entry.name entry.type)

theorem tileStep_eq_ite (entry : TileEntry) : tileStep file table entry =
    if (table.tile? entry.name).isSome then .error (.duplicateName file entry.name)
    else .ok { table with tiles := table.tiles.insert entry.name entry.resolve } := by
  rw [tileStep, registerTile, Std.TreeMap.contains_eq_isSome_getElem?]
  change inFile file (if (table.tile? entry.name).isSome then _ else _) = _
  by_cases taken : (table.tile? entry.name).isSome
  · rw [if_pos taken, if_pos taken]
    rfl
  · rw [if_neg taken, if_neg taken]
    rfl

theorem signalStep_eq_ite (entry : SignalEntry) : signalStep file table entry =
    if (table.signalType? entry.name).isSome then .error (.duplicateName file entry.name)
    else .ok { table with signals := table.signals.insert entry.name entry.type } := by
  rw [signalStep, registerSignal, Std.TreeMap.contains_eq_isSome_getElem?]
  change inFile file (if (table.signalType? entry.name).isSome then _ else _) = _
  by_cases taken : (table.signalType? entry.name).isSome
  · rw [if_pos taken, if_pos taken]
    rfl
  · rw [if_neg taken, if_neg taken]
    rfl

theorem registers_tileStep : Registers tile? TileEntry.name TileEntry.resolve tileStep :=
  registers_of_eq_ite (fun _ _ => tileStep_eq_ite) fun _ _ _ => getElem?_insert

theorem registers_signalStep :
    Registers signalType? SignalEntry.name SignalEntry.type signalStep :=
  registers_of_eq_ite (fun _ _ => signalStep_eq_ite) fun _ _ _ => getElem?_insert

theorem tileStep_keeps {entry : TileEntry} (stepped : tileStep file table entry = .ok next) :
    next.entity? = table.entity? ∧ next.signalType? = table.signalType? := by
  rw [tileStep_eq_ite] at stepped
  split at stepped
  · contradiction
  · cases stepped
    exact ⟨rfl, rfl⟩

theorem signalStep_keeps {entry : SignalEntry} (stepped : signalStep file table entry = .ok next) :
    next.entity? = table.entity? ∧ next.tile? = table.tile? := by
  rw [signalStep_eq_ite] at stepped
  split at stepped
  · contradiction
  · cases stepped
    exact ⟨rfl, rfl⟩

end PrototypeTable

/-! ### Directories -/

/-- What the files of a directory list; of tiles and signals there may be no file. -/
structure DataFiles where
  entities : Listing EntityEntry
  tiles : Option (Listing TileEntry)
  signals : Option (Listing SignalEntry)

/-- The file of a table can be read and lists the entries, or there is none. -/
def Directory.Lists {α : Type} (directory : Directory) (table : String) (item : Shape)
    (read : FileFormat → Reader α) : Option (Listing α) → Prop
  | none => directory.find table = .ok none
  | some listing => ∃ format, directory.find table = .ok (some (listing.file, format)) ∧
      directory.list table item read (listing.file, format) = .ok listing.entries

structure Directory.Holds (directory : Directory) (files : DataFiles) : Prop where
  entities : directory.Lists "entities" EntityEntry.shape (fun _ => EntityEntry.read)
    (some files.entities)
  tiles : directory.Lists "tiles" TileEntry.shape (fun _ => TileEntry.read) files.tiles
  signals : directory.Lists "signals" SignalEntry.shape
    (fun format => SignalEntry.read format.nothing) files.signals

theorem Directory.list_eq_ok_iff {α : Type} {directory : Directory} {table : String} {item : Shape}
    {read : FileFormat → Reader α} {file : String} {format : FileFormat} {entries : List α} :
    directory.list table item read (file, format) = .ok entries ↔
      ∃ text document, directory.text file = .ok text ∧
        format.listDocument file table item text = .ok document ∧
          Reader.list (read format) document = .ok entries := by
  simp only [Directory.list, bind_eq_ok_iff]
  constructor
  · rintro ⟨text, there, document, parsed, read⟩
    split at read
    · rename_i entries reads
      cases read
      exact ⟨text, document, there, parsed, reads⟩
    · contradiction
  · rintro ⟨text, document, there, parsed, reads⟩
    refine ⟨text, there, document, parsed, ?_⟩
    rw [reads]
    rfl

namespace DataFiles

variable {files : DataFiles} {table : PrototypeTable}

/-- The entries can all be loaded over a table. -/
structure Fit (files : DataFiles) (table : PrototypeTable) : Prop where
  names : (files.entities.entries.map EntityEntry.name).Nodup
  kinds : ∀ entry ∈ files.entities.entries, ∃ kind : Kind, kind.name = entry.kindName
  boxes : ∀ entry ∈ files.entities.entries, ¬ entry.Inverted
  tiles : ∀ listing ∈ files.tiles, (listing.entries.map TileEntry.name).Nodup ∧
    ∀ entry ∈ listing.entries, table.tile? entry.name = none
  signals : ∀ listing ∈ files.signals, (listing.entries.map SignalEntry.name).Nodup ∧
    ∀ entry ∈ listing.entries, table.signalType? entry.name = none

theorem fit_iff : files.Fit table ↔
    Clean (EntityEntry.Offends files.entities.file) files.entities.entries ∧
      (∀ listing ∈ files.tiles,
        Clean (Repeats listing.file TileEntry.name table.tile?) listing.entries) ∧
      ∀ listing ∈ files.signals,
        Clean (Repeats listing.file SignalEntry.name table.signalType?) listing.entries := by
  simp only [EntityEntry.clean_iff, clean_repeats_iff]
  constructor
  · rintro ⟨names, kinds, boxes, tiles, signals⟩
    exact ⟨⟨names, kinds, boxes⟩, tiles, signals⟩
  · rintro ⟨⟨names, kinds, boxes⟩, tiles, signals⟩
    exact ⟨names, kinds, boxes, tiles, signals⟩

/-- A table is what another one has with the entries over it. -/
structure LiesOver (files : DataFiles) (table final : PrototypeTable) : Prop where
  entities : Overlays EntityEntry.name EntityEntry.Describes files.entities.entries table.entity?
    final.entity?
  tiles : Overlays TileEntry.name (·.resolve = ·) (files.tiles.elim [] Listing.entries) table.tile?
    final.tile?
  signals : Overlays SignalEntry.name (·.type = ·) (files.signals.elim [] Listing.entries)
    table.signalType? final.signalType?

/-- The error is that of the first entry that offends, entities before tiles before signals. -/
inductive Reports (files : DataFiles) (table : PrototypeTable) (error : LoadError) : Prop
  | entity (first : FirstOffence (EntityEntry.Offends files.entities.file) files.entities.entries
      error)
  | tile {listing : Listing TileEntry}
      (entities : Clean (EntityEntry.Offends files.entities.file) files.entities.entries)
      (listed : files.tiles = some listing)
      (first : FirstOffence (Repeats listing.file TileEntry.name table.tile?) listing.entries error)
  | signal {listing : Listing SignalEntry}
      (entities : Clean (EntityEntry.Offends files.entities.file) files.entities.entries)
      (tiles : ∀ listing ∈ files.tiles,
        Clean (Repeats listing.file TileEntry.name table.tile?) listing.entries)
      (listed : files.signals = some listing)
      (first : FirstOffence (Repeats listing.file SignalEntry.name table.signalType?)
        listing.entries error)

end DataFiles

theorem Directory.Lists.layListing_eq {α : Type} {directory : Directory} {name : String}
    {item : Shape} {read : FileFormat → Reader α} {listed : Option (Listing α)}
    (lists : directory.Lists name item read listed)
    (step : String → PrototypeTable → α → Except LoadError PrototypeTable)
    (table : PrototypeTable) :
    (directory.find name >>= fun
      | none => pure table
      | some file => directory.list name item read file >>= List.foldlM (step file.1) table) =
        layListing step table listed := by
  cases listed with
  | none =>
    rw [show directory.find name = .ok none from lists]
    rfl
  | some listing =>
    obtain ⟨format, found, given⟩ := lists
    rw [found]
    change directory.list name item read (listing.file, format) >>= _ = _
    rw [given]
    rfl

theorem Directory.Holds.load_eq {directory : Directory} {files : DataFiles}
    (holds : directory.Holds files) (table : PrototypeTable) : table.load directory = (do
      let table ← PrototypeTable.loadEntities files.entities.file [] table files.entities.entries
      let table ← layListing PrototypeTable.tileStep table files.tiles
      layListing PrototypeTable.signalStep table files.signals) := by
  obtain ⟨⟨format, found, given⟩, tiles, signals⟩ := holds
  simp only [← tiles.layListing_eq, ← signals.layListing_eq]
  rw [PrototypeTable.load, found]
  change directory.list "entities" _ _ _ >>= _ = _
  rw [given]
  change PrototypeTable.loadEntities files.entities.file [] table files.entities.entries >>= _ = _
  refine bind_congr fun table => ?_
  rw [bind_assoc]
  refine bind_congr fun tiles => ?_
  cases tiles with
  | none => rfl
  | some file => exact (bind_assoc _ _ _).symm

theorem Directory.Holds.bounded {directory : Directory} {files : DataFiles}
    (holds : directory.Holds files) :
    ∀ entry ∈ files.entities.entries, entry.bounds.length = 4 := by
  intro entry mem
  obtain ⟨⟨format, -, given⟩, -, -⟩ := holds
  obtain ⟨text, document, -, -, reads⟩ := Directory.list_eq_ok_iff.mp given
  obtain ⟨items, rfl, each⟩ := Reader.list_eq_ok_iff.mp reads
  obtain ⟨item, -, read⟩ := exists_of_mem_right each mem
  exact EntityEntry.length_bounds_of_read read

namespace PrototypeTable

variable {directory : Directory} {files : DataFiles} {table final : PrototypeTable}
  {error : LoadError}

/-- Neither entities nor tiles make a difference to the signals. -/
theorem signalType?_eq {first second : PrototypeTable} (holds : directory.Holds files)
    (loaded : loadEntities files.entities.file [] table files.entities.entries = .ok first)
    (laid : layListing tileStep first files.tiles = .ok second) :
    second.signalType? = table.signalType? := by
  rw [layListing_keeps signalType? (fun stepped => (tileStep_keeps stepped).2) laid]
  exact (loadEntities_leaves holds.bounded loaded).2.2

theorem load_ok_iff (holds : directory.Holds files) :
    (∃ loaded, table.load directory = .ok loaded) ↔ files.Fit table := by
  simp only [holds.load_eq, bind_eq_ok_iff]
  rw [DataFiles.fit_iff, ← @loadEntities_ok_iff table _ _ holds.bounded]
  constructor
  · rintro ⟨final, first, loaded, second, laid, last⟩
    refine ⟨⟨first, loaded⟩, ?_, ?_⟩
    · rw [← (loadEntities_leaves holds.bounded loaded).2.1]
      exact registers_tileStep.layListing_ok_iff.mp ⟨second, laid⟩
    · rw [← signalType?_eq holds loaded laid]
      exact registers_signalStep.layListing_ok_iff.mp ⟨final, last⟩
  · rintro ⟨⟨first, loaded⟩, tiles, signals⟩
    rw [← (loadEntities_leaves holds.bounded loaded).2.1] at tiles
    obtain ⟨second, laid⟩ := registers_tileStep.layListing_ok_iff.mpr tiles
    rw [← signalType?_eq holds loaded laid] at signals
    obtain ⟨final, last⟩ := registers_signalStep.layListing_ok_iff.mpr signals
    exact ⟨final, first, loaded, second, laid, last⟩

theorem load_leaves (holds : directory.Holds files) (loaded : table.load directory = .ok final) :
    files.LiesOver table final := by
  simp only [holds.load_eq, bind_eq_ok_iff] at loaded
  obtain ⟨first, loaded, second, laid, last⟩ := loaded
  obtain ⟨entities, sameTiles, -⟩ := loadEntities_leaves holds.bounded loaded
  have tiles := registers_tileStep.layListing_leaves laid
  have signals := registers_signalStep.layListing_leaves last
  refine ⟨?_, ?_, ?_⟩
  · rw [layListing_keeps entity? (fun stepped => (signalStep_keeps stepped).1) last,
      layListing_keeps entity? (fun stepped => (tileStep_keeps stepped).1) laid]
    exact entities
  · rw [layListing_keeps tile? (fun stepped => (signalStep_keeps stepped).2) last, ← sameTiles]
    exact tiles
  · rw [← signalType?_eq holds loaded laid]
    exact signals

theorem load_eq_error_iff (holds : directory.Holds files) :
    table.load directory = .error error ↔ files.Reports table error := by
  have entities := @loadEntities_ok_iff table files.entities.file _ holds.bounded
  simp only [holds.load_eq, bind_eq_error_iff, loadEntities_eq_error_iff holds.bounded]
  constructor
  · rintro (first | ⟨first, loaded, refused | ⟨second, laid, refused⟩⟩)
    · exact .entity first
    · obtain ⟨listing, listed, offence⟩ := registers_tileStep.layListing_eq_error_iff.mp refused
      rw [(loadEntities_leaves holds.bounded loaded).2.1] at offence
      exact .tile (entities.mp ⟨first, loaded⟩) listed offence
    · obtain ⟨listing, listed, offence⟩ := registers_signalStep.layListing_eq_error_iff.mp refused
      have tiles := registers_tileStep.layListing_ok_iff.mp ⟨second, laid⟩
      rw [signalType?_eq holds loaded laid] at offence
      rw [(loadEntities_leaves holds.bounded loaded).2.1] at tiles
      exact .signal (entities.mp ⟨first, loaded⟩) tiles listed offence
  · rintro (first | ⟨clean, listed, offence⟩ | ⟨clean, tiles, listed, offence⟩)
    · exact .inl first
    · obtain ⟨first, loaded⟩ := entities.mpr clean
      rw [← (loadEntities_leaves holds.bounded loaded).2.1] at offence
      exact .inr ⟨first, loaded,
        .inl (registers_tileStep.layListing_eq_error_iff.mpr ⟨_, listed, offence⟩)⟩
    · obtain ⟨first, loaded⟩ := entities.mpr clean
      rw [← (loadEntities_leaves holds.bounded loaded).2.1] at tiles
      obtain ⟨second, laid⟩ := registers_tileStep.layListing_ok_iff.mpr tiles
      rw [← signalType?_eq holds loaded laid] at offence
      exact .inr ⟨first, loaded, .inr ⟨second, laid,
        registers_signalStep.layListing_eq_error_iff.mpr ⟨_, listed, offence⟩⟩⟩

/-- A directory is loaded if all of its entries fit. What it lists is then found in place of what
the table had, and all else as before. Otherwise the first entry that offends is reported. -/
theorem load_layers (holds : directory.Holds files) (table : PrototypeTable) :
    ((∃ loaded, table.load directory = .ok loaded) ↔ files.Fit table) ∧
      (∀ loaded, table.load directory = .ok loaded → files.LiesOver table loaded) ∧
      ∀ error, table.load directory = .error error ↔ files.Reports table error :=
  ⟨load_ok_iff holds, fun _ => load_leaves holds, fun _ => load_eq_error_iff holds⟩

/-! ### Loading a directory twice -/

/-- A directory with an entity and a tile. -/
def patchData : Directory :=
  ⟨"data", [("entities.json", some ("[\x7b\"name\": \"marker\", \"kind\": \"logistic_container\", " ++
      "\"collision_box\": [0, 0, 1, 1]\x7d]")),
    ("tiles.json", some "[\x7b\"name\": \"mud\"\x7d]")]⟩

theorem exists_listed {α : Type} {outcome : Except LoadError (List α)} {name : α → String}
    {text : String} (names : outcome.toOption.map (·.map name) = some [text]) :
    ∃ entry, name entry = text ∧ outcome = .ok [entry] := by
  cases outcome with
  | error error => contradiction
  | ok entries =>
    obtain ⟨entry, rfl, same⟩ := List.map_eq_singleton_iff.mp (Option.some.inj names)
    exact ⟨entry, same, rfl⟩

theorem exists_holds_patchData : ∃ entity tile, entity.name = "marker" ∧ tile.name = "mud" ∧
    patchData.Holds ⟨⟨"entities.json", [entity]⟩, some ⟨"tiles.json", [tile]⟩, none⟩ := by
  obtain ⟨entity, marker, entities⟩ := @exists_listed _ (patchData.list "entities" EntityEntry.shape
    (fun _ => EntityEntry.read) ("entities.json", .json)) EntityEntry.name "marker" (by decide +kernel)
  obtain ⟨tile, mud, tiles⟩ := @exists_listed _ (patchData.list "tiles" TileEntry.shape
    (fun _ => TileEntry.read) ("tiles.json", .json)) TileEntry.name "mud" (by decide +kernel)
  exact ⟨entity, tile, marker, mud, ⟨.json, rfl, entities⟩, ⟨.json, rfl, tiles⟩, rfl⟩

/-- Loaded once more over what it left, the directory is refused for its tile. -/
theorem load_layers_patchData : ∃ files loaded, patchData.Holds files ∧
    PrototypeTable.load .empty patchData = .ok loaded ∧ (loaded.entity? "marker").isSome ∧
      loaded.load patchData = .error (.duplicateName "tiles.json" "mud") := by
  obtain ⟨entity, tile, marker, mud, holds⟩ := exists_holds_patchData
  obtain ⟨loaded, loads⟩ := exists_ok_of_isOk
    (show (load .empty patchData).isOk = true by decide +kernel)
  obtain ⟨fit, leaves, -⟩ := load_layers holds .empty
  obtain ⟨-, -, reports⟩ := load_layers holds loaded
  obtain ⟨made, -, found⟩ := (leaves loaded loads).entities.listed entity List.mem_cons_self
  obtain ⟨known, -, taken⟩ := (leaves loaded loads).tiles.listed tile List.mem_cons_self
  have clean := (DataFiles.fit_iff.mp (fit.mp ⟨loaded, loads⟩)).1
  rw [marker] at found
  refine ⟨_, loaded, holds, loads, by rw [found]; rfl, (reports _).mpr (.tile clean rfl ?_)⟩
  refine ⟨[], tile, [], rfl, eachAfter_nil, .inr ?_, by rw [mud]⟩
  rw [taken]
  rfl

end PrototypeTable
end FactoryBlueprint
