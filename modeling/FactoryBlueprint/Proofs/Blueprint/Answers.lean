import FactoryBlueprint.Blueprint.Export
import FactoryBlueprint.Proofs.Blueprint.Operation
import FactoryBlueprint.Proofs.Blueprint.Refilling
import FactoryBlueprint.Proofs.EntityList.Tandem
import FactoryBlueprint.Proofs.TileList.Twins

/-! # Answers to calls

`Operation.answer` is what a call gives back, beside the blueprint that it leaves, and
`Operation.raised` is what there is to warn of in the objects that it places. A `trace` is what is
seen of a sequence of calls: all this, and the document that is written after every call.

`Operation.relist` is the call with its arguments in lists under other ids, for a blueprint whose
lists were renamed so. `Operation.Decided` says that a call leaves no choice where it merges.
-/

namespace FactoryBlueprint

/-- What a call gives back when it succeeds. -/
inductive Answer where
  | done
  | placed (placement : Placement)
  | item (item : Item)
  | tile (tile : Tile)
  | schedule (schedule : Schedule Association)
  | stop (stop : Option Stop)
  | warnings (warnings : List Warning)

/-- The same answer, up to the lists that it refers into and the order in which the overlaps of one
object are told: what is told of placed objects is what was raised on that side. -/
inductive Answer.Alike (rename : Equiv.Perm ListId) (mode : ValidationMode) (raised others : Raised) :
    Answer → Answer → Prop
  | done : Alike rename mode raised others .done .done
  | placed {placement other : Placement} (alike : placement.Alike mode raised others other) :
      Alike rename mode raised others (.placed placement) (.placed other)
  | item (item : Item) :
      Alike rename mode raised others (.item item) (.item (item.relist rename))
  | tile (tile : Tile) : Alike rename mode raised others (.tile tile) (.tile tile)
  | schedule (schedule : Schedule Association) :
      Alike rename mode raised others (.schedule schedule) (.schedule (schedule.relist rename))
  | stop (stop : Option Stop) : Alike rename mode raised others (.stop stop) (.stop stop)
  | warnings (warnings : List Warning) :
      Alike rename mode raised others (.warnings warnings) (.warnings warnings)
  | told {warnings later : List Warning} (told : raised.Told mode others warnings later) :
      Alike rename mode raised others (.warnings warnings) (.warnings later)

namespace Blueprint

/-- What there is to warn of in an item that is added: first in itself, then what it overlaps. -/
def raisedByItem (blueprint : Blueprint) (item : Item) (merge : Bool) : Raised :=
  item.warnings blueprint.table ::
    EntityList.overlapsOf blueprint.table merge .top item blueprint.entities

def raisedByTile (blueprint : Blueprint) (tile : Tile) (merge : Bool) : Raised :=
  tile.warnings blueprint.table :: blueprint.tiles.overlapsOf blueprint.table tile merge

/-- What there is to warn of in values that are placed one after the other until one fails. -/
def raisedByEach {α : Type} (place : Blueprint → α → Edited Placement)
    (raised : Blueprint → α → Raised) (blueprint : Blueprint) : List α → Raised
  | [] => []
  | value :: values =>
    raised blueprint value ++
      match place blueprint value with
      | (after, .ok _) => raisedByEach place raised after values
      | (_, .error _) => []

end Blueprint

namespace Operation

/-- What a call answers. -/
def answer (blueprint : Blueprint) : Operation → Except Error Answer
  | setLabelColor color => (blueprint.setLabelColor color).2.map fun _ => .done
  | setIcons icons => (blueprint.setIcons icons).2.map fun _ => .done
  | setIconsByName names => (blueprint.setIconsByName names).2.map fun _ => .done
  | setVersionComponents components =>
    (blueprint.setVersionComponents components).2.map fun _ => .done
  | recalculate => blueprint.recalculate.2.map fun _ => .done
  | insertEntity i item merge => (blueprint.insertEntity i item merge).2.map .placed
  | addEntity item merge => (blueprint.addEntity item merge).2.map .placed
  | setEntity i item => (blueprint.setEntity i item).2.map .placed
  | removeEntity i => (blueprint.removeEntity i).2.map .item
  | removeEntityKey key => (blueprint.removeEntityKey key).2.map .item
  | modifyEntity key f => (blueprint.modifyEntity key f).2.map fun _ => .done
  | setEntities list items => (blueprint.setEntities list items).2.map .warnings
  | insertTile i tile merge => (blueprint.insertTile i tile merge).2.map .placed
  | addTile tile merge => (blueprint.addTile tile merge).2.map .placed
  | setTile i tile => (blueprint.setTile i tile).2.map .placed
  | removeTile i => (blueprint.removeTile i).2.map .tile
  | setTiles tiles => (blueprint.setTiles tiles).2.map .warnings
  | insertSchedule i schedule => (blueprint.insertSchedule i schedule).2.map fun _ => .done
  | setSchedule i schedule => (blueprint.setSchedule i schedule).2.map .schedule
  | removeSchedule i => (blueprint.removeSchedule i).2.map .schedule
  | removeStop i station => (blueprint.removeStop i station).2.map .stop
  | addLocomotive i key => (blueprint.addLocomotive i key).2.map fun _ => .done
  | removeLocomotive i key => (blueprint.removeLocomotive i key).2.map fun _ => .done
  | addCircuit color a b sideA sideB =>
    (blueprint.addCircuit color a b sideA sideB).2.map .warnings
  | removeCircuit color a b sideA sideB =>
    (blueprint.removeCircuit color a b sideA sideB).2.map fun _ => .done
  | addPower a b => (blueprint.addPower a b).2.map .warnings
  | removePower a b => (blueprint.removePower a b).2.map fun _ => .done
  | removeAllPower key => (blueprint.removeAllPower key).2.map fun _ => .done
  | addCopper switch side pole => (blueprint.addCopper switch side pole).2.map fun _ => .done
  | removeCopper switch side pole => (blueprint.removeCopper switch side pole).2.map fun _ => .done
  | _ => .ok .done

/-- What there is to warn of in the objects that a call places. -/
def raised (blueprint : Blueprint) : Operation → Raised
  | insertEntity _ item merge => blueprint.raisedByItem item merge
  | addEntity item merge => blueprint.raisedByItem item merge
  | setEntity i item => item.warnings blueprint.table ::
      EntityList.overlapsOf blueprint.table false .top item (blueprint.entities.vacated i)
  | setEntities list items => Blueprint.raisedByEach (·.addEntity · false) (·.raisedByItem · false)
      (blueprint.resetEntities list) items
  | insertTile _ tile merge => blueprint.raisedByTile tile merge
  | addTile tile merge => blueprint.raisedByTile tile merge
  | setTile i tile => [tile.warnings blueprint.table,
      (blueprint.tiles.vacated i).collisions blueprint.table tile]
  | setTiles tiles => Blueprint.raisedByEach (·.addTile · false) (·.raisedByTile · false)
      blueprint.resetTiles tiles
  | _ => []

/-- The call with what it is given in lists under other ids. Edits are made as under the old ids. -/
def relist (rename : Equiv.Perm ListId) : Operation → Operation
  | insertEntity i item merge => insertEntity i (item.relist rename) merge
  | addEntity item merge => addEntity (item.relist rename) merge
  | setEntity i item => setEntity i (item.relist rename)
  | modifyEntity key f =>
    modifyEntity key fun entity => (f (entity.relist rename.symm)).relist rename
  | setEntities list items => setEntities (rename list) (Item.relistAll rename items)
  | addSchedule schedule => addSchedule (schedule.relist rename)
  | insertSchedule i schedule => insertSchedule i (schedule.relist rename)
  | setSchedule i schedule => setSchedule i (schedule.relist rename)
  | editSchedules f => editSchedules fun schedules =>
      (f (schedules.map (·.relist rename.symm))).map (·.relist rename)
  | duplicate list => duplicate (rename list)
  | operation => operation

/-- Wherever the call comes to place something and merge it, at most one object there could absorb
it. -/
def Decided (blueprint : Blueprint) : Operation → Prop
  | insertEntity i item merge => merge = true → i ≤ blueprint.entities.length →
      (blueprint.mode.accept (item.warnings blueprint.table)).isOk →
      EntityList.Decides blueprint.table .top item blueprint.entities
  | addEntity item merge => merge = true →
      (blueprint.mode.accept (item.warnings blueprint.table)).isOk →
      EntityList.Decides blueprint.table .top item blueprint.entities
  | insertTile i tile merge => merge = true → i ≤ blueprint.tiles.length →
      (blueprint.mode.accept (tile.warnings blueprint.table)).isOk → blueprint.tiles.Unrivalled tile
  | addTile tile merge => merge = true →
      (blueprint.mode.accept (tile.warnings blueprint.table)).isOk → blueprint.tiles.Unrivalled tile
  | _ => True

end Operation

namespace Blueprint

/-- Every call of a sequence is decided where it comes. -/
def Decides (blueprint : Blueprint) : List Operation → Prop
  | [] => True
  | operation :: rest => operation.Decided blueprint ∧ Decides (operation.apply blueprint) rest

/-- What is seen of a call: the mode in which it is made, what there is to warn of, the answer, and
what is written then. -/
structure Seen where
  mode : ValidationMode
  raised : Raised
  answer : Except Error Answer
  document : Except Error Document

/-- What is seen of a sequence of calls. -/
def trace (blueprint : Blueprint) : List Operation → List Seen
  | [] => []
  | operation :: rest =>
    ⟨blueprint.mode, operation.raised blueprint, operation.answer blueprint,
      (operation.apply blueprint).toDocument⟩ :: trace (operation.apply blueprint) rest

/-- The same is seen of one call on two blueprints: answers that are alike, and the same document. -/
structure SeenAlike (rename : Equiv.Perm ListId) (seen other : Seen) : Prop where
  mode : other.mode = seen.mode
  answers : OutcomesAlike (Error.Alike seen.mode seen.raised other.raised)
    (Answer.Alike rename seen.mode seen.raised other.raised) seen.answer other.answer
  document : other.document = seen.document

/-- Where no object overlaps several others, a call that fails on one side fails with the same error
on the other. -/
theorem SeenAlike.error_eq {rename : Equiv.Perm ListId} {seen other : Seen} {error : Error}
    (alike : SeenAlike rename seen other) (single : ∀ found ∈ seen.raised, found.length ≤ 1)
    (failed : seen.answer = .error error) : other.answer = .error error := by
  have answers := alike.answers
  rw [failed] at answers
  generalize other.answer = answer at answers ⊢
  cases answers with
  | error alike => rw [alike.eq_of_single single]

end Blueprint
end FactoryBlueprint
