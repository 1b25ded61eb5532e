import FactoryBlueprint.Blueprint.Contents
import FactoryBlueprint.Blueprint.Import
import FactoryBlueprint.Blueprint.Inspection
import FactoryBlueprint.Blueprint.Wiring
import FactoryBlueprint.DataFile.Loader
import FactoryBlueprint.Sample
import FactoryBlueprint.Prototype.Vanilla
import FactoryBlueprint.Proofs.Store.Tenancy
import FactoryBlueprint.Proofs.Store.SpatialIndex
import FactoryBlueprint.Proofs.Document.Fields
import FactoryBlueprint.Proofs.EntityList.Coherence
import FactoryBlueprint.Proofs.TileList.Coherence
import FactoryBlueprint.Proofs.Blueprint.Appending
import FactoryBlueprint.Proofs.Blueprint.Change
import FactoryBlueprint.Proofs.Blueprint.Integrity
import FactoryBlueprint.Proofs.Blueprint.References
import FactoryBlueprint.Proofs.Blueprint.Import
import FactoryBlueprint.Proofs.Blueprint.Rewriting
import FactoryBlueprint.Proofs.Number.Binary64
import FactoryBlueprint.Proofs.RoundTrip.Kept
import FactoryBlueprint.Proofs.RoundTrip.Schedules
import FactoryBlueprint.Proofs.Blueprint.Extent
import FactoryBlueprint.Proofs.Blueprint.Ranges
import FactoryBlueprint.Proofs.RoundTrip.Documents
import FactoryBlueprint.Proofs.RoundTrip.Rereading
import FactoryBlueprint.Proofs.Blueprint.Inspection
import FactoryBlueprint.Proofs.Blueprint.Readable
import FactoryBlueprint.Proofs.RoundTrip.Blueprints
import FactoryBlueprint.Proofs.EntityList.Altering
import FactoryBlueprint.Proofs.Blueprint.Refusal
import FactoryBlueprint.Proofs.EntityList.Revising
import FactoryBlueprint.Proofs.Blueprint.Effects
import FactoryBlueprint.Proofs.Blueprint.Wiring
import FactoryBlueprint.Proofs.World.Identity
import FactoryBlueprint.Proofs.World.Issued
import FactoryBlueprint.Proofs.Blueprint.Anchored
import FactoryBlueprint.Proofs.Blueprint.CircuitWires
import FactoryBlueprint.Proofs.Blueprint.CopperWires
import FactoryBlueprint.Proofs.Blueprint.Neighbours
import FactoryBlueprint.Proofs.Blueprint.PoleWires
import FactoryBlueprint.Proofs.Blueprint.WiringRefusal
import FactoryBlueprint.Proofs.Number.Extremes
import FactoryBlueprint.Proofs.Geometry.Union
import FactoryBlueprint.Proofs.Blueprint.Covering
import FactoryBlueprint.Proofs.Blueprint.Limit
import FactoryBlueprint.Proofs.Blueprint.Recalculation
import FactoryBlueprint.Proofs.Store.Cells
import FactoryBlueprint.Proofs.Blueprint.Filing
import FactoryBlueprint.Proofs.EntityList.Grounding
import FactoryBlueprint.Proofs.Blueprint.Renumbering
import FactoryBlueprint.Proofs.Blueprint.Grouping
import FactoryBlueprint.Proofs.Vetting
import FactoryBlueprint.Proofs.Blueprint.ReadingModes
import FactoryBlueprint.Proofs.Blueprint.AssignmentModes
import FactoryBlueprint.Proofs.RoundTrip.Independence
import FactoryBlueprint.Proofs.Blueprint.Modes
import FactoryBlueprint.Proofs.Store.Clashes
import FactoryBlueprint.Proofs.Blueprint.Overlaps
import FactoryBlueprint.Proofs.Blueprint.PlacementWarnings
import FactoryBlueprint.Proofs.EntityList.Accounting
import FactoryBlueprint.Proofs.Number.Monotone
import FactoryBlueprint.Proofs.Store.Reach
import FactoryBlueprint.Proofs.Blueprint.Insertion
import FactoryBlueprint.Proofs.Blueprint.Clones
import FactoryBlueprint.Proofs.Blueprint.Replacement
import FactoryBlueprint.Proofs.Codec.BlueprintString
import FactoryBlueprint.Proofs.Store.Register
import FactoryBlueprint.Proofs.Blueprint.Meetings
import FactoryBlueprint.Proofs.Blueprint.Restoration
import FactoryBlueprint.Proofs.Entity.Merging
import FactoryBlueprint.Proofs.Geometry.Width
import FactoryBlueprint.Proofs.Blueprint.Idempotence
import FactoryBlueprint.Proofs.Blueprint.Attempts
import FactoryBlueprint.Proofs.Connections.Inverse
import FactoryBlueprint.Proofs.EntityList.Cutting
import FactoryBlueprint.Proofs.Blueprint.Removal
import FactoryBlueprint.Proofs.Blueprint.WireUndo
import FactoryBlueprint.Proofs.Entity.Folding
import FactoryBlueprint.Proofs.DataFile.Loading
import FactoryBlueprint.Proofs.Blueprint.IdLookup
