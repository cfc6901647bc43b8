import SchemaGen.Main
import SchemaGen.Proofs.Config.Layers
import SchemaGen.Proofs.Discovery.Complete
import SchemaGen.Proofs.Discovery.Extensions
import SchemaGen.Proofs.Discovery.Precedence
import SchemaGen.Proofs.Generation.Locality
import SchemaGen.Proofs.Generation.Reordering
import SchemaGen.Proofs.Generation.Selection
import SchemaGen.Proofs.Generation.Validation
import SchemaGen.Proofs.Model.Keeping
import SchemaGen.Proofs.Output.AllOrNone
import SchemaGen.Proofs.Project.AttributeOrder
import SchemaGen.Proofs.Project.Rendering
import SchemaGen.Proofs.Project.Rerun
import SchemaGen.Proofs.Model.Absorbing
import SchemaGen.Proofs.Model.Cascade
import SchemaGen.Proofs.Model.Demands
import SchemaGen.Proofs.Model.Grammar
import SchemaGen.Proofs.Model.Freeform
import SchemaGen.Proofs.Template.References
import SchemaGen.Proofs.Template.TypeNames
