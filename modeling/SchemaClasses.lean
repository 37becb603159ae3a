import SchemaClasses.Class.Document
import SchemaClasses.CommandLine.FileTree
import SchemaClasses.CommandLine.Run
import SchemaClasses.Generator
import SchemaClasses.Main
import SchemaClasses.Query.Run
import SchemaClasses.Schema.Resolution
import SchemaClasses.Settings.Reader
import SchemaClasses.Source.Render
import SchemaClasses.Proofs.Class.AccessorOrder
import SchemaClasses.Proofs.Class.Accessors
import SchemaClasses.Proofs.Class.Assembled
import SchemaClasses.Proofs.Class.Basic
import SchemaClasses.Proofs.Class.Chain
import SchemaClasses.Proofs.Class.Closure
import SchemaClasses.Proofs.Class.Documented
import SchemaClasses.Proofs.Class.EnumException
import SchemaClasses.Proofs.Class.FirstAlternative
import SchemaClasses.Proofs.Class.FittingPair
import SchemaClasses.Proofs.Class.History
import SchemaClasses.Proofs.Class.Imports
import SchemaClasses.Proofs.Class.Lookup
import SchemaClasses.Proofs.Class.Order
import SchemaClasses.Proofs.Class.Orderly
import SchemaClasses.Proofs.Class.Origin
import SchemaClasses.Proofs.Class.Properties
import SchemaClasses.Proofs.Class.PropertyOrder
import SchemaClasses.Proofs.Class.Rebuild
import SchemaClasses.Proofs.Class.Reordered
import SchemaClasses.Proofs.Class.Replay
import SchemaClasses.Proofs.Class.Spreading
import SchemaClasses.Proofs.Class.Telltale
import SchemaClasses.Proofs.Class.TypesMoved
import SchemaClasses.Proofs.Class.Unreached
import SchemaClasses.Proofs.Class.Untyped
import SchemaClasses.Proofs.Generator.Basic
import SchemaClasses.Proofs.Generator.EnumException
import SchemaClasses.Proofs.Generator.FittingPair
import SchemaClasses.Proofs.Generator.Getters
import SchemaClasses.Proofs.Generator.Hints
import SchemaClasses.Proofs.Generator.Imports
import SchemaClasses.Proofs.Generator.Merge
import SchemaClasses.Proofs.Generator.Nullable
import SchemaClasses.Proofs.Generator.Order
import SchemaClasses.Proofs.Generator.Origin
import SchemaClasses.Proofs.Generator.Paths
import SchemaClasses.Proofs.Generator.RawArray
import SchemaClasses.Proofs.Generator.Rebuild
import SchemaClasses.Proofs.Generator.Root
import SchemaClasses.Proofs.Generator.Untyped
import SchemaClasses.Proofs.Json.Pointer
import SchemaClasses.Proofs.Json.Rearranged
import SchemaClasses.Proofs.Run
import SchemaClasses.Proofs.Schema.Agreement
import SchemaClasses.Proofs.Schema.EntryOrder
import SchemaClasses.Proofs.Schema.Inlining
import SchemaClasses.Proofs.Schema.Lowering
import SchemaClasses.Proofs.Schema.Moments
import SchemaClasses.Proofs.Schema.Node
import SchemaClasses.Proofs.Schema.Places
import SchemaClasses.Proofs.Schema.Stands
import SchemaClasses.Proofs.Schema.WellFormed
import SchemaClasses.Proofs.Settings.Accepted
import SchemaClasses.Proofs.Source.DistinctFiles
import SchemaClasses.Proofs.Source.KeptMembers
import SchemaClasses.Proofs.Source.Literal
import SchemaClasses.Proofs.Source.Replacement
import SchemaClasses.Proofs.Source.Types
import SchemaClasses.Proofs.Source.WholeMembers
import SchemaClasses.Proofs.Template.Capture
import SchemaClasses.Proofs.Template.Enum
import SchemaClasses.Proofs.Text.Twice
