import FeltLowering.Binary64
import FeltLowering.Cli
import FeltLowering.Cli.Build
import FeltLowering.Cli.Command
import FeltLowering.Cli.Console
import FeltLowering.Cli.Evaluate
import FeltLowering.Cli.Failure
import FeltLowering.Cli.Flag
import FeltLowering.Cli.Help
import FeltLowering.Cli.Tracing
import FeltLowering.Codec
import FeltLowering.Codec.Base64
import FeltLowering.Codec.Draft
import FeltLowering.Codec.Json
import FeltLowering.Codec.Json.Program
import FeltLowering.Codec.Json.Reader
import FeltLowering.Codec.Msgpack
import FeltLowering.Codec.Msgpack.Program
import FeltLowering.Codec.Number
import FeltLowering.Codec.Timestamp
import FeltLowering.Codec.Toml
import FeltLowering.Codec.Toml.Reader
import FeltLowering.Codec.Toml.Scalar
import FeltLowering.Codec.Yaml.Cursor
import FeltLowering.Codec.Yaml.Layout
import FeltLowering.Codec.Yaml.Node
import FeltLowering.Codec.Yaml.Program
import FeltLowering.Codec.Yaml.Scalar
import FeltLowering.Codec.Yaml.Source
import FeltLowering.Codec.Yaml.Token
import FeltLowering.Codec.Yaml.Value
import FeltLowering.Decimal
import FeltLowering.Felt
import FeltLowering.FileTree
import FeltLowering.Ir.Eval
import FeltLowering.Ir.Function
import FeltLowering.Ir.Literal
import FeltLowering.Ir.Metadata
import FeltLowering.Ir.Name
import FeltLowering.Ir.Printer
import FeltLowering.Ir.Type
import FeltLowering.Lowering.Body
import FeltLowering.Lowering.Compiler
import FeltLowering.Lowering.Declare
import FeltLowering.Lowering.Error
import FeltLowering.Lowering.Program
import FeltLowering.Lowering.Progress
import FeltLowering.Lowering.Registry
import FeltLowering.Lowering.Verify
import FeltLowering.Main
import FeltLowering.Manifest
import FeltLowering.Path
import FeltLowering.Path.Height
import FeltLowering.Power
import FeltLowering.Program
import FeltLowering.Program.Validity
import FeltLowering.Proofs.Cli.Build
import FeltLowering.Proofs.Cli.Console
import FeltLowering.Proofs.Cli.Readings
import FeltLowering.Proofs.Cli.Workers
import FeltLowering.Proofs.Codec
import FeltLowering.Proofs.Codec.Json
import FeltLowering.Proofs.Codec.Json.Program
import FeltLowering.Proofs.Codec.Msgpack
import FeltLowering.Proofs.Codec.Msgpack.Program
import FeltLowering.Proofs.Decimal
import FeltLowering.Proofs.FileTree
import FeltLowering.Proofs.Ir.Activation
import FeltLowering.Proofs.Ir.Agreement
import FeltLowering.Proofs.Ir.BitVector
import FeltLowering.Proofs.Ir.CallDepth
import FeltLowering.Proofs.Ir.Evaluation
import FeltLowering.Proofs.Ir.Name
import FeltLowering.Proofs.Ir.Printer
import FeltLowering.Proofs.Ir.Remainder
import FeltLowering.Proofs.Ir.TwosComplement
import FeltLowering.Proofs.Ir.WellFormed
import FeltLowering.Proofs.Lowering.Acceptance
import FeltLowering.Proofs.Lowering.Account
import FeltLowering.Proofs.Lowering.Arithmetic
import FeltLowering.Proofs.Lowering.Cancellation
import FeltLowering.Proofs.Lowering.Code
import FeltLowering.Proofs.Lowering.Constant
import FeltLowering.Proofs.Lowering.Declaration
import FeltLowering.Proofs.Lowering.Emission
import FeltLowering.Proofs.Lowering.Erasure
import FeltLowering.Proofs.Lowering.Events
import FeltLowering.Proofs.Lowering.Failure
import FeltLowering.Proofs.Lowering.FieldOps
import FeltLowering.Proofs.Lowering.Gate
import FeltLowering.Proofs.Lowering.Graph
import FeltLowering.Proofs.Lowering.Growth
import FeltLowering.Proofs.Lowering.HelperDeclaration
import FeltLowering.Proofs.Lowering.InUse
import FeltLowering.Proofs.Lowering.Invariant
import FeltLowering.Proofs.Lowering.Inversion
import FeltLowering.Proofs.Lowering.Levels
import FeltLowering.Proofs.Lowering.Lines
import FeltLowering.Proofs.Lowering.Metadata
import FeltLowering.Proofs.Lowering.Mirror
import FeltLowering.Proofs.Lowering.Order
import FeltLowering.Proofs.Lowering.Outcome
import FeltLowering.Proofs.Lowering.Reduction
import FeltLowering.Proofs.Lowering.Requests
import FeltLowering.Proofs.Lowering.Resolution
import FeltLowering.Proofs.Lowering.Shadow
import FeltLowering.Proofs.Lowering.Totality
import FeltLowering.Proofs.Lowering.Typing
import FeltLowering.Proofs.Lowering.WellFormed
import FeltLowering.Proofs.Manifest
import FeltLowering.Proofs.Program.Validity
import FeltLowering.Proofs.Settings
import FeltLowering.Proofs.Text.Blank
import FeltLowering.Proofs.Text.Normal
import FeltLowering.Proofs.Text.Utf8
import FeltLowering.Proofs.Timing
import FeltLowering.Proofs.Trace.Amendment
import FeltLowering.Proofs.Trace.Ensemble
import FeltLowering.Proofs.Trace.Forest
import FeltLowering.Proofs.Trace.Ndjson
import FeltLowering.Proofs.Trace.Ring
import FeltLowering.Release
import FeltLowering.Settings
import FeltLowering.Text
import FeltLowering.Text.Blank
import FeltLowering.Text.Cluster
import FeltLowering.Text.Cluster.Classes
import FeltLowering.Text.Fold
import FeltLowering.Text.Lower
import FeltLowering.Text.Normal
import FeltLowering.Text.Normal.CombiningClass
import FeltLowering.Text.Normal.Composition
import FeltLowering.Text.Normal.Decomposition
import FeltLowering.Text.Normal.Modifiers
import FeltLowering.Text.Printable
import FeltLowering.Text.Quoted
import FeltLowering.Text.Ranges
import FeltLowering.Text.Utf8
import FeltLowering.Text.Width
import FeltLowering.Timing
import FeltLowering.Trace.Event
import FeltLowering.Trace.Format
import FeltLowering.Trace.Journal
import FeltLowering.Trace.Level
import FeltLowering.Trace.Tracer
