import Microbatch.Accuracy.Comparison
import Microbatch.Accuracy.Metric
import Microbatch.Accuracy.RelativeError
import Microbatch.Accuracy.Report
import Microbatch.Anchor.Buffer
import Microbatch.Anchor.Layout
import Microbatch.Anchor.Policy
import Microbatch.Anchor.Registry
import Microbatch.Bytes
import Microbatch.CommandLine.Arguments
import Microbatch.CommandLine.Console
import Microbatch.CommandLine.Execution
import Microbatch.CommandLine.Fault
import Microbatch.CommandLine.Grammar
import Microbatch.CommandLine.Models
import Microbatch.CommandLine.Run
import Microbatch.CommandLine.Usage
import Microbatch.CommandLine.Values
import Microbatch.DataFlow
import Microbatch.Decimal.Binary
import Microbatch.Decimal.Fixed
import Microbatch.Decimal.Reading
import Microbatch.Decimal.Shortest
import Microbatch.Device.Basic
import Microbatch.Device.Host
import Microbatch.Device.Scripted
import Microbatch.Exchange.Builder
import Microbatch.Exchange.Decoding
import Microbatch.Exchange.Demo
import Microbatch.Exchange.Encoding
import Microbatch.Exchange.Initializer
import Microbatch.Exchange.Load
import Microbatch.Exchange.Message
import Microbatch.Exchange.Wire
import Microbatch.Fault.Basic
import Microbatch.Fault.Configuration
import Microbatch.Fault.Device
import Microbatch.Fault.File
import Microbatch.Fault.Model
import Microbatch.Files.Directories
import Microbatch.Files.Path
import Microbatch.Files.Store
import Microbatch.Files.Tree
import Microbatch.Folding
import Microbatch.Graph
import Microbatch.Main
import Microbatch.NameMap
import Microbatch.Numeral
import Microbatch.Program.Backward
import Microbatch.Program.Basic
import Microbatch.Program.Compile
import Microbatch.Program.Forward
import Microbatch.Program.Kernel
import Microbatch.Proofs.Admission
import Microbatch.Proofs.Allocation
import Microbatch.Proofs.BufferRanges
import Microbatch.Proofs.BuilderCalls
import Microbatch.Proofs.Building
import Microbatch.Proofs.CheckedNumerics
import Microbatch.Proofs.Checkpoints
import Microbatch.Proofs.Codec
import Microbatch.Proofs.ComparisonSymmetry
import Microbatch.Proofs.Comparisons
import Microbatch.Proofs.Compilation
import Microbatch.Proofs.Datasets
import Microbatch.Proofs.Declarations
import Microbatch.Proofs.Dependence
import Microbatch.Proofs.Doubles
import Microbatch.Proofs.ElementCounts
import Microbatch.Proofs.Entries
import Microbatch.Proofs.ExactNumbers
import Microbatch.Proofs.Execution
import Microbatch.Proofs.FailedMicroBatches
import Microbatch.Proofs.Faulted
import Microbatch.Proofs.Feeds
import Microbatch.Proofs.Fetching
import Microbatch.Proofs.Filling
import Microbatch.Proofs.HostDevice
import Microbatch.Proofs.HostSession
import Microbatch.Proofs.KernelLoops
import Microbatch.Proofs.Kernels
import Microbatch.Proofs.Lanes
import Microbatch.Proofs.LastPush
import Microbatch.Proofs.Layouts
import Microbatch.Proofs.LoadedGraphs
import Microbatch.Proofs.MergedModels
import Microbatch.Proofs.Merging
import Microbatch.Proofs.Names
import Microbatch.Proofs.NodeOrder
import Microbatch.Proofs.Noninterference
import Microbatch.Proofs.Numerals
import Microbatch.Proofs.Observers
import Microbatch.Proofs.Outcomes
import Microbatch.Proofs.Payloads
import Microbatch.Proofs.ProductSizes
import Microbatch.Proofs.Registrations
import Microbatch.Proofs.Requests
import Microbatch.Proofs.Resets
import Microbatch.Proofs.Shapes
import Microbatch.Proofs.SideBySide
import Microbatch.Proofs.SingleSums
import Microbatch.Proofs.Slopes
import Microbatch.Proofs.Soundness
import Microbatch.Proofs.StepBuffers
import Microbatch.Proofs.StepSplitting
import Microbatch.Proofs.StoredTensors
import Microbatch.Proofs.Sums
import Microbatch.Proofs.Sweeps
import Microbatch.Proofs.Tangents
import Microbatch.Proofs.Targets
import Microbatch.Proofs.TrainedWeights
import Microbatch.Proofs.Typing
import Microbatch.Proofs.Views
import Microbatch.Proofs.WeightResets
import Microbatch.Proofs.WeightShapes
import Microbatch.Proofs.Wire
import Microbatch.Proofs.WorkerQueue
import Microbatch.Proofs.WrittenValues
import Microbatch.Scalar
import Microbatch.Session.Basic
import Microbatch.Session.Export
import Microbatch.Session.Inputs
import Microbatch.Session.Loader
import Microbatch.Session.Shared
import Microbatch.Session.Step
import Microbatch.Session.Worker
import Microbatch.Single
import Microbatch.Size
import Microbatch.Target
import Microbatch.Tensor.Basic
import Microbatch.Tensor.Cursor
import Microbatch.Tensor.ElementType
import Microbatch.Tensor.Info
import Microbatch.Tensor.Shape
import Microbatch.Text.Blank
import Microbatch.Text.Pieces
import Microbatch.Training
import Microbatch.Weights
