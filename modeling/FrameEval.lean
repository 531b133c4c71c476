import FrameEval.Binary.Arithmetic
import FrameEval.Binary.Format
import FrameEval.Binary.Number
import FrameEval.Binary.Shortest
import FrameEval.Console
import FrameEval.Dialogue
import FrameEval.Elapsed
import FrameEval.EvalError
import FrameEval.Evaluation.Assignable
import FrameEval.Evaluation.Basic
import FrameEval.Evaluation.Context
import FrameEval.Evaluation.Run
import FrameEval.Evaluation.Step
import FrameEval.Exchange.Read
import FrameEval.Exchange.Script
import FrameEval.Exchange.Write
import FrameEval.Heap.Basic
import FrameEval.Heap.Member
import FrameEval.Instruction.Basic
import FrameEval.Instruction.Json
import FrameEval.Json.Basic
import FrameEval.Json.Decode
import FrameEval.Json.Parser
import FrameEval.Json.Printer
import FrameEval.Link.EventQueue
import FrameEval.Link.InvokingThreads
import FrameEval.Link.Resumption
import FrameEval.Link.Switchboard
import FrameEval.Link.Waits
import FrameEval.Main
import FrameEval.Main.Connection
import FrameEval.Main.Service
import FrameEval.Main.Waiting
import FrameEval.Member
import FrameEval.OperandStack
import FrameEval.Primitive.Basic
import FrameEval.Primitive.Kind
import FrameEval.Primitive.Operator
import FrameEval.Proofs.ArrayBounds
import FrameEval.Proofs.Assignability
import FrameEval.Proofs.Cancellation
import FrameEval.Proofs.ChangesLast
import FrameEval.Proofs.Conformance
import FrameEval.Proofs.Course
import FrameEval.Proofs.Evaluation.Conduct
import FrameEval.Proofs.Evaluation.Description
import FrameEval.Proofs.Evaluation.Effect
import FrameEval.Proofs.Evaluation.Misstep
import FrameEval.Proofs.Evaluation.Order
import FrameEval.Proofs.Evaluation.Regime
import FrameEval.Proofs.Evaluation.Search
import FrameEval.Proofs.Evaluation.Triple
import FrameEval.Proofs.Evaluation.Turn
import FrameEval.Proofs.EventDelivery
import FrameEval.Proofs.EventLayout
import FrameEval.Proofs.Expression
import FrameEval.Proofs.Failure
import FrameEval.Proofs.FrameAccess
import FrameEval.Proofs.Link.Custody
import FrameEval.Proofs.Link.History
import FrameEval.Proofs.Link.Numbering
import FrameEval.Proofs.PacketFraming
import FrameEval.Proofs.ReplyRouting
import FrameEval.Proofs.Resumption
import FrameEval.Proofs.StackDiscipline
import FrameEval.Proofs.Targets
import FrameEval.Proofs.ThrownException
import FrameEval.Proofs.ValueCodec
import FrameEval.Proofs.Wire.Reading
import FrameEval.Proofs.World.Keeping
import FrameEval.Remote.Answer
import FrameEval.Remote.Errand
import FrameEval.Remote.Hierarchy
import FrameEval.Remote.Operation
import FrameEval.Remote.TypeMetadata
import FrameEval.RemoteValue.Basic
import FrameEval.RemoteValue.Wire
import FrameEval.Server.Catalog
import FrameEval.Server.Dispatcher
import FrameEval.Server.Evaluation
import FrameEval.Server.Handler
import FrameEval.Server.Host
import FrameEval.Server.InFlight
import FrameEval.Server.Message
import FrameEval.Server.Query
import FrameEval.Server.SessionTable
import FrameEval.Server.Tool
import FrameEval.Session.Binding
import FrameEval.Session.ThreadTable
import FrameEval.Signature
import FrameEval.SymbolTable
import FrameEval.Table
import FrameEval.Text.Blank
import FrameEval.Text.Invisible
import FrameEval.Text.Numeral
import FrameEval.Text.Quoted
import FrameEval.Wire.Bytes
import FrameEval.Wire.Call.Basic
import FrameEval.Wire.Call.Invocation
import FrameEval.Wire.Call.Object
import FrameEval.Wire.Call.Target
import FrameEval.Wire.Call.Thread
import FrameEval.Wire.Call.Type
import FrameEval.Wire.ClientError
import FrameEval.Wire.ErrorCode
import FrameEval.Wire.Event
import FrameEval.Wire.Framing
import FrameEval.Wire.Handshake
import FrameEval.Wire.Packet
import FrameEval.Wire.Reader
import FrameEval.Wire.Value
import FrameEval.Wire.Variable
import FrameEval.Wire.Writer
import FrameEval.World.Answer
import FrameEval.World.Script
import FrameEval.Proofs.RequestCancellation
import FrameEval.Proofs.Server.Process
import FrameEval.Proofs.RequestAnswers
import FrameEval.Proofs.Session.Sharing
import FrameEval.Proofs.ThreadSharing
import FrameEval.Proofs.Link.Traffic
import FrameEval.Proofs.InFlightSuspension
import FrameEval.Proofs.Server.Serving
import FrameEval.Proofs.Heap.Lineage
import FrameEval.Proofs.Remote.Mirror
import FrameEval.Proofs.Remote.Likeness
import FrameEval.Proofs.MemberResolution
import FrameEval.Proofs.Binary.Shortest
import FrameEval.Proofs.Json.Real
import FrameEval.Proofs.Json.Text
import FrameEval.Proofs.TypeRecall
import FrameEval.Proofs.RunningRequests
import FrameEval.Proofs.Server.SessionCalls
import FrameEval.Proofs.SessionConsistency
import FrameEval.Proofs.Server.ToolEffect
import FrameEval.Proofs.SessionReach
import FrameEval.Proofs.Remote.Questions
import FrameEval.Proofs.ValueTrip
import FrameEval.Proofs.MemberSearch
import FrameEval.Proofs.Json.Reading
import FrameEval.Proofs.ProgramForm
import FrameEval.Proofs.Primitive.Integer
import FrameEval.Proofs.IntegralOperators
import FrameEval.Proofs.Shifts
import FrameEval.Proofs.IntegralCasts
import FrameEval.Proofs.DeclaredValues
import FrameEval.Proofs.Wire.Rows
import FrameEval.Proofs.ListReplies
import FrameEval.Proofs.MethodDescriptors
import FrameEval.Proofs.InvocationScopes
import FrameEval.Proofs.Remote.ScopedCalls
import FrameEval.Proofs.Link.Endings
import FrameEval.Proofs.InvocationRelease
import FrameEval.Proofs.StackOperations
import FrameEval.Proofs.Evaluation.Vocabulary
import FrameEval.Proofs.Evaluation.Journal
import FrameEval.Proofs.ProgramLocals
import FrameEval.Proofs.Remote.Inspection
import FrameEval.Proofs.ReadOnlyPrograms
import FrameEval.Proofs.Heap.Deeds
import FrameEval.Proofs.Heap.Referents
import FrameEval.Proofs.Heap.Register
import FrameEval.Proofs.World.Trail
import FrameEval.Proofs.HandleIdentity
import FrameEval.Proofs.Wire.Truncation
import FrameEval.Proofs.SignatureSplitting
import FrameEval.Proofs.LiveNames
import FrameEval.Proofs.Evaluation.Exhaustion
import FrameEval.Proofs.Evaluation.Mutations
import FrameEval.Proofs.ForwardPrograms
import FrameEval.Proofs.Text.Numeral
import FrameEval.Proofs.Json.Natural
import FrameEval.Proofs.ThreadIds
