import NetLink.Lib.Prog
import NetLink.Lib.Kernel
import NetLink.Lib.Loop
import NetLink.Lib.Poll
import NetLink.Lib.Inflow
import NetLink.Lib.Utf8
import NetLink.Lib.Signature
import NetLink.Lib.Variant
import NetLink.Model.Core
import NetLink.Model.Posix
import NetLink.Model.ReleaseManager
import NetLink.Model.Socket
import NetLink.Model.Js
import NetLink.Model.ArgParser
import NetLink.Model.Wrapper
import NetLink.Proof.Rounds
import NetLink.Proof.Kinds
import NetLink.Kernel.Udp
import NetLink.Proof.ReceiveFrom
import NetLink.Kernel.Tcp
import NetLink.Proof.BlockingReceive
import NetLink.Kernel.Script
import NetLink.Proof.ReadFailure
import NetLink.Kernel.Stream
import NetLink.Proof.Integrity
import NetLink.Kernel.Outbox
import NetLink.Proof.SendTo
import NetLink.Kernel.Log
import NetLink.Proof.Resolver
import NetLink.Kernel.Os
import NetLink.Proof.Methods
import NetLink.Proof.Constructors
import NetLink.Proof.Leaks
import NetLink.Proof.Effect
import NetLink.Proof.Lifecycle
import NetLink.Proof.Modes
import NetLink.Kernel.Candidates
import NetLink.Proof.Fallback
import NetLink.Proof.PendingCount
import NetLink.Proof.NonBlockingReceive
import NetLink.Kernel.Arrivals
import NetLink.Proof.Termination
import NetLink.Kernel.SendScript
import NetLink.Proof.Chain
import NetLink.Proof.Retry
import NetLink.Kernel.Accepting
import NetLink.Proof.Accept
import NetLink.Proof.Text
import NetLink.Proof.Payload
import NetLink.Proof.Grammar
import NetLink.Model.SocketGroup
import NetLink.Model.Exports
import NetLink.Kernel.Listening
import NetLink.Lib.Walk
import NetLink.Proof.Dispatch
import NetLink.Proof.Listen
import NetLink.Lib.Interference
import NetLink.Kernel.Network
import NetLink.Proof.Traffic
import NetLink.Lib.Overlay
import NetLink.Kernel.Ports
import NetLink.Proof.Ports
import NetLink.Proof.Exports
import NetLink.Proof.Failures
import NetLink.Proof.Waiting
import NetLink.Lib.Heap
import NetLink.Model.SmartBuffer
import NetLink.Kernel.Feed
import NetLink.Proof.SmartBuffer
import NetLink.Proof.Buffers
import NetLink.Kernel.Tape
import NetLink.Proof.Connections
