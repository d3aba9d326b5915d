import KarpenterCore.GoMap
import KarpenterCore.Resources
import KarpenterCore.Requirements
import KarpenterCore.Types
import KarpenterCore.Node
import KarpenterCore.ExistingNode
import KarpenterCore.Scheduler
import KarpenterCore.Queue
import KarpenterCore.Solve
import KarpenterCore.NodeLife
import KarpenterCore.AddSpec
import KarpenterCore.Life
import KarpenterCore.Prospective
import KarpenterCore.Limits
import KarpenterCore.Partition
import KarpenterCore.Termination
import KarpenterCore.Controller
import KarpenterCore.State
import KarpenterCore.InFlight
import KarpenterCore.Hostnames
import KarpenterCore.Failures
import KarpenterCore.Convergence
import KarpenterCore.Growth
