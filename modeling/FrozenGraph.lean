import FrozenGraph.Decimal.Basic
import FrozenGraph.Decimal.Binary
import FrozenGraph.Decimal.Shortest
import FrozenGraph.Decimal.Style
import FrozenGraph.Freeze.Accessors
import FrozenGraph.Freeze.Canned
import FrozenGraph.Freeze.Chain
import FrozenGraph.Freeze.Code
import FrozenGraph.Freeze.Encode
import FrozenGraph.Freeze.Ledger
import FrozenGraph.Freeze.Memo
import FrozenGraph.Freeze.Node
import FrozenGraph.Freeze.Origins
import FrozenGraph.Freeze.Render
import FrozenGraph.Freeze.Route
import FrozenGraph.Freeze.Session
import FrozenGraph.Freeze.Snapshot
import FrozenGraph.Freeze.Walk
import FrozenGraph.Graph.Heap
import FrozenGraph.Graph.Identity
import FrozenGraph.Graph.Scalar
import FrozenGraph.Graph.Script
import FrozenGraph.Graph.Value
import FrozenGraph.Logging.Verbosity
import FrozenGraph.Record.Attribute
import FrozenGraph.Record.Contents
import FrozenGraph.Record.Derivation
import FrozenGraph.Record.Instance
import FrozenGraph.Record.Token
import FrozenGraph.Record.Words
import FrozenGraph.Registry.Expansions
import FrozenGraph.Registry.Scope
import FrozenGraph.Report
import FrozenGraph.Sample.Everything
import FrozenGraph.Sample.Family
import FrozenGraph.Source.Expr
import FrozenGraph.Source.Layout
import FrozenGraph.Source.LayoutSettings
import FrozenGraph.Source.Literal
import FrozenGraph.Text.Hex
import FrozenGraph.Text.Json
import FrozenGraph.Text.Quoted
import FrozenGraph.Types.Declared
import FrozenGraph.Types.Name
import FrozenGraph.Types.Runtime
import FrozenGraph.Types.Target
import FrozenGraph.Unicode.Alphanumeric
import FrozenGraph.Unicode.Blank
import FrozenGraph.Unicode.Case
import FrozenGraph.Unicode.Extending
import FrozenGraph.Unicode.Ranges
import FrozenGraph.Unicode.Unprintable
import FrozenGraph.Main
import FrozenGraph.Proofs.Printed
import FrozenGraph.Proofs.Relaid
import FrozenGraph.Proofs.Walked
import FrozenGraph.Proofs.Framed
import FrozenGraph.Proofs.Ready
import FrozenGraph.Proofs.Routed
import FrozenGraph.Proofs.Traced
import FrozenGraph.Proofs.Rooted
import FrozenGraph.Proofs.Assembled
import FrozenGraph.Proofs.Once
import FrozenGraph.Proofs.Unfolded
import FrozenGraph.Proofs.Coherent
import FrozenGraph.Proofs.Supplied
import FrozenGraph.Proofs.Shared
import FrozenGraph.Proofs.Cyclic
import FrozenGraph.Proofs.Targeted
import FrozenGraph.Proofs.Answered
import FrozenGraph.Proofs.Declared
import FrozenGraph.Proofs.Restored
import FrozenGraph.Proofs.Substituted
import FrozenGraph.Proofs.Confined
import FrozenGraph.Proofs.Bounded
import FrozenGraph.Proofs.Attained
import FrozenGraph.Proofs.Mirrored
import FrozenGraph.Proofs.Nested
import FrozenGraph.Proofs.Held
import FrozenGraph.Proofs.Lived
import FrozenGraph.Proofs.Named
import FrozenGraph.Proofs.Scanned
import FrozenGraph.Proofs.Indented
import FrozenGraph.Proofs.Lexed
import FrozenGraph.Proofs.Spelled
import FrozenGraph.Proofs.Parsed
import FrozenGraph.Proofs.Distinguished
import FrozenGraph.Proofs.Loaded
import FrozenGraph.Proofs.Failed
import FrozenGraph.Proofs.Frozen
import FrozenGraph.Proofs.Exchanged
import FrozenGraph.Proofs.Traded
import FrozenGraph.Proofs.Reloaded
import FrozenGraph.Proofs.Renamed
import FrozenGraph.Proofs.Followed
import FrozenGraph.Proofs.Moved
import FrozenGraph.Proofs.Unnamed
import FrozenGraph.Proofs.Reformatted
import FrozenGraph.Proofs.Embedded
import FrozenGraph.Proofs.Visited
import FrozenGraph.Proofs.Reported
import FrozenGraph.Proofs.Blamed
import FrozenGraph.Proofs.Compiled
import FrozenGraph.Proofs.Registered
import FrozenGraph.Proofs.Inherited
import FrozenGraph.Proofs.Noted
import FrozenGraph.Proofs.Fitted
import FrozenGraph.Proofs.Ordered
import FrozenGraph.Proofs.Admitted
import FrozenGraph.Proofs.Derived
import FrozenGraph.Proofs.Sorted
import FrozenGraph.Proofs.Paired
import FrozenGraph.Proofs.Reordered
import FrozenGraph.Proofs.Permuted
import FrozenGraph.Proofs.Attributed
import FrozenGraph.Proofs.Watched
import FrozenGraph.Proofs.Upheld
import FrozenGraph.Proofs.Completed
import FrozenGraph.Proofs.Retained
