import Hashmark.Build.Run
import Hashmark.Finder
import Hashmark.Main
import Hashmark.Proofs.Pass.Balance
import Hashmark.Proofs.Pass.Block
import Hashmark.Proofs.FileTree.Locate
import Hashmark.Proofs.Pass.Congruence
import Hashmark.Proofs.Number.Binary
import Hashmark.Proofs.Number.Shortest
import Hashmark.Proofs.Text.Quoted
import Hashmark.Proofs.Number.Decimal
import Hashmark.Proofs.Value.Scalar
import Hashmark.Proofs.Value.Shown
import Hashmark.Proofs.Value.Scan
import Hashmark.Proofs.Cache.Predefined
import Hashmark.Proofs.Cache.Fingerprint
import Hashmark.Proofs.Path
import Hashmark.Proofs.Text.Encoding
import Hashmark.Proofs.Pass.Output
import Hashmark.Proofs.FileTree.Change
import Hashmark.Proofs.FileTree.Operation
import Hashmark.Proofs.Cache.Store
import Hashmark.Proofs.Cache.Fetch
import Hashmark.Proofs.Cache.Transparency
import Hashmark.Proofs.Pass.Evolution
import Hashmark.Proofs.Pass.Resemblance
import Hashmark.Proofs.Pass.Suppressed
import Hashmark.Proofs.Pass.Identity
import Hashmark.Proofs.Pass.History
import Hashmark.Proofs.Pass.Effect
import Hashmark.Proofs.Pass.Moment
import Hashmark.Proofs.Pass.Nesting
import Hashmark.Proofs.Pass.Definitions
import Hashmark.Proofs.Value.Arithmetic
import Hashmark.Proofs.Condition.Parts
import Hashmark.Proofs.Condition.Bits
import Hashmark.Proofs.Condition.Size
import Hashmark.Proofs.Condition.Estimate
import Hashmark.Proofs.Condition.Repetition
import Hashmark.Proofs.Conditional
import Hashmark.Proofs.Pass.Correspondence
import Hashmark.Proofs.Pass.Verbatim
import Hashmark.Proofs.Pass.Inlining
import Hashmark.Proofs.Text.Identifier
import Hashmark.Proofs.Condition.Presence
import Hashmark.Proofs.Pass.Presence
import Hashmark.Proofs.Pass.Simple
import Hashmark.Proofs.Pass.Failing
import Hashmark.Proofs.Source.Below
import Hashmark.Proofs.Pass.Predefine
import Hashmark.Proofs.Pass.Idempotence
import Hashmark.Proofs.Pass.Detached
import Hashmark.Proofs.Pass.Conditions
import Hashmark.Proofs.Source.Numbering
import Hashmark.Proofs.Pass.Origin
import Hashmark.Proofs.Cache.Usable
import Hashmark.Proofs.Tool
import Hashmark.Proofs.Pass.Spacing
import Hashmark.Proofs.Number.Rounding
import Hashmark.Proofs.Literal
import Hashmark.Proofs.Pass.Lookup
import Hashmark.Proofs.Source.LineEnds
import Hashmark.Proofs.Source.Returns
import Hashmark.Proofs.Pass.LineEnds
import Hashmark.Proofs.Condition.Blanks
import Hashmark.Proofs.Condition.Composed
import Hashmark.Proofs.Condition.Equality
import Hashmark.Proofs.Pass.Equality
import Hashmark.Proofs.Condition.Stopping
import Hashmark.Proofs.Pass.Plain
import Hashmark.Proofs.Pass.Behind
import Hashmark.Proofs.Pass.Guard
import Hashmark.Proofs.Source.Comments
import Hashmark.Proofs.Pass.Kept
import Hashmark.Proofs.Pass.Composition
import Hashmark.Proofs.Cache.RoundTrip
import Hashmark.Proofs.Cache.Atomic
import Hashmark.Proofs.Finder.Registered
import Hashmark.Proofs.Finder.Search
import Hashmark.Proofs.FileTree.Listing
import Hashmark.Proofs.Cache.Clear
