import SegmentIndex.Config.File
import SegmentIndex.Embedding.Choice
import SegmentIndex.Outer.Lenient
import SegmentIndex.Outer.Yaml.Document
import SegmentIndex.Proofs.Accounts
import SegmentIndex.Proofs.Aliases
import SegmentIndex.Proofs.Attempts
import SegmentIndex.Proofs.Batches
import SegmentIndex.Proofs.Candidates
import SegmentIndex.Proofs.Clashes
import SegmentIndex.Proofs.Conservation
import SegmentIndex.Proofs.Choices
import SegmentIndex.Proofs.Closing
import SegmentIndex.Proofs.Convergence
import SegmentIndex.Proofs.Draining
import SegmentIndex.Proofs.Elements
import SegmentIndex.Proofs.Expiry
import SegmentIndex.Proofs.Forms
import SegmentIndex.Proofs.Isolation
import SegmentIndex.Proofs.Lifecycle
import SegmentIndex.Proofs.Metadata
import SegmentIndex.Proofs.Overlap
import SegmentIndex.Proofs.Removal
import SegmentIndex.Proofs.Payloads
import SegmentIndex.Proofs.Refusals
import SegmentIndex.Proofs.Rendering
import SegmentIndex.Proofs.Sameness
import SegmentIndex.Proofs.Startup
import SegmentIndex.Proofs.Subscriptions
import SegmentIndex.Proofs.Totals
import SegmentIndex.Proofs.Windows
import SegmentIndex.Search
import SegmentIndex.Session
import SegmentIndex.Vector.Memory
import SegmentIndex.Vector.Store
