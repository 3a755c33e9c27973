import TokenEditor.Callable.Offer
import TokenEditor.Lexer.Keywords
import TokenEditor.Session
import TokenEditor.Version
import TokenEditor.Proofs.Pattern
import TokenEditor.Proofs.Piece.Quotation
import TokenEditor.Proofs.Piece.WordRun
import TokenEditor.Proofs.Piece.Matching
import TokenEditor.Proofs.Piece.Extent
import TokenEditor.Proofs.Operator.Grouping
import TokenEditor.Proofs.Piece.Balanced
import TokenEditor.Proofs.Piece.Separation
import TokenEditor.Proofs.Piece.Segmentation
import TokenEditor.Proofs.Operator.Stock
import TokenEditor.Proofs.Operator.Regrouping
import TokenEditor.Proofs.Workspace.Rendering
import TokenEditor.Proofs.Operator.Munch
import TokenEditor.Proofs.Entries.Slice
import TokenEditor.Proofs.Value.Whole
import TokenEditor.Proofs.Workspace.Splicing
import TokenEditor.Proofs.Workspace.Course
import TokenEditor.Proofs.Workspace.Atomicity
import TokenEditor.Proofs.Value.Shown
import TokenEditor.Proofs.Workspace.Gaps
import TokenEditor.Proofs.Workspace.Effects
import TokenEditor.Proofs.Workspace.Rebasing
import TokenEditor.Proofs.Workspace.Outside
import TokenEditor.Proofs.Operator.Spacing
import TokenEditor.Proofs.Workspace.Restoring
import TokenEditor.Proofs.Workspace.Calls
import TokenEditor.Proofs.Workspace.Showing
import TokenEditor.Proofs.Workspace.Chain
import TokenEditor.Proofs.Value.Naming
import TokenEditor.Proofs.Value.Literal
import TokenEditor.Proofs.Workspace.Commuting
import TokenEditor.Proofs.Workspace.Planned
import TokenEditor.Proofs.Workspace.Frame
import TokenEditor.Proofs.Workspace.Reachable
import TokenEditor.Proofs.MaximalRun
import TokenEditor.Proofs.Selecting
import TokenEditor.Proofs.Workspace.Extending
import TokenEditor.Proofs.Workspace.Block
import TokenEditor.Proofs.Workspace.Computing
import TokenEditor.Proofs.Workspace.Searching
import TokenEditor.Proofs.Operator.Apart
import TokenEditor.Proofs.Workspace.Visible
import TokenEditor.Proofs.Workspace.Undoing
import TokenEditor.Proofs.Workspace.Widening
import TokenEditor.Proofs.Workspace.Agreeing
import TokenEditor.Proofs.Operator.Resuming
import TokenEditor.Proofs.Workspace.Peeking
import TokenEditor.Proofs.Workspace.Auditing
