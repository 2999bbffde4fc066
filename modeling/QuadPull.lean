import QuadPull.Endpoint.Client
import QuadPull.Document.Written
import QuadPull.Graph.Statistics
import QuadPull.Term.Factory
import QuadPull.Workspace
import QuadPull.Document.Order
import QuadPull.Proofs.Interning
import QuadPull.Proofs.Proper
import QuadPull.Proofs.Spelling
import QuadPull.Proofs.Listing
import QuadPull.Proofs.Pursuit
import QuadPull.Proofs.Reachability
import QuadPull.Proofs.Comparison
import QuadPull.Proofs.Selection
import QuadPull.Proofs.Evaluation
import QuadPull.Proofs.Extraction
import QuadPull.Proofs.Storage
import QuadPull.Proofs.Typing
import QuadPull.Proofs.Monotone
import QuadPull.Proofs.Outcome
import QuadPull.Proofs.Idempotence
import QuadPull.Proofs.Agreement
import QuadPull.Proofs.Demand
import QuadPull.Proofs.Locality
import QuadPull.Proofs.Bookkeeping
import QuadPull.Proofs.Caching
import QuadPull.Proofs.Failure
import QuadPull.Proofs.Growth
import QuadPull.Proofs.Placement
import QuadPull.Proofs.Replay
import QuadPull.Proofs.Naming
import QuadPull.Proofs.Renaming
import QuadPull.Proofs.Skolemize
import QuadPull.Proofs.Invariance
import QuadPull.Proofs.Answers
import QuadPull.Proofs.Grammar
import QuadPull.Proofs.Encoding
import QuadPull.Proofs.Readability
import QuadPull.Proofs.Replies
import QuadPull.Proofs.Sufficiency
import QuadPull.Proofs.Remote
import QuadPull.Proofs.Census
import QuadPull.Proofs.Rejection
import QuadPull.Proofs.Removal
import QuadPull.Proofs.Handles
import QuadPull.Proofs.Freshness
import QuadPull.Proofs.Displacement
import QuadPull.Proofs.Ownership
import QuadPull.Proofs.Rootedness
import QuadPull.Proofs.Numerals
import QuadPull.Proofs.IsoText
import QuadPull.Proofs.NativeValues
import QuadPull.Proofs.Nesting
import QuadPull.Proofs.Tally
import QuadPull.Proofs.Addressing
import QuadPull.Proofs.Interruption
import QuadPull.Proofs.Levels
import QuadPull.Proofs.Strictness
import QuadPull.Proofs.Arrangement
import QuadPull.Proofs.Matching
import QuadPull.Proofs.LexicalSpace
import QuadPull.Proofs.PlainForms
import QuadPull.Proofs.Misreading
import QuadPull.Proofs.Labelling
import QuadPull.Proofs.Variables
import QuadPull.Proofs.DecimalText
import QuadPull.Proofs.Denotation
import QuadPull.Proofs.Loading
import QuadPull.Proofs.Escaping
import QuadPull.Proofs.Packing
