import Requisite.Grade
import Requisite.Job
import Requisite.Service.Reply
import Requisite.Proofs.Expr.Descent
import Requisite.Proofs.Expr.Automaton
import Requisite.Proofs.Expr.OpenLeaf
import Requisite.Proofs.Expr.CanonicalId
import Requisite.Proofs.Expr.Chains
import Requisite.Proofs.Expr.Reading
import Requisite.Proofs.Expr.Decoding
import Requisite.Proofs.Evaluation
import Requisite.Proofs.Expr.Truth
import Requisite.Proofs.Store.Walk
import Requisite.Proofs.Store.Queries
import Requisite.Proofs.Expr.Sharing
import Requisite.Proofs.Store.Saving
import Requisite.Proofs.Accumulation
import Requisite.Proofs.Expr.Rooted
import Requisite.Proofs.Store.Listings
import Requisite.Proofs.Rows.Tokens
import Requisite.Proofs.Rows.Balance
import Requisite.Proofs.Rows.Courses
import Requisite.Proofs.Workers.Interleaving
import Requisite.Proofs.Workers.Order
import Requisite.Proofs.Workers.Closure
import Requisite.Proofs.Runs.Kinds
import Requisite.Proofs.Runs.Unfolding
import Requisite.Proofs.Runs.Attributes
import Requisite.Proofs.Store.Courses
import Requisite.Proofs.Runs.Union
import Requisite.Proofs.Runs.Upserts
import Requisite.Proofs.Store.Again
import Requisite.Proofs.Store.Histories
import Requisite.Proofs.Runs.Saving
import Requisite.Proofs.Crawl.Isolation
import Requisite.Proofs.Jobs.Again
import Requisite.Proofs.Store.Batches
import Requisite.Proofs.Store.Growth
import Requisite.Proofs.Store.Subgraph
import Requisite.Proofs.Store.Transitive
import Requisite.Proofs.Expr.Connected
import Requisite.Proofs.Store.Details
import Requisite.Proofs.Store.Atomicity
import Requisite.Proofs.Segmentation
import Requisite.Proofs.LeafCodec
import Requisite.Proofs.LeafFaults
import Requisite.Proofs.Expr.Flags
import Requisite.Proofs.Expr.OuterBrackets
import Requisite.Proofs.Crawl.Arrivals
import Requisite.Proofs.Crawl.Requests
import Requisite.Proofs.CatalogNumber
import Requisite.Proofs.Store.Quarters
import Requisite.Proofs.Store.QuarterSubjects
import Requisite.Proofs.Expr.Concatenation
