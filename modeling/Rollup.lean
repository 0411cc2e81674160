import Rollup.Spelling
import Rollup.Request.Draft
import Rollup.Settings.Environment
import Rollup.Session
import Rollup.Prepared.Recorder
import Rollup.Prepared.Numbered
import Rollup.Proofs.Sql.Condition
import Rollup.Proofs.Sql.FilterReading
import Rollup.Proofs.Selection
import Rollup.Proofs.Binding
import Rollup.Proofs.Budget
import Rollup.Proofs.Shape
import Rollup.Proofs.Refusals
import Rollup.Proofs.Session
import Rollup.Proofs.Cap
import Rollup.Proofs.Lifecycle
import Rollup.Proofs.Delivery
import Rollup.Proofs.Filtered
import Rollup.Proofs.Rows
import Rollup.Proofs.Overflow
import Rollup.Proofs.Search
import Rollup.Proofs.Pinning
import Rollup.Proofs.Replanning
import Rollup.Proofs.Monotonicity
import Rollup.Proofs.Sql.Parentheses
import Rollup.Proofs.Sql.Conjunction
import Rollup.Proofs.Wrapping
import Rollup.Proofs.Scopes
import Rollup.Proofs.FanOut
import Rollup.Proofs.Drafting
import Rollup.Proofs.Ending
import Rollup.Proofs.Absence
import Rollup.Proofs.Acceptance
import Rollup.Proofs.Coarsening
import Rollup.Proofs.Numbering
import Rollup.Proofs.Serialization
import Rollup.Proofs.Spelling
