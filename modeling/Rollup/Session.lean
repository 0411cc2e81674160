/-
  Sessions: one request looked at many times.

  A session keeps one request and answers questions about it, one after the other.  Two kinds of
  question leave a trace on the request: a view that filters by name sorts the names, and looking
  for a granularity lifts the limit of a request that pins one.
-/
import Rollup.Estimate
import Rollup.Selection

namespace Rollup.Session

/-- A question about a request. -/
inductive Question
  | view (view : View)
  /-- The view that goes with the kind of the request. -/
  | whole (granularity : Option Granularity)
  | estimate (granularity : Granularity)
  | budget (granularity : Granularity)
  | finest (now : Int)
  | resolve (now : Int)
  | limit (default : Int)
  deriving DecidableEq

/-- An answer. -/
inductive Answer
  | clause (clause : Sql.Clause)
  | rows (estimate : Int)
  | withinBudget
  | granularity (granularity : Granularity)
  | cap (rows : Option Int)
  | refused (error : PlanError)
  deriving DecidableEq

/-- The answer to a question. -/
def answer (s : Settings) (r : Request) : Question → Answer
  | .view view => .clause (r.clause view)
  | .whole granularity => .clause (r.clause (r.wholeView granularity))
  | .estimate granularity => .rows (s.estimate r granularity)
  | .budget granularity =>
    match s.checkBudget r granularity with
    | .ok _ => .withinBudget
    | .error e => .refused e
  | .finest now => .granularity (s.finest r now)
  | .resolve now =>
    match s.resolve r now with
    | .ok granularity => .granularity granularity
    | .error e => .refused e
  | .limit default => .cap (r.limit default)

/-- The request after a question. -/
def after (r : Request) : Question → Request
  | .view view => r.viewed view
  | .whole granularity => r.viewed (r.wholeView granularity)
  | .resolve _ => r.resolved
  | .estimate _ | .budget _ | .finest _ | .limit _ => r

/-- Each answer of a session, with the request as it was left. -/
def run (s : Settings) (r : Request) : List Question → List (Answer × Request)
  | [] => []
  | q :: rest => (answer s r q, after r q) :: run s (after r q) rest

end Rollup.Session
