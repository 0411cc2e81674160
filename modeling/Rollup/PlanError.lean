/-
  Why a request is not planned.

  An error is a cause with the figures that explain it.  The wording stands in one place,
  `PlanError.message`, and nowhere else in the library.
-/
import Rollup.Granularity

namespace Rollup

/-- A request that no planner of the kind asked for can take, or a word that names nothing. -/
inductive Refusal
  /-- The word names no granularity. -/
  | unknownGranularity (word : String)
  /-- The word names no statistic. -/
  | unknownStatistic (word : String)
  /-- Series are asked of a request for transient metrics or metadata. -/
  | notASeries (scope : Scope)
  /-- The latest rows are asked of a request that is not plain. -/
  | latestOfSpecial
  /-- The latest rows are asked of a request without names. -/
  | latestWithoutNames
  /-- Transient metrics are asked of a request that names none. -/
  | notTransient
  /-- Metadata is asked of a request that is not for metadata. -/
  | notMetadata
  /-- The latest aggregates are asked of a request without identities. -/
  | noIdentities
  /-- A reason in words. -/
  | stated (reason : String)
  deriving DecidableEq

/-- What series of the scope are called. -/
def Scope.noun : Scope → String
  | .perHost => "metric"
  | .cluster => "aggregate"

/-- The wording of a refusal. -/
def Refusal.message : Refusal → String
  | .unknownGranularity word =>
    "invalid precision '" ++ word ++ "', expected one of seconds, minutes, hours, days"
  | .unknownStatistic word => "unsupported read function '" ++ word ++ "'"
  | .notASeries scope => scope.noun ++ " queries take a plain or top-n condition"
  | .latestOfSpecial => "latest metric queries take a plain condition"
  | .latestWithoutNames => "latest metric queries require metric names"
  | .notTransient => "transient metric queries require transient metric names"
  | .notMetadata => "metadata scans require a metadata condition"
  | .noIdentities => "latest aggregate queries require resolved identities"
  | .stated reason => reason

/-- Why a request is not planned. -/
inductive PlanError
  /-- It asks for nothing in particular. -/
  | empty
  /-- It would read more rows than the budget holds. -/
  | overBudget (metrics hosts : Nat) (granularity : Granularity)
      (rangeSecs estimate limit : Int)
  /-- It ranks over several names and several hosts at once. -/
  | rankingShape (metrics hosts : Nat)
  /-- It does not fit what was asked of the planner. -/
  | invalid (refusal : Refusal)
  deriving DecidableEq

namespace PlanError

/-- The wording of an error. -/
def message : PlanError → String
  | empty => "condition is empty"
  | overBudget metrics hosts granularity rangeSecs estimate limit =>
    "requested " ++ toString metrics ++ " metrics for " ++ toString hosts ++ " hosts in "
      ++ granularity.name ++ " precision for the time range of " ++ toString rangeSecs
      ++ " seconds. Estimated resultset size of " ++ toString estimate
      ++ " is greater than the limit of " ++ toString limit
      ++ ". Request lower precision or fewer number of metrics or hosts"
  | rankingShape metrics hosts =>
    "unsupported top-n shape (" ++ toString metrics ++ " metrics, " ++ toString hosts
      ++ " hosts): query can have either multiple hosts or multiple metric names but not both"
  | invalid refusal => "invalid request: " ++ refusal.message

/-- Did the row budget decide? -/
def isBudgetViolation : PlanError → Bool
  | overBudget .. => true
  | _ => false

end PlanError

end Rollup
