/-
  Rankings: the best or the worst few of many series.

  A ranking keeps a number of series, ordered by one statistic of the rows that the request
  selects.  Whether hosts or metrics are ranked follows from the lists of the request; a ranking
  over several of both at once has no meaning here.
-/
import Rollup.Granularity
import Rollup.Token

namespace Rollup

/-- How many series to keep, from which end, and by what. -/
structure Ranking where
  count : Nat
  ascending : Bool
  statistic : Option Statistic
  deriving DecidableEq

namespace Ranking

/-- The aggregate by which series are ordered; anything but a mean or a sum compares peaks. -/
def expression (k : Ranking) : String :=
  match k.statistic with
  | some .avg => "ROUND(AVG(METRIC_SUM),2)"
  | some .sum => "SUM(METRIC_SUM)"
  | _ => "MAX(METRIC_MAX)"

/-- The direction in which they are ordered. -/
def direction (k : Ranking) : String := if k.ascending then "ASC" else "DESC"

/-- One metric, not a pattern, ranked across the hosts given. -/
def overHosts (names : List String) (hosts : Option (List String)) : Bool :=
  !(hosts.getD []).isEmpty && names.length == 1 && !Token.anyPattern names

/-- The metrics given, patterns allowed, ranked on at most one host, which is not a pattern. -/
def overMetrics (names : List String) (hosts : Option (List String)) : Bool :=
  !names.isEmpty && decide ((hosts.getD []).length ≤ 1) && !Token.anyPattern (hosts.getD [])

end Ranking

end Rollup
