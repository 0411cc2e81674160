/-
  The tables of the store.

  Series rows lie in eight tables, one for each scope and granularity.  Transient metrics and the
  two kinds of metadata have a table each.
-/
import Rollup.Granularity

namespace Rollup

/-- A table of the store. -/
inductive Table
  | series (scope : Scope) (granularity : Granularity)
  | transient
  | metricMetadata
  | hostMetadata
  deriving DecidableEq

namespace Table

/-- The name of a table in statements. -/
def name : Table → String
  | series .perHost .seconds => "METRIC_RECORD_UUID"
  | series .perHost .minutes => "METRIC_RECORD_MINUTE_UUID"
  | series .perHost .hours => "METRIC_RECORD_HOURLY_UUID"
  | series .perHost .days => "METRIC_RECORD_DAILY_UUID"
  | series .cluster .seconds => "METRIC_AGGREGATE_UUID"
  | series .cluster .minutes => "METRIC_AGGREGATE_MINUTE_UUID"
  | series .cluster .hours => "METRIC_AGGREGATE_HOURLY_UUID"
  | series .cluster .days => "METRIC_AGGREGATE_DAILY_UUID"
  | transient => "METRIC_TRANSIENT"
  | metricMetadata => "METRICS_METADATA_UUID"
  | hostMetadata => "HOSTED_APPS_METADATA_UUID"

/-- The series table of a scope; no granularity means the rows as they came in. -/
def ofScope (scope : Scope) (granularity : Option Granularity) : Table :=
  series scope (granularity.getD .seconds)

/-- All tables. -/
def all : List Table :=
  [series .perHost .seconds, series .perHost .minutes, series .perHost .hours,
    series .perHost .days, series .cluster .seconds, series .cluster .minutes,
    series .cluster .hours, series .cluster .days, transient, metricMetadata, hostMetadata]

theorem mem_all : ∀ t : Table, t ∈ all
  | series scope granularity => by cases scope <;> cases granularity <;> decide
  | transient => by decide
  | metricMetadata => by decide
  | hostMetadata => by decide

/-- No two tables share a name. -/
theorem eq_of_name_eq {s t : Table} (h : s.name = t.name) : s = t :=
  have distinct : ∀ s ∈ all, ∀ t ∈ all, s.name = t.name → s = t := by decide +kernel
  distinct s (mem_all s) t (mem_all t) h

end Table

end Rollup
