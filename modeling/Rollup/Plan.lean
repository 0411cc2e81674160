/-
  Plans: finished statements for requests.

  Six methods answer six kinds of question.  Each first refuses what it cannot answer, in a fixed
  order of checks, and then writes its statement: a head, the condition that the request selects,
  an order and a cap.  A plan also keeps the request as planned, with its names in the order of
  their values and its limit lifted where a granularity was pinned.

  The crux is that the two series methods are one function of the scope: rows of hosts and rows of
  the cluster differ in their columns and their table, and in nothing else.
-/
import Rollup.Estimate
import Rollup.Selection
import Rollup.Sql.Select

namespace Rollup

open Sql (Clause OrderTerm Select)

/-- A statement ready to be prepared. -/
structure Plan where
  text : String
  values : List Value
  fetchSize : Option Int
  /-- The granularity at which it reads, for tables that have several. -/
  granularity : Option Granularity
  table : Table
  /-- The request as planned. -/
  request : Request
  deriving DecidableEq

namespace Plan

/-- How many values the statement waits for. -/
def placeholders (p : Plan) : Nat := Sql.placeholderCount p.text

/-- The document of a plan; a fetch size and a granularity are left out where there is none. -/
def document (p : Plan) : Document :=
  .record ([("sql", .text p.text), ("binds", .list (p.values.map Value.document))]
    ++ Document.field? "fetch_size" (p.fetchSize.map .integer)
    ++ Document.field? "precision" (p.granularity.map Granularity.document)
    ++ [("table", .text p.table.name)])

/-! ## Checks -/

/-- Goes on if the condition holds, and ends with the error if not. -/
def require (holds : Bool) (e : PlanError) : Except PlanError Unit :=
  if holds then .ok () else .error e

/-- Refuses a request that asks for nothing in particular. -/
def checkNonempty (r : Request) : Except PlanError Unit := require (!r.isEmpty) .empty

/-- Refuses a request that is not for series, and a ranking of the wrong shape. -/
def checkSeries (scope : Scope) (r : Request) : Except PlanError Unit :=
  match r.kind with
  | .plain => .ok ()
  | .ranked _ =>
    require (r.ranksHosts || r.ranksMetrics) (.rankingShape r.names.length r.hostCount)
  | .transient _ | .metadata _ => .error (.invalid (.notASeries scope))

/-! ## Columns and orders -/

/-- The columns of a series table. -/
def seriesColumns : Scope → Granularity → String
  | .perHost, .seconds =>
    "UUID, SERVER_TIME, METRIC_SUM, METRIC_MAX, METRIC_MIN, METRIC_COUNT, METRICS"
  | .perHost, _ => "UUID, SERVER_TIME, METRIC_SUM, METRIC_MAX, METRIC_MIN, METRIC_COUNT"
  | .cluster, .seconds => "UUID, SERVER_TIME, METRIC_SUM, HOSTS_COUNT, METRIC_MAX, METRIC_MIN"
  | .cluster, _ => "UUID, SERVER_TIME, METRIC_SUM, METRIC_COUNT, METRIC_MAX, METRIC_MIN"

/-- The columns of transient metrics. -/
def transientColumns : String :=
  "METRIC_NAME, HOSTNAME, APP_ID, INSTANCE_ID, SERVER_TIME, UNITS, "
    ++ "METRIC_SUM, METRIC_MAX, METRIC_MIN, METRIC_COUNT, METRICS"

/-- The columns of the latest rows. -/
def latestColumns : String :=
  "E.UUID AS UUID, E.SERVER_TIME AS SERVER_TIME, E.METRIC_SUM AS METRIC_SUM, "
    ++ "E.METRIC_MAX AS METRIC_MAX, E.METRIC_MIN AS METRIC_MIN, "
    ++ "E.METRIC_COUNT AS METRIC_COUNT, E.METRICS AS METRICS"

/-- The table and the columns of a metadata scan. -/
def metadataSource : MetadataTarget → Table × String
  | .metric => (.metricMetadata, "METRIC_NAME, APP_ID, INSTANCE_ID, UUID")
  | .host => (.hostMetadata, "HOSTNAME, UUID")

/-- The hint that asks for a sort-merge join. -/
def joinHint : String := "/*+ USE_SORT_MERGE_JOIN NO_CACHE */"

/-- Columns in ascending order. -/
def ascending (columns : List String) : List OrderTerm := columns.map fun c => ⟨c, false⟩

/-- Columns in descending order. -/
def descending (columns : List String) : List OrderTerm := columns.map fun c => ⟨c, true⟩

/-- The order of the answer: the columns of the request, or else those given. -/
def orderOf (r : Request) (default : List String) : List OrderTerm :=
  ascending (if r.orderBy.isEmpty then default else r.orderBy)

/-- The head of a statement: the caller's own, or else the columns of a table. -/
def headOf (r : Request) (columns : String) (table : Table) : String :=
  r.statement.getD ("SELECT " ++ columns ++ " FROM " ++ table.name)

/-- The plan of a statement. -/
def finish (s : Settings) (select : Select) (granularity : Option Granularity) (table : Table)
    (r : Request) : Plan where
  text := select.text
  values := select.filter.values
  fetchSize := r.fetchSize.or s.defaultFetchSize
  granularity := granularity
  table := table
  request := r

/-! ## The six methods -/

/-- The rows of series of the scope, raw or aggregated. -/
def series (scope : Scope) (s : Settings) (now : Int) (r : Request) : Except PlanError Plan := do
  checkNonempty r
  checkSeries scope r
  let granularity ← s.resolve r now
  let r := r.resolved
  let view := r.wholeView (some granularity)
  let table := Table.series scope granularity
  let select : Select :=
    { head := headOf r (seriesColumns scope granularity) table
      filter := r.clause view
      order := orderOf r ["UUID", "SERVER_TIME"]
      cap := r.limit s.defaultLimit }
  return finish s select (some granularity) table (r.viewed view)

/-- The join of the raw rows with the last time of each series that a filter lets pass. -/
def latestJoin (hinted : Bool) (table : Table) (filter : Clause) : String :=
  "SELECT " ++ (if hinted then joinHint ++ " " else "") ++ latestColumns ++ " FROM " ++ table.name
    ++ " AS E INNER JOIN (SELECT UUID, MAX(SERVER_TIME) AS MAX_SERVER_TIME FROM " ++ table.name
    ++ filter.whereText
    ++ " GROUP BY UUID) AS I ON E.UUID=I.UUID AND E.SERVER_TIME=I.MAX_SERVER_TIME"

/-- The most recent raw row of each series.  A statement of the caller is the whole statement; the
    values still are those of the filter. -/
def latest (s : Settings) (r : Request) : Except PlanError Plan := do
  checkNonempty r
  require r.isPlain (.invalid .latestOfSpecial)
  require (!r.names.isEmpty) (.invalid .latestWithoutNames)
  let table := Table.series .perHost .seconds
  let filter := r.clause .series
  let text :=
    match r.statement with
    | some statement => statement
    | none => latestJoin s.sortMergeJoin table filter ++ Sql.orderText (descending r.orderBy)
  return { finish s { head := text } none table (r.viewed .series) with values := filter.values }

/-- The rows of transient metrics. -/
def transient (s : Settings) (r : Request) : Except PlanError Plan := do
  checkNonempty r
  require r.isTransient (.invalid .notTransient)
  s.checkPinned r
  let select : Select :=
    { head := headOf r transientColumns .transient
      filter := r.clause .transient
      order := orderOf r ["METRIC_NAME", "SERVER_TIME"]
      cap := r.limit s.defaultLimit }
  return finish s select none .transient (r.viewed .transient)

/-- The metadata of metrics or hosts; it may be read without any filter. -/
def metadata (s : Settings) (r : Request) : Except PlanError Plan :=
  match r.metadataTarget? with
  | none => .error (.invalid .notMetadata)
  | some target =>
    let (table, columns) := metadataSource target
    let select : Select := { head := headOf r columns table, filter := r.clause (.metadata target) }
    .ok (finish s select none table (r.viewed (.metadata target)))

/-- The last rows of one identity in the cluster's table. -/
def latestAggregate (s : Settings) (lookup : Request.Lookup) : Plan :=
  let r := lookup.request
  let table := Table.series .cluster .seconds
  let select : Select :=
    { head := "SELECT " ++ seriesColumns .cluster .seconds ++ " FROM " ++ table.name
      filter := r.clause (.lookup lookup.identity)
      order := descending ["UUID", "SERVER_TIME"]
      cap := some (max r.names.length 1 : Nat) }
  finish s select none table r

/-- The last rows of each identity, a statement for each. -/
def latestAggregates (s : Settings) (r : Request) : Except PlanError (List Plan) := do
  checkNonempty r
  require (!r.identities.isEmpty) (.invalid .noIdentities)
  return r.lookups.map (latestAggregate s)

end Plan

/-- The questions that a planner answers. -/
inductive Method
  | series (scope : Scope)
  | latest
  | transient
  | metadata
  | latestAggregates
  deriving DecidableEq

/-- The statements that answer a request at the time `now`. -/
def Method.plans (s : Settings) (now : Int) (r : Request) : Method → Except PlanError (List Plan)
  | series scope => (Plan.series scope s now r).map ([·])
  | latest => (Plan.latest s r).map ([·])
  | transient => (Plan.transient s r).map ([·])
  | metadata => (Plan.metadata s r).map ([·])
  | latestAggregates => Plan.latestAggregates s r

end Rollup
