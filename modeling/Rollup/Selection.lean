/-
  What a request selects.

  A request is filtered by what it says of identities, names, hosts, application, instance and
  window.  Identities, where given, replace all of the others but the window.  Each way of looking
  at a request is a `View`; `Request.predicate` reads the view off, and `Request.viewed` says what
  looking does to the request: a view that filters by name leaves the names in the order in which
  they were bound.
-/
import Rollup.Request
import Rollup.Sql.Filter

namespace Rollup

open Sql (Column Factor Filter Predicate RankedFilter Test)

/-! ## The dimensions -/

namespace Request

/-- The filter by identity. -/
def identityFilter (r : Request) : Filter :=
  if r.identities.isEmpty then []
  else
    [.group r.negateIdentities [.member .identity r.negateIdentities (r.identities.map .bytes)]]

/-- The tests of the name: one for all exact names, and one for each pattern. -/
def nameTests (r : Request) : List Test :=
  let exact := Token.exact r.names
  (if exact.isEmpty then [] else [.member .name r.negateNames (exact.map .text)])
    ++ (Token.patterns r.names).map fun p => .likes r.negateNames .name (.text p)

/-- The filter by metric name. -/
def nameFilter (r : Request) : Filter :=
  if r.names.isEmpty then [] else [.group r.negateNames r.nameTests]

/-- The filter by host.  One pattern among the hosts makes all of them patterns. -/
def hostFilter (r : Request) : Filter :=
  match r.hostList with
  | [] => []
  | hosts =>
    if Token.anyPattern hosts then
      [.group r.negateHosts (hosts.map fun h => .likes r.negateHosts .host (.text h))]
    else
      match hosts with
      | [host] => [.one (.equals r.negateHosts .host (.text host))]
      | _ => [.one (.member .host r.negateHosts (hosts.map .text))]

/-- The test of a column against a token that may be a pattern. -/
def tokenTest (column : Column) (token : String) : Test :=
  if Token.isPattern token then .likes false column (.text token)
  else .equals false column (.text token)

/-- The filter by application. -/
def appFilter (r : Request) : Filter :=
  match r.app with
  | some app => [.one (tokenTest .app app)]
  | none => []

/-- The filter by instance; the pattern that every instance matches is left out. -/
def instanceFilter (r : Request) : Filter :=
  match r.instanceId with
  | some instanceId =>
    if instanceId = Token.wildcard.toString then [] else [.one (tokenTest .instanceId instanceId)]
  | none => []

/-- The filter by time: the window holds its start and not its finish. -/
def windowFilter (r : Request) : Filter :=
  (r.start.map fun t => Factor.one (.compare .time .atLeast (.integer t))).toList
    ++ (r.finish.map fun t => Factor.one (.compare .time .below (.integer t))).toList

/-! ## Views -/

/-- The filter by everything but the window and the identities. -/
def attributeFilter (r : Request) : Filter :=
  r.nameFilter ++ r.hostFilter ++ r.appFilter ++ r.instanceFilter

/-- The filter of a series: its identities or else its attributes, and the window. -/
def seriesFilter (r : Request) : Filter :=
  (if r.identities.isEmpty then r.attributeFilter else r.identityFilter) ++ r.windowFilter

/-- The filter of transient metrics. -/
def transientFilter (r : Request) : Filter := r.attributeFilter ++ r.windowFilter

/-- The filter of a metadata scan. -/
def metadataFilter (r : Request) : MetadataTarget → Filter
  | .metric => r.nameFilter ++ r.appFilter ++ r.instanceFilter
  | .host => r.hostFilter

/-- The filter of one identity's lookup. -/
def lookupFilter (r : Request) (identity : Bytes) : Filter :=
  .one (.equals false .identity (.bytes identity)) :: r.windowFilter

/-- The filter by rank: candidates come from the series table of the request's own scope. -/
def rankedFilter (r : Request) (ranking : Ranking) (granularity : Option Granularity) :
    RankedFilter where
  ranking := ranking
  source := .ofScope r.scope granularity
  candidates := r.seriesFilter
  window := r.windowFilter

end Request

/-- A way of looking at what a request selects. -/
inductive View
  | series
  | ranked (ranking : Ranking) (granularity : Option Granularity)
  | transient
  | metadata (target : MetadataTarget)
  | lookup (identity : Bytes)
  | identities
  | names
  | hosts
  | app
  | instanceId
  | window
  deriving DecidableEq

namespace Request

/-- What a view shows of a request. -/
def predicate (r : Request) : View → Predicate
  | .series => .plain r.seriesFilter
  | .ranked ranking granularity => .ranked (r.rankedFilter ranking granularity)
  | .transient => .plain r.transientFilter
  | .metadata target => .plain (r.metadataFilter target)
  | .lookup identity => .plain (r.lookupFilter identity)
  | .identities => .plain r.identityFilter
  | .names => .plain r.nameFilter
  | .hosts => .plain r.hostFilter
  | .app => .plain r.appFilter
  | .instanceId => .plain r.instanceFilter
  | .window => .plain r.windowFilter

/-- A view as a clause. -/
def clause (r : Request) (view : View) : Sql.Clause := (r.predicate view).clause

/-- Does a view filter by name? -/
def showsNames (r : Request) : View → Bool
  | .series | .ranked _ _ => r.identities.isEmpty
  | .transient | .names | .metadata .metric => true
  | .metadata .host | .lookup _ | .identities | .hosts | .app | .instanceId | .window => false

/-- The request after a view was taken of it. -/
def viewed (r : Request) (view : View) : Request :=
  if r.showsNames view then r.withNamesSorted else r

/-- The view that goes with the kind of the request.  The granularity says where a ranking looks for
    its candidates. -/
def wholeView (r : Request) (granularity : Option Granularity) : View :=
  match r.kind with
  | .plain => .series
  | .ranked ranking => .ranked ranking granularity
  | .transient _ => .transient
  | .metadata target => .metadata target

end Request

end Rollup
