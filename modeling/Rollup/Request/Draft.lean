/-
  Drafts: a request written down setting by setting.

  A draft takes settings in any order and any number.  The last word on a field counts, with two
  exceptions: asking for every row cannot be taken back, and columns to order by add up, each at
  the place where it was first named.  `Draft.build` then reads off the kind of the request: a
  count to rank by wins over transient names, and these over everything else.
-/
import Rollup.Request

namespace Rollup

/-- One thing said about a request. -/
inductive Setting
  | names (names : List String)
  | hosts (hosts : List String)
  | app (id : String)
  | instanceId (id : String)
  | start (time : Int)
  | finish (time : Int)
  | granularity (granularity : Granularity)
  | limit (rows : Int)
  | unlimited
  | fetchSize (rows : Int)
  | grouped (on : Bool)
  | orderBy (column : String)
  | identities (ids : List Bytes)
  | negateNames (on : Bool)
  | negateHosts (on : Bool)
  | negateIdentities (on : Bool)
  | statement (text : String)
  | count (series : Nat)
  | ascending (on : Bool)
  | statistic (statistic : Statistic)
  | transientNames (names : List String)
  deriving DecidableEq

/-- What has been said so far. -/
structure Draft where
  names : List String := []
  hosts : Option (List String) := none
  app : Option String := none
  instanceId : Option String := none
  start : Option Int := none
  finish : Option Int := none
  granularity : Option Granularity := none
  limit : Option Int := none
  unlimited : Bool := false
  fetchSize : Option Int := none
  grouped : Bool := false
  orderBy : List String := []
  identities : List Bytes := []
  negateNames : Bool := false
  negateHosts : Bool := false
  negateIdentities : Bool := false
  statement : Option String := none
  count : Option Nat := none
  ascending : Bool := false
  statistic : Option Statistic := none
  transientNames : List String := []
  deriving DecidableEq

namespace Draft

/-- The draft on which nothing has been said. -/
def blank : Draft := {}

/-- The list with `x` at its end, unless it is there already. -/
def insertLast (xs : List String) (x : String) : List String :=
  if xs.contains x then xs else xs ++ [x]

/-- The draft after one more setting. -/
def set (d : Draft) : Setting → Draft
  | .names names => { d with names }
  | .hosts hosts => { d with hosts := some hosts }
  | .app id => { d with app := some id }
  | .instanceId id => { d with instanceId := some id }
  | .start time => { d with start := some time }
  | .finish time => { d with finish := some time }
  | .granularity granularity => { d with granularity := some granularity }
  | .limit rows => { d with limit := some rows }
  | .unlimited => { d with unlimited := true }
  | .fetchSize rows => { d with fetchSize := some rows }
  | .grouped on => { d with grouped := on }
  | .orderBy column => { d with orderBy := insertLast d.orderBy column }
  | .identities ids => { d with identities := ids }
  | .negateNames on => { d with negateNames := on }
  | .negateHosts on => { d with negateHosts := on }
  | .negateIdentities on => { d with negateIdentities := on }
  | .statement text => { d with statement := some text }
  | .count series => { d with count := some series }
  | .ascending on => { d with ascending := on }
  | .statistic statistic => { d with statistic := some statistic }
  | .transientNames names => { d with transientNames := names }

/-- The draft after several settings, from the first to the last. -/
def setAll (d : Draft) (settings : List Setting) : Draft := settings.foldl set d

/-- The kind of request that the draft describes. -/
def kind (d : Draft) : Request.Kind :=
  match d.count, d.transientNames with
  | some count, _ => .ranked { count, ascending := d.ascending, statistic := d.statistic }
  | none, [] => .plain
  | none, names => .transient names

/-- The hosts of the request: transient metrics are asked of every host unless some are named. -/
def hostsFor (d : Draft) : Request.Kind → Option (List String)
  | .transient _ => if (d.hosts.getD []).isEmpty then some [Token.wildcard.toString] else d.hosts
  | _ => d.hosts

/-- The request that the draft describes. -/
def build (d : Draft) : Request where
  kind := d.kind
  sharedNames := d.names
  hosts := d.hostsFor d.kind
  givenApp := d.app
  givenInstance := d.instanceId
  givenStart := d.start
  givenFinish := d.finish
  granularity := d.granularity
  givenLimit := d.limit
  unlimited := d.unlimited
  fetchSize := d.fetchSize
  grouped := d.grouped
  orderBy := d.orderBy
  identities := d.identities
  negateNames := d.negateNames
  negateHosts := d.negateHosts
  negateIdentities := d.negateIdentities
  statement := d.statement

end Draft

/-- The request that a list of settings describes. -/
def Request.ofSettings (settings : List Setting) : Request := (Draft.blank.setAll settings).build

example : (Request.ofSettings [.transientNames ["t"]]).hosts = some ["%"] := by decide +kernel
example : (Request.ofSettings [.count 5, .transientNames ["t"], .names ["m"]]).names = ["m"] := by
  decide +kernel

end Rollup
