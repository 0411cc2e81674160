/-
  Requests: what to read, for whom, over which window.

  A request names series (by metric, host, application and instance, or by identity), a window of
  time and how the answer is to be shaped.  Fields that begin with `given` hold what the caller
  wrote; the functions of the same name without it are what the planner reads: blank ids count as
  absent, application ids are lower-cased, times are brought to milliseconds.

  The crux is `names`: a request for transient metrics carries a list of its own that stands in
  for the shared one, and everything that looks at names looks at the active list.
-/
import Rollup.Value
import Rollup.PlanError
import Rollup.Ranking
import Rollup.Saturated
import Rollup.Text.Lowercase

namespace Rollup

/-- What a metadata scan lists. -/
inductive MetadataTarget
  | metric
  | host
  deriving DecidableEq

/-- What kind of answer a request asks for. -/
inductive Request.Kind
  | plain
  | ranked (ranking : Ranking)
  | transient (names : List String)
  | metadata (target : MetadataTarget)
  deriving DecidableEq

/-- A request for series of a metric store. -/
structure Request where
  kind : Request.Kind
  sharedNames : List String := []
  hosts : Option (List String) := none
  givenApp : Option String := none
  givenInstance : Option String := none
  givenStart : Option Int := none
  givenFinish : Option Int := none
  granularity : Option Granularity := none
  givenLimit : Option Int := none
  unlimited : Bool := false
  fetchSize : Option Int := none
  grouped : Bool := false
  orderBy : List String := []
  identities : List Bytes := []
  negateNames : Bool := false
  negateHosts : Bool := false
  negateIdentities : Bool := false
  statement : Option String := none
  deriving DecidableEq

namespace Request

/-! ## Metadata requests -/

/-- Lists the metrics with the given names, application and instance. -/
def metricMetadata (names : List String) (app instanceId : Option String) : Request :=
  { kind := .metadata .metric, sharedNames := names, givenApp := app, givenInstance := instanceId }

/-- Lists the applications on the given hosts; no hosts means every host. -/
def hostMetadata (hosts : List String) : Request :=
  { kind := .metadata .host, hosts := if hosts.isEmpty then none else some hosts }

/-! ## Names and hosts -/

/-- The ranking of a ranked request. -/
def ranking? (r : Request) : Option Ranking :=
  match r.kind with
  | .ranked ranking => some ranking
  | _ => none

/-- The target of a metadata request. -/
def metadataTarget? (r : Request) : Option MetadataTarget :=
  match r.kind with
  | .metadata target => some target
  | _ => none

/-- Is it a plain request, of no special kind? -/
def isPlain (r : Request) : Bool :=
  match r.kind with
  | .plain => true
  | _ => false

/-- Does it ask for transient metrics? -/
def isTransient (r : Request) : Bool :=
  match r.kind with
  | .transient _ => true
  | _ => false

/-- The active metric names. -/
def names (r : Request) : List String :=
  match r.kind with
  | .transient names => names
  | _ => r.sharedNames

/-- The request with other active names. -/
def withNames (r : Request) (names : List String) : Request :=
  match r.kind with
  | .transient _ => { r with kind := .transient names }
  | _ => { r with sharedNames := names }

theorem names_withNames (r : Request) (names : List String) :
    (r.withNames names).names = names := by
  unfold withNames Request.names
  cases r.kind <;> rfl

/-- The request with its active names in the order in which they are bound: exact names first. -/
def withNamesSorted (r : Request) : Request := r.withNames (Token.exactFirst r.names)

/-- The hosts, if any are given. -/
def hostList (r : Request) : List String := r.hosts.getD []

/-- Is any host given? -/
def hasHosts (r : Request) : Bool := !r.hostList.isEmpty

/-- The number of hosts given. -/
def hostCount (r : Request) : Nat := r.hostList.length

/-- Whose rows it concerns: those of hosts if it names any. -/
def scope (r : Request) : Scope := if r.hasHosts then .perHost else .cluster

/-! ## Application and instance -/

/-- Application ids that are kept in capitals. -/
def reservedApps : List String := ["HOST", "FLUME_HANDLER"]

/-- An id that is not blank. -/
def nonempty? (id : Option String) : Option String := id.filter fun s => s != ""

/-- The application id as it is stored: lower-cased, unless it is reserved. -/
def app (r : Request) : Option String :=
  (nonempty? r.givenApp).map fun id =>
    if reservedApps.contains id then id else Text.lowercase id

/-- The instance id. -/
def instanceId (r : Request) : Option String := nonempty? r.givenInstance

/-! ## The window -/

/-- Times below this are taken for seconds, all others for milliseconds.  That mistakes
    milliseconds of the first months of 1970, and seconds after 2286. -/
def secondsBelow : Int := 9999999999

/-- A time in milliseconds. -/
def toMillis (time : Int) : Int :=
  if time < secondsBelow then Saturated.mul time 1000 else time

example : toMillis 9999999998 = 9999999998000 ∧ toMillis 9999999999 = 9999999999 := by decide
example : toMillis (-9300000000000000) = Saturated.least := by decide

/-- The first moment of the window. -/
def start (r : Request) : Option Int := r.givenStart.map toMillis

/-- The moment at which the window is over. -/
def finish (r : Request) : Option Int := r.givenFinish.map toMillis

/-- The length of the window in milliseconds, if it has both ends. -/
def rangeMillis (r : Request) : Option Int :=
  match r.start, r.finish with
  | some start, some finish => some (Saturated.sub finish start)
  | _, _ => none

/-! ## The shape of the answer -/

/-- How many rows to return at most.  A request that pins its granularity, or asks for every row,
    has no such cap. -/
def limit (r : Request) (default : Int) : Option Int :=
  if r.unlimited || r.granularity.isSome then none else some (r.givenLimit.getD default)

/-- The request asking for every row. -/
def withoutLimit (r : Request) : Request := { r with unlimited := true }

/-- Does it ask for nothing in particular?  Identities alone are not enough to ask for something. -/
def isEmpty (r : Request) : Bool :=
  r.names.isEmpty && !r.hasHosts && r.app.isNone && r.instanceId.isNone
    && r.givenStart.isNone && r.givenFinish.isNone

/-- Are its lists such that hosts can be ranked? -/
def ranksHosts (r : Request) : Bool := Ranking.overHosts r.names r.hosts

/-- Are its lists such that metrics can be ranked? -/
def ranksMetrics (r : Request) : Bool := Ranking.overMetrics r.names r.hosts

/-! ## One lookup per identity -/

/-- The lookup of one identity on behalf of a request. -/
structure Lookup where
  request : Request
  identity : Bytes

/-- A lookup for each identity of the request, in order. -/
def lookups (r : Request) : List Lookup := r.identities.map fun identity => ⟨r, identity⟩

end Request

end Rollup
