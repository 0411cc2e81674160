/-
  The row budget.

  A request's answer is estimated at one row for each interval of its window, for each of its
  names and each of its hosts.  `finest` walks the granularities from the finest and takes the
  first whose estimate is within the limit and whose table still keeps the start of the window;
  the table of days answers whatever no other can.  A granularity that the caller pins is taken as
  it is, but its estimate must be within the limit, and pinning it means asking for every row.
-/
import Rollup.Request
import Rollup.Settings

namespace Rollup.Settings

/-! ## Estimates -/

/-- Milliseconds of a second. -/
def millisPerSecond : Int := 1000

/-- Rows of one series over a window of `rangeMillis`.  A window that ends before it starts has
    none, and an interval below the unit of the table counts as that unit. -/
def rows (s : Settings) (scope : Scope) (granularity : Granularity) (rangeMillis : Int) : Int :=
  let range := max rangeMillis 0
  match granularity with
  | .seconds => (range.tdiv millisPerSecond).tdiv (max (s.intervals scope).second 1)
  | .minutes =>
    (range.tdiv (60 * millisPerSecond)).tdiv (max ((s.intervals scope).minute.tdiv 60) 1)
  | .hours => range.tdiv (3600 * millisPerSecond)
  | .days => range.tdiv (86400 * millisPerSecond)

/-- Rows of the answer to a request; a request without hosts counts as one. -/
def estimate (s : Settings) (r : Request) (granularity : Granularity) : Int :=
  Saturated.mul
    (Saturated.mul (s.rows r.scope granularity (r.rangeMillis.getD 0)) r.names.length)
    (max r.hostCount 1 : Nat)

/-- Does the table of that granularity still keep the start of the window?  A window without a
    start reaches back further than any table. -/
def retains (s : Settings) (r : Request) (granularity : Granularity) (now : Int) : Bool :=
  match r.start with
  | none => false
  | some start =>
    let kept := Saturated.mul (s.retention r.scope granularity) millisPerSecond
    decide (Saturated.sub now kept ≤ start)

/-! ## Choosing a granularity -/

/-- Can the request be answered at that granularity? -/
def admits (s : Settings) (r : Request) (now : Int) (granularity : Granularity) : Bool :=
  decide (s.estimate r granularity ≤ s.resultLimit) && s.retains r granularity now

/-- The finest granularity at which the request can be answered, or else days. -/
def finest (s : Settings) (r : Request) (now : Int) : Granularity :=
  (Granularity.all.find? (s.admits r now)).getD .days

/-- Refuses a request whose estimate is over the limit.  Without names there is nothing to
    estimate. -/
def checkBudget (s : Settings) (r : Request) (granularity : Granularity) : Except PlanError Unit :=
  if r.names.isEmpty then .ok ()
  else if s.resultLimit < s.estimate r granularity then
    .error (.overBudget r.names.length (max r.hostCount 1) granularity
      ((r.rangeMillis.getD 0).tdiv millisPerSecond) (s.estimate r granularity) s.resultLimit)
  else .ok ()

/-- Refuses a request whose estimate at the granularity it pins is over the limit. -/
def checkPinned (s : Settings) (r : Request) : Except PlanError Unit :=
  match r.granularity with
  | some granularity => s.checkBudget r granularity
  | none => .ok ()

/-- The granularity at which a request is read. -/
def resolve (s : Settings) (r : Request) (now : Int) : Except PlanError Granularity :=
  match r.granularity with
  | some granularity => (s.checkBudget r granularity).map fun _ => granularity
  | none => .ok (s.finest r now)

end Rollup.Settings

namespace Rollup.Request

/-- The request once its granularity has been looked for, whether or not one was found: if it pins
    one, it asks for every row. -/
def resolved (r : Request) : Request := if r.granularity.isSome then r.withoutLimit else r

end Rollup.Request
