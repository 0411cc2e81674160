/-
  Settings of the planner.

  How many rows an answer may have, how far apart the rows of each table are, and how long each
  table keeps them.  Rows of hours and days come at the full hour and day, so only the two finer
  granularities have an interval to set.
-/
import Rollup.Granularity

namespace Rollup

/-- Seconds between consecutive rows, in the tables of seconds and of minutes. -/
structure Intervals where
  second : Int
  minute : Int
  deriving DecidableEq

/-- Seconds for which rows are kept, by granularity. -/
structure Retention where
  seconds : Int
  minutes : Int
  hours : Int
  days : Int
  deriving DecidableEq

/-- The retention of one granularity. -/
def Retention.of (t : Retention) : Granularity → Int
  | .seconds => t.seconds
  | .minutes => t.minutes
  | .hours => t.hours
  | .days => t.days

/-- What the planner goes by. -/
structure Settings where
  /-- How many rows an answer may be estimated at. -/
  resultLimit : Int
  /-- The cap on rows when a request neither gives one nor pins a granularity. -/
  defaultLimit : Int
  defaultFetchSize : Option Int
  /-- Ask the store for a sort-merge join when latest rows are read. -/
  sortMergeJoin : Bool
  hostIntervals : Intervals
  clusterIntervals : Intervals
  hostRetention : Retention
  clusterRetention : Retention
  deriving DecidableEq

namespace Settings

/-- The seconds of a day. -/
def day : Int := 86400

/-- The settings that hold unless others are given. -/
def standard : Settings where
  resultLimit := 5760
  defaultLimit := 5760
  defaultFetchSize := none
  sortMergeJoin := false
  hostIntervals := { second := 60, minute := 300 }
  clusterIntervals := { second := 30, minute := 300 }
  hostRetention := { seconds := day, minutes := 7 * day, hours := 30 * day, days := 365 * day }
  clusterRetention :=
    { seconds := 7 * day, minutes := 30 * day, hours := 365 * day, days := 730 * day }

/-- The standard settings with one limit for both estimates and answers. -/
def embedded (limit : Int) : Settings :=
  { standard with resultLimit := limit, defaultLimit := limit }

/-- The intervals of a scope. -/
def intervals (s : Settings) : Scope → Intervals
  | .perHost => s.hostIntervals
  | .cluster => s.clusterIntervals

/-- Seconds for which the table of a scope and granularity keeps its rows. -/
def retention (s : Settings) : Scope → Granularity → Int
  | .perHost => s.hostRetention.of
  | .cluster => s.clusterRetention.of

end Settings

end Rollup
