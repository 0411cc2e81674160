/-
  Granularities and statistics: the two small vocabularies of a request.

  Series are kept in tables of four granularities.  A statistic says what a ranking compares.
-/
import Rollup.Document

namespace Rollup

/-- How much time one row stands for. -/
inductive Granularity
  | seconds
  | minutes
  | hours
  | days
  deriving DecidableEq

namespace Granularity

/-- All of them, the finest first. -/
def all : List Granularity := [.seconds, .minutes, .hours, .days]

/-- The name by which it is shown and sent. -/
def name : Granularity → String
  | seconds => "SECONDS"
  | minutes => "MINUTES"
  | hours => "HOURS"
  | days => "DAYS"

theorem mem_all (g : Granularity) : g ∈ all := by cases g <;> decide

/-- The document of a granularity is its name. -/
def document (g : Granularity) : Document := .text g.name

end Granularity

/-- What a row's readings are reduced to. -/
inductive Statistic
  | value
  | avg
  | min
  | max
  | sum
  deriving DecidableEq

namespace Statistic

/-- All of them. -/
def all : List Statistic := [.value, .avg, .min, .max, .sum]

/-- The name by which it is sent. -/
def name : Statistic → String
  | value => "value"
  | avg => "avg"
  | min => "min"
  | max => "max"
  | sum => "sum"

theorem mem_all (f : Statistic) : f ∈ all := by cases f <;> decide

/-- The document of a statistic is its name. -/
def document (f : Statistic) : Document := .text f.name

end Statistic

/-- Whose rows are read: those of every host, or those aggregated over the cluster. -/
inductive Scope
  | perHost
  | cluster
  deriving DecidableEq

end Rollup
